import ContractProject.Text.Letter
import ContractProject.Text.Utf8

/-!
Base64 with the standard alphabet. Padding may be left out; where it is written it must be right,
and bits that stand for no byte must be zero.
-/

namespace ContractProject.Base64

def padding : Char := '='

/-- The six bits that a character stands for. -/
def value? (c : Char) : Option Nat :=
  if 'A' ≤ c && c ≤ 'Z' then some (c.toNat - 'A'.toNat)
  else if 'a' ≤ c && c ≤ 'z' then some (c.toNat - 'a'.toNat + 26)
  else if Text.isAsciiDigit c then some (c.toNat - '0'.toNat + 52)
  else if c = '+' then some 62
  else if c = '/' then some 63
  else none

/-- The bytes of groups of six bits, four of which make three bytes. Two or three may be left at the
end, whose surplus bits are zero. -/
def bytes? : List Nat → Option Bytes
  | [] => some []
  | [_] => none
  | [a, b] => if b % 16 = 0 then some [UInt8.ofNat (a * 4 + b / 16)] else none
  | [a, b, c] =>
    if c % 4 = 0 then
      some [UInt8.ofNat (a * 4 + b / 16), UInt8.ofNat (b % 16 * 16 + c / 4)]
    else none
  | a :: b :: c :: d :: rest =>
    (bytes? rest).map fun bytes =>
      UInt8.ofNat (a * 4 + b / 16) :: UInt8.ofNat (b % 16 * 16 + c / 4)
        :: UInt8.ofNat (c % 4 * 64 + d) :: bytes

/-- Whether so many padding characters may follow so many others: none, or no more than what is
missing from a group of four, of which two characters must be there. -/
def isPadding (padding body : Nat) : Bool :=
  padding = 0 || (2 ≤ body % 4 && body % 4 + padding ≤ 4)

def decode? (text : String) : Option Bytes :=
  let body := (text.toList.reverse.dropWhile (· = padding)).reverse
  if isPadding (text.length - body.length) body.length then (body.mapM value?).bind bytes? else none

end ContractProject.Base64
