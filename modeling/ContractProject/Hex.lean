import ContractProject.Text.Utf8

/-!
Hexadecimal digits: lowercase when written, either case when read.
-/

namespace ContractProject.Hex

def digit (n : Nat) : Char :=
  if n < 10 then Char.ofNat ('0'.toNat + n) else Char.ofNat ('a'.toNat + (n - 10))

def value? (c : Char) : Option Nat :=
  if '0' ≤ c && c ≤ '9' then some (c.toNat - '0'.toNat)
  else if 'a' ≤ c && c ≤ 'f' then some (c.toNat - 'a'.toNat + 10)
  else if 'A' ≤ c && c ≤ 'F' then some (c.toNat - 'A'.toNat + 10)
  else none

/-- The last `width` digits of `n`, most significant first. -/
def digits : (width n : Nat) → List Char
  | 0, _ => []
  | width + 1, n => digits width (n / 16) ++ [digit (n % 16)]

/-- As many digits as `n` needs, at least one. -/
def minimalDigits (n : Nat) : List Char :=
  if n < 16 then [digit n] else minimalDigits (n / 16) ++ [digit (n % 16)]
termination_by n
decreasing_by omega

def encode (bytes : Bytes) : String :=
  String.ofList (bytes.flatMap fun b => digits 2 b.toNat)

/-- Two digits a byte. -/
def decode? : List Char → Option Bytes
  | [] => some []
  | high :: low :: rest => do
    let n := (← value? high) * 16 + (← value? low)
    return UInt8.ofNat n :: (← decode? rest)
  | [_] => none

end ContractProject.Hex
