import ContractProject.Hex
import ContractProject.Text.Letter

/-!
Account addresses: eight bytes, read from up to sixteen hexadecimal digits and shown as exactly
sixteen.
-/

namespace ContractProject

namespace Text

/-- Whether the Latin-1 character with this code is shown as it is. -/
def isPrintableLatin (n : Nat) : Bool :=
  (0x20 ≤ n && n ≤ 0x7E) || (0xA1 ≤ n && n ≠ 0xAD)

def escapedLatin (b : UInt8) : List Char :=
  match b.toNat with
  | 0 => ['\\', '0']
  | 9 => ['\\', 't']
  | 10 => ['\\', 'n']
  | 13 => ['\\', 'r']
  | 39 => ['\\', '\x27']
  | 92 => ['\\', '\\']
  | n =>
    if isPrintableLatin n then [Char.ofNat n]
    else ['\\', 'u', '\x7b'] ++ Hex.minimalDigits n ++ ['\x7d']

/-- A byte shown as a quoted character: printable ones as they are, the rest escaped. -/
def charLiteral (b : UInt8) : String :=
  String.ofList (['\x27'] ++ escapedLatin b ++ ['\x27'])

end Text

/-- An account address as the big-endian value of its eight bytes. -/
structure Address where
  value : Fin UInt64.size
  deriving DecidableEq, Repr, Inhabited

namespace Address

def zero : Address := ⟨0⟩

def ofNat (n : Nat) : Address := ⟨Fin.ofNat UInt64.size n⟩

def toNat (a : Address) : Nat := a.value.val

/-- Sixteen lowercase digits, most significant first. -/
def toHex (a : Address) : String := String.ofList (Hex.digits 16 a.toNat)

/-- The form written in import declarations. -/
def toLiteral (a : Address) : String := "0x" ++ a.toHex

def bytes (a : Address) : Bytes :=
  (List.range 8).map fun i => UInt8.ofNat (a.toNat >>> (8 * (7 - i)))

instance : LE Address := ⟨fun a b => a.toNat ≤ b.toNat⟩

instance (a b : Address) : Decidable (a ≤ b) := inferInstanceAs (Decidable (a.toNat ≤ b.toNat))

/-- Why a text is no address. -/
inductive Fault where
  | empty
  | tooLong
  | oddDigits
  | wrongLength
  | badDigit (byte : UInt8) (position : Nat)
  deriving DecidableEq, Repr

def Fault.reason : Fault → String
  | .empty => "address is empty"
  | .tooLong => "address is longer than 8 bytes"
  | .oddDigits => "Odd number of digits"
  | .wrongLength => "Invalid string length"
  | .badDigit byte position =>
    s!"Invalid character {Text.charLiteral byte} at position {position}"

def unprefixed : List Char → List Char
  | '0' :: 'x' :: digits => digits
  | '0' :: 'X' :: digits => digits
  | digits => digits

/-- Sixteen bytes of digits as a value, or the first byte that is none. -/
def ofDigitBytes (position n : Nat) : Bytes → Except Fault Nat
  | [] => .ok n
  | b :: rest =>
    match Hex.value? (Char.ofNat b.toNat) with
    | some d => ofDigitBytes (position + 1) (n * 16 + d) rest
    | none => .error (.badDigit b position)

/-- Reads digits without blanks and prefix. The length limit counts bytes, the padding to sixteen
counts characters, and the digits are bytes again. -/
def ofPadded (digits : List Char) : Except Fault Address :=
  if digits.isEmpty then .error .empty
  else if 16 < (Utf8.encode digits).length then .error .tooLong
  else
    let padded := Utf8.encode (List.replicate (16 - digits.length) '0' ++ digits)
    if padded.length % 2 ≠ 0 then .error .oddDigits
    else if padded.length ≠ 16 then .error .wrongLength
    else (ofDigitBytes 0 0 padded).map ofNat

/-- Reads an address, ignoring blanks around it and one `0x` or `0X` before it. -/
def parse (text : String) : Except Fault Address :=
  ofPadded (unprefixed (Text.trim text.toList))

end Address

end ContractProject
