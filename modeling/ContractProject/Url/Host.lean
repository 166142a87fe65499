import ContractProject.Url.Domain
import ContractProject.Url.Percent

/-!
Hosts of URLs: domain names in their ASCII form, and the two kinds of internet addresses.
-/

namespace ContractProject.Url

inductive Host where
  | domain (name : List Char)
  | ipv4 (value : Nat)
  /-- Eight pieces of sixteen bits. -/
  | ipv6 (pieces : List Nat)
  deriving DecidableEq, Repr

def isForbiddenInDomain (c : Char) : Bool :=
  isControl c || " #%/:<>?@[\\]^|".toList.contains c

/-! ### Addresses of four bytes -/

def numberIn (base : Nat) (digits : List Char) : Option Nat :=
  digits.foldlM
    (fun n c => ((Hex.value? c).filter (· < base)).map fun d => n * base + d)
    0

/-- A number in base ten, or sixteen after `0x`, or eight after `0`. -/
def number? : List Char → Option Nat
  | [] => none
  | '0' :: 'x' :: digits => numberIn 16 digits
  | '0' :: 'X' :: digits => numberIn 16 digits
  | ['0'] => some 0
  | '0' :: digits => numberIn 8 digits
  | digits => numberIn 10 digits

/-- The labels of a domain, of which an empty last one does not count. -/
def countedLabels (domain : List Char) : List (List Char) :=
  let labels := splitOn '.' domain
  if labels.getLast? = some [] then labels.dropLast else labels

/-- Only addresses end in a number. -/
def endsInNumber (domain : List Char) : Bool :=
  match (countedLabels domain).getLast? with
  | none => false
  | some [] => false
  | some last => last.all Text.isAsciiDigit || (number? last).isSome

/-- The value of numbers of which each is a byte but the last, which fills what is left. -/
def ipv4Value? (numbers : List Nat) : Option Nat :=
  match numbers.reverse with
  | [] => none
  | last :: before =>
    let bytes := before.reverse
    if 3 < bytes.length || bytes.any (255 < ·) || 1 <<< (8 * (4 - bytes.length)) ≤ last then none
    else some (bytes.foldl (fun n b => n * 256 + b) 0 <<< (8 * (4 - bytes.length)) + last)

def ipv4? (domain : List Char) : Option Nat :=
  ((countedLabels domain).mapM number?).bind ipv4Value?

/-! ### Addresses of eight pieces -/

/-- A number below 256 without leading zeros. -/
def byte? (digits : List Char) : Option Nat :=
  match digits with
  | [] => none
  | first :: rest =>
    if first = '0' && !rest.isEmpty then none
    else if !digits.all Text.isAsciiDigit then none
    else (numberIn 10 digits).filter (· ≤ 255)

/-- Two pieces written as four bytes. -/
def dottedPieces? (text : List Char) : Option (List Nat) := do
  match ← (splitOn '.' text).mapM byte? with
  | [a, b, c, d] => return [a * 256 + b, c * 256 + d]
  | _ => none

/-- Pieces with colons between them, the last of which may be written as bytes. -/
def pieces? : List (List Char) → Option (List Nat)
  | [] => some []
  | [last] =>
    if last.contains '.' then dottedPieces? last
    else if last.isEmpty || 4 < last.length then none
    else (numberIn 16 last).map ([·])
  | piece :: rest =>
    if piece.isEmpty || 4 < piece.length then none
    else do return (← numberIn 16 piece) :: (← pieces? rest)

/-- The texts before and after the first `::`. -/
def cutAtGap? : List Char → Option (List Char × List Char)
  | ':' :: ':' :: rest => some ([], rest)
  | c :: rest => (cutAtGap? rest).map fun (before, after) => (c :: before, after)
  | [] => none

def piecesOf? (text : List Char) : Option (List Nat) :=
  if text.isEmpty then some [] else pieces? (splitOn ':' text)

/-- Eight pieces, or fewer with one gap, which stands for at least one zero. -/
def ipv6? (text : List Char) : Option (List Nat) :=
  match cutAtGap? text with
  | none => (pieces? (splitOn ':' text)).filter (·.length = 8)
  | some (before, after) => do
    if before.contains '.' then none
    let before ← piecesOf? before
    let after ← piecesOf? after
    if 7 < before.length + after.length then none
    return before ++ List.replicate (8 - before.length - after.length) 0 ++ after

/-! ### Hosts -/

def Host.parse? (text : List Char) : Option Host :=
  match text with
  | '[' :: rest =>
    if rest.getLast? = some ']' then (ipv6? rest.dropLast).map .ipv6 else none
  | _ => do
    let plain ← (Utf8.decode (percentDecode text)).toOption
    let domain ← asciiDomain? plain
    if domain.isEmpty || domain.any isForbiddenInDomain then none
    else if endsInNumber domain then (ipv4? domain).map .ipv4
    else some (.domain domain)

/-- How many zeros a list starts with. -/
def leadingZeros (pieces : List Nat) : Nat := (pieces.takeWhile (· = 0)).length

/-- The position and length of the first of the longest runs of zeros. -/
def longestGap (position : Nat) : List Nat → Nat × Nat
  | [] => (position, 0)
  | piece :: rest =>
    let here := leadingZeros (piece :: rest)
    let later := longestGap (position + 1) rest
    if later.2 ≤ here then (position, here) else later

def joinedPieces (pieces : List Nat) : List Char :=
  List.intercalate [':'] (pieces.map Hex.minimalDigits)

/-- Pieces in hexadecimal digits. The longest run of two zeros or more is left out. -/
def ipv6Text (pieces : List Nat) : List Char :=
  match longestGap 0 pieces with
  | (position, length) =>
    if length < 2 then joinedPieces pieces
    else
      joinedPieces (pieces.take position) ++ [':', ':']
        ++ joinedPieces (pieces.drop (position + length))

def Host.toText : Host → List Char
  | .domain name => name
  | .ipv4 value =>
    List.intercalate ['.']
      ((List.range 4).map fun i => (toString (value >>> (8 * (3 - i)) % 256)).toList)
  | .ipv6 pieces => '[' :: ipv6Text pieces ++ [']']

end ContractProject.Url
