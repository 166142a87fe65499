import ContractProject.Text.Letter

/-!
Punycode: labels of domain names in ASCII letters, digits and hyphens. The ASCII characters of a
label come first; then one number for each of the others, in ascending order, says where it goes.
-/

namespace ContractProject.Url.Punycode

def base : Nat := 36

def leastThreshold : Nat := 1

def greatestThreshold : Nat := 26

/-- The digit of a number below the base: letters first. -/
def digit (n : Nat) : Char :=
  if n < 26 then Char.ofNat ('a'.toNat + n) else Char.ofNat ('0'.toNat + (n - 26))

def value? (c : Char) : Option Nat :=
  if 'a' ≤ c && c ≤ 'z' then some (c.toNat - 'a'.toNat)
  else if 'A' ≤ c && c ≤ 'Z' then some (c.toNat - 'A'.toNat)
  else if Text.isAsciiDigit c then some (c.toNat - '0'.toNat + 26)
  else none

/-- Digits below the threshold of their place end a number. -/
def threshold (bias place : Nat) : Nat :=
  max leastThreshold (min greatestThreshold ((place + 1) * base - bias))

theorem threshold_bounds (bias place : Nat) :
    1 ≤ threshold bias place ∧ threshold bias place ≤ 26 := by
  unfold threshold leastThreshold greatestThreshold
  omega

/-- A number, its least significant digit first. -/
def number (bias place n : Nat) : List Char :=
  let t := threshold bias place
  if n < t then [digit n]
  else digit (t + (n - t) % (base - t)) :: number bias (place + 1) ((n - t) / (base - t))
termination_by n
decreasing_by
  have ⟨h1, h26⟩ := threshold_bounds bias place
  unfold base
  refine Nat.lt_of_le_of_lt (Nat.div_le_self _ _) ?_
  omega

/-- Reads a number, of which `sum` is read already and the next digit counts `weight` times. -/
def number? (bias place sum weight : Nat) : List Char → Option (Nat × List Char)
  | [] => none
  | c :: rest => do
    let d ← value? c
    let t := threshold bias place
    if d < t then return (sum + d * weight, rest)
    else number? bias (place + 1) (sum + d * weight) (weight * (base - t)) rest

def initialBias : Nat := 72

def initialScalar : Nat := 0x80

/-- How many places the numbers that follow one of this size need, roughly, and its last step. -/
def places (count delta : Nat) : Nat :=
  if delta ≤ 455 then count * base + base * delta / (delta + 38)
  else places (count + 1) (delta / 35)
termination_by delta
decreasing_by omega

/-- The bias after a number, the first one or a later one, with so many characters in place. -/
def adaptedBias (delta characters : Nat) (first : Bool) : Nat :=
  let delta := if first then delta / 700 else delta / 2
  places 0 (delta + delta / characters)

/-- A label that is being written. -/
structure Writing where
  delta : Nat
  /-- How many characters are in place. -/
  placed : Nat
  bias : Nat
  first : Bool
  digits : List Char
  deriving DecidableEq, Repr

/-- Passes a character of the label while the ones with this scalar value are put in place. -/
def Writing.pass (scalar : Nat) (w : Writing) (c : Char) : Writing :=
  if c.toNat < scalar then { w with delta := w.delta + 1 }
  else if c.toNat = scalar then
    { delta := 0
      placed := w.placed + 1
      bias := adaptedBias w.delta (w.placed + 1) w.first
      first := false
      digits := w.digits ++ number w.bias 0 w.delta }
  else w

/-- Puts the characters with each of these scalar values in place, in ascending order from `least`
on. -/
def Writing.passAll (label : List Char) (least : Nat) (w : Writing) : List Nat → Writing
  | [] => w
  | scalar :: rest =>
    let w := { w with delta := w.delta + (scalar - least) * (w.placed + 1) }
    let w := label.foldl (Writing.pass scalar) w
    passAll label (scalar + 1) { w with delta := w.delta + 1 } rest

def isAscii (c : Char) : Bool := c.toNat < 0x80

def encode (label : List Char) : List Char :=
  let ascii := label.filter isAscii
  let scalars := ((label.filter (!isAscii ·)).map Char.toNat).mergeSort.eraseDups
  let start : Writing := ⟨0, ascii.length, initialBias, true, []⟩
  (if ascii.isEmpty then [] else ascii ++ ['-'])
    ++ (Writing.passAll label initialScalar start scalars).digits

/-- Puts the characters in place that the digits tell of, at most so many. -/
def placeAll? : Nat → (scalar position bias : Nat) → (first : Bool) → List Char → List Char →
    Option (List Char)
  | _, _, _, _, _, label, [] => some label
  | 0, _, _, _, _, _, _ => none
  | n + 1, scalar, position, bias, first, label, digits => do
    let (sum, rest) ← number? bias 0 position 1 digits
    let count := label.length + 1
    let scalar := scalar + sum / count
    if h : scalar.isValidChar then
      placeAll? n scalar (sum % count + 1) (adaptedBias (sum - position) count first) false
        (label.insertIdx (sum % count) (Char.ofNatAux scalar h)) rest
    else none

/-- The text before the last hyphen and the one after it. -/
def splitAtHyphen (text : List Char) : List Char × List Char :=
  let digits := (text.reverse.takeWhile (· ≠ '-')).reverse
  (text.take (text.length - digits.length - 1), digits)

def decode? (text : List Char) : Option (List Char) :=
  let (ascii, digits) := splitAtHyphen text
  if ascii.all isAscii then
    placeAll? digits.length initialScalar 0 initialBias true ascii digits
  else none

end ContractProject.Url.Punycode
