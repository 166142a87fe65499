import ContractProject.Binary64

/-!
Numbers of JSON documents: their spelling, the values kept for them, and how values are written.
-/

namespace ContractProject.Json

/-- A number as it is spelled: digits before the point, after it, and the exponent. -/
structure NumberLiteral where
  negative : Bool
  whole : List Char
  fraction : Option (List Char)
  exponent : Option (Bool × List Char)
  deriving DecidableEq, Repr

/-- A kept number: an integer between -2⁶³ and 2⁶⁴ - 1, or a double. -/
inductive Number where
  | integer (n : Int)
  | double (x : Binary64)
  deriving DecidableEq, Repr

def digitValue (c : Char) : Nat := c.toNat - '0'.toNat

def digitsValue (digits : List Char) : Nat :=
  digits.foldl (fun n c => n * 10 + digitValue c) 0

/-- The significand is kept in 64 bits. -/
def significandLimit : Nat := UInt64.size

/-- Leading digits of a number as far as they fit into the significand, and how many were taken and
how many dropped. From the first digit that does not fit on, all are dropped. -/
structure Leading where
  significand : Nat
  taken : Nat
  dropped : Nat
  deriving DecidableEq, Repr

def Leading.push (l : Leading) (c : Char) : Leading :=
  let next := l.significand * 10 + digitValue c
  if l.dropped = 0 ∧ next < significandLimit then ⟨next, l.taken + 1, 0⟩
  else { l with dropped := l.dropped + 1 }

/-- The double nearest to a power of ten that has one. -/
def powerOfTen (k : Nat) : Binary64 :=
  (Binary64.ofRatio? false (Nat.pow 10 k) 1).getD (.zero false)

/-- The greatest power of ten that is used as one factor. -/
def greatestPower : Nat := 308

/-- A double divided `n` times by the greatest power, until it is zero. -/
def dividedAway? (x : Binary64) : Nat → Option Binary64
  | 0 => some x
  | n + 1 =>
    if x.isZero then some x
    else
      match x.div? (powerOfTen greatestPower) with
      | none => none
      | some y => dividedAway? y n

/-- A double times a power of ten, by one rounded product or by rounded quotients, each by a power
that is itself rounded; none past the greatest finite double. -/
def scaled? (x : Binary64) (exponent : Int) : Option Binary64 :=
  let k := exponent.natAbs
  if 0 ≤ exponent then
    if k ≤ greatestPower then x.mul? (powerOfTen k)
    else if x.isZero then some x
    else none
  else
    let times := (k - 1) / greatestPower
    match dividedAway? x times with
    | none => none
    | some y => if y.isZero then some y else y.div? (powerOfTen (k - times * greatestPower))

/-- The double for a significand and a power of ten. -/
def doubleOf? (negative : Bool) (significand : Nat) (exponent : Int) : Option Number := do
  let x ← scaled? (← Binary64.ofRatio? false significand 1) exponent
  return .double (if negative then x.neg else x)

/-- The value of a spelled number, none when it is past the greatest finite double. A number with
neither point nor exponent is an integer where that fits; minus zero is a double. -/
def NumberLiteral.value? (l : NumberLiteral) : Option Number :=
  let whole := l.whole.foldl Leading.push ⟨0, 0, 0⟩
  let fraction := (l.fraction.getD []).foldl Leading.push ⟨whole.significand, 0, 0⟩
  let exponent : Int :=
    match l.exponent with
    | none => 0
    | some (negative, digits) => if negative then -(digitsValue digits) else digitsValue digits
  if l.fraction.isNone && l.exponent.isNone && whole.dropped = 0 then
    if !l.negative then some (.integer whole.significand)
    else if whole.significand = 0 ∨ significandLimit / 2 < whole.significand then
      doubleOf? true whole.significand 0
    else some (.integer (-whole.significand))
  else
    doubleOf? l.negative fraction.significand (exponent + whole.dropped - fraction.taken)

/-- Written with a point when the leading digit's exponent is at least this … -/
def leastPositional : Int := -5

/-- … and less than this, and with an exponent otherwise. -/
def firstScientific : Int := 16

def signedExponent (e : Int) : List Char :=
  (if e < 0 then ['e', '-'] else ['e', '+']) ++ Nat.toDigits 10 e.natAbs

/-- A decimal with a point and at least one digit on either side, or with an exponent. -/
def decimalText (d : Binary64.Decimal) : List Char :=
  let digits := Nat.toDigits 10 d.digits
  let lead := d.exponent + digits.length - 1
  if leastPositional ≤ lead ∧ lead < firstScientific then
    if 0 ≤ d.exponent then digits ++ List.replicate d.exponent.toNat '0' ++ ['.', '0']
    else if 0 ≤ lead then
      digits.take (lead.toNat + 1) ++ ['.'] ++ digits.drop (lead.toNat + 1)
    else ['0', '.'] ++ List.replicate (-lead - 1).toNat '0' ++ digits
  else
    match digits with
    | [] => []
    | [c] => c :: signedExponent lead
    | c :: rest => c :: '.' :: rest ++ signedExponent lead

def doubleText (x : Binary64) : List Char :=
  (if x.negative then ['-'] else []) ++
    (if x.isZero then ['0', '.', '0'] else decimalText x.shortest)

def Number.toText : Number → List Char
  | .integer n => (if n < 0 then ['-'] else []) ++ Nat.toDigits 10 n.natAbs
  | .double x => doubleText x

end ContractProject.Json
