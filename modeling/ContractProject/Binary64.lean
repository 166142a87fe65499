/-!
Finite double precision numbers as exact dyadic rationals: rounding to the nearest one, the product
and quotient rounded so, and the shortest decimal that rounds back.
-/

namespace ContractProject

/-- The number `± significand · 2 ^ exponent`. The significand has at most 53 bits, and exactly 53
unless the exponent is the least one, -1074. -/
structure Binary64 where
  negative : Bool
  significand : Nat
  exponent : Int
  deriving DecidableEq, Repr

namespace Binary64

def leastExponent : Int := -1074

def greatestExponent : Int := 971

def zero (negative : Bool) : Binary64 := ⟨negative, 0, leastExponent⟩

def isZero (x : Binary64) : Bool := x.significand = 0

/-- The integer nearest to a quotient, of two equally near ones the even one. -/
def roundDiv (num den : Nat) : Nat :=
  let q := num / den
  let twice := 2 * (num % den)
  if twice < den then q
  else if den < twice then q + 1
  else if q % 2 = 0 then q else q + 1

/-- The quotient of two numbers, divided by a power of two, as a pair again. -/
def scaleRatio (num den : Nat) (e : Int) : Nat × Nat :=
  (num <<< (-e).toNat, den <<< e.toNat)

/-- The nearest number to `num / den`, ties to even; none past the greatest finite one. -/
def ofRatio? (negative : Bool) (num den : Nat) : Option Binary64 :=
  if num = 0 then some (zero negative)
  else
    let near := max ((num.log2 : Int) - den.log2 - 53) leastExponent
    let (n, d) := scaleRatio num den near
    let e := if d <<< 53 ≤ n then near + 1 else near
    let (n, d) := scaleRatio num den e
    let m := roundDiv n d
    let (m, e) := if m = 1 <<< 53 then (1 <<< 52, e + 1) else (m, e)
    if greatestExponent < e then none else some ⟨negative, m, e⟩

def num (x : Binary64) : Nat := x.significand <<< x.exponent.toNat

def den (x : Binary64) : Nat := 1 <<< (-x.exponent).toNat

def mul? (x y : Binary64) : Option Binary64 :=
  ofRatio? (x.negative != y.negative) (x.num * y.num) (x.den * y.den)

def div? (x y : Binary64) : Option Binary64 :=
  ofRatio? (x.negative != y.negative) (x.num * y.den) (x.den * y.num)

def neg (x : Binary64) : Binary64 := { x with negative := !x.negative }

/-- How many decimal digits a positive integer has. -/
def decimalLength (n : Nat) : Nat := (Nat.toDigits 10 n).length

/-- The exponent of the leading decimal digit of a positive quotient. -/
def leadingExponent (num den : Nat) : Int :=
  if den ≤ num then (decimalLength (num / den) : Int) - 1
  else
    let l := decimalLength (den / num)
    if den ≤ num * Nat.pow 10 (l - 1) then -((l : Int) - 1) else -(l : Int)

/-- A decimal `digits · 10 ^ exponent`. -/
structure Decimal where
  digits : Nat
  exponent : Int
  deriving DecidableEq, Repr

/-- The two sides of comparing `c · 10 ^ k` with `x · 2 ^ e`. -/
def compareSides (c : Nat) (k : Int) (x : Nat) (e : Int) : Nat × Nat :=
  ((c * Nat.pow 10 k.toNat) <<< (-e).toNat, x <<< e.toNat * Nat.pow 10 (-k).toNat)

/-- Whether a decimal lies where all reals round to `x`: up to half way to the neighbours, half way
itself included if the significand is even. -/
def roundsBack (x : Binary64) (c : Nat) (k : Int) : Bool :=
  let m := x.significand
  let below := if m = 1 <<< 52 ∧ leastExponent < x.exponent then 1 else 2
  let (c₁, low) := compareSides c k (4 * m - below) (x.exponent - 2)
  let (c₂, high) := compareSides c k (4 * m + 2) (x.exponent - 2)
  if m % 2 = 0 then low ≤ c₁ && c₂ ≤ high else low < c₁ && c₂ < high

/-- Of the two neighbours of `x` on the grid of multiples of `10 ^ k`, the nearest one that rounds
back. -/
def onGrid? (x : Binary64) (k : Int) : Option Decimal :=
  let n := x.num * Nat.pow 10 (-k).toNat
  let d := x.den * Nat.pow 10 k.toNat
  let c := n / d
  let r := n % d
  let belowFirst := 2 * r < d || (2 * r = d && c % 2 = 0)
  let order := if belowFirst then [c, c + 1] else [c + 1, c]
  (order.find? (x.roundsBack · k)).map (⟨·, k⟩)

/-- Moves trailing zeros of the digits into the exponent. -/
def Decimal.trim (d : Decimal) : Decimal :=
  let zeros := ((Nat.toDigits 10 d.digits).reverse.takeWhile (· = '0')).length
  ⟨d.digits / Nat.pow 10 zeros, d.exponent + zeros⟩

/-- The decimal of fewest digits that rounds back to a positive `x`, of those the nearest. Seventeen
digits always suffice. -/
def shortest (x : Binary64) : Decimal :=
  let e := leadingExponent x.num x.den
  match (List.range 17).findSome? fun n : Nat => x.onGrid? (e - n) with
  | some d => d.trim
  | none => ⟨x.num / x.den, 0⟩

end Binary64

end ContractProject
