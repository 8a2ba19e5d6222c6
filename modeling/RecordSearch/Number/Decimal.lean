import RecordSearch.Number.Double

/-!
# Decimals and doubles

A decimal is read in one of two ways. `Decimal.nearest?` gives the double nearest to its exact
value. `Double.shifted?` starts from a double and multiplies or divides by a power of ten, rounding
at each step, which can differ from the nearest one in the last place.

`Double.shortest` goes back: the fewest digits that the nearest reading turns into the number
again, and of two such decimals the nearer one. `Double.isReadFrom_onGrid` says that each decimal it
finds reads back.
-/

namespace RecordSearch

/-- The absolute value `digits * 10 ^ exponent`. -/
structure Decimal where
  /-- The digits as one whole number. -/
  digits : Nat
  /-- The power of ten that the last digit counts. -/
  exponent : Int
  deriving DecidableEq

namespace Decimal

/-- The double nearest to the decimal, a half going to the even significand; none where that is
out of range. The two outer cases are decided by the exponent alone: there the value is below half
of the smallest double, or above the largest. -/
def nearest? (negative : Bool) (d : Decimal) : Option Double :=
  if d.digits = 0 ∨ d.exponent < -(401 + d.digits.log2 : Int) then Double.ofMagnitude? negative 0
  else if 400 < d.exponent then none
  else if 0 ≤ d.exponent then
    Double.ofUnits? negative (d.digits * Nat.pow 10 d.exponent.toNat * Nat.pow 2 unitPlaces) 1
  else Double.ofUnits? negative (d.digits * Nat.pow 2 unitPlaces) (Nat.pow 10 (-d.exponent).toNat)

/-- The same value without trailing zeros. -/
def trimmed (d : Decimal) : Decimal :=
  if 0 < d.digits ∧ d.digits % 10 = 0 then trimmed ⟨d.digits / 10, d.exponent + 1⟩ else d
termination_by d.digits
decreasing_by exact Nat.div_lt_self (by omega) (by decide)

end Decimal

/-- Which of two equally near decimals is written. -/
inductive Tie where
  /-- The one whose last digit is even. -/
  | even
  /-- The larger one. -/
  | up
  deriving DecidableEq

namespace Double

/-- The largest power of ten that is a double. -/
def largestTenPower : Nat := 308

/-- The double nearest to a power of ten. -/
def tenPower? (power : Nat) : Option Double := Decimal.nearest? false ⟨1, power⟩

/-- The number divided by a power of ten, in rounded steps of at most `10 ^ 308`. -/
def lowered? (x : Double) (power : Nat) : Option Double :=
  if power ≤ largestTenPower then (tenPower? power).bind x.divide?
  else if x.isZero then some x
  else
    ((tenPower? largestTenPower).bind x.divide?).bind
      fun quotient => lowered? quotient (power - largestTenPower)
termination_by power
decreasing_by unfold largestTenPower at *; omega

/-- The number multiplied by a power of ten in one rounded step; none where that is out of range. -/
def raised? (x : Double) (power : Nat) : Option Double :=
  if power ≤ largestTenPower then (tenPower? power).bind x.multiply?
  else if x.isZero then some x else none

/-- The number times `10 ^ exponent`, rounded step by step. -/
def shifted? (x : Double) (exponent : Int) : Option Double :=
  if 0 ≤ exponent then x.raised? exponent.toNat else x.lowered? (-exponent).toNat

/-- The exponent of the leading decimal digit of a number that is not zero. Every such number has
a whole part when multiplied by `10 ^ 400`. -/
def leadingExponent (x : Double) : Int :=
  ((Nat.toDigits 10 (x.units * Nat.pow 10 400 / Nat.pow 2 unitPlaces)).length : Int) - 401

/-- The absolute value over `10 ^ exponent`, as dividend and divisor. -/
def overTenPower (x : Double) (exponent : Int) : Nat × Nat :=
  if 0 ≤ exponent then (x.units, Nat.pow 2 unitPlaces * Nat.pow 10 exponent.toNat)
  else (x.units * Nat.pow 10 (-exponent).toNat, Nat.pow 2 unitPlaces)

/-- Whether the nearest reading of a decimal is this number. -/
def isReadFrom (x : Double) (d : Decimal) : Bool := d.nearest? x.negative == some x

/-- The nearest multiple of `10 ^ exponent` that reads back as the number. Only the two neighbours
of the number on that grid can be the nearest. -/
def onGrid? (x : Double) (tie : Tie) (exponent : Int) : Option Decimal :=
  let (dividend, divisor) := x.overTenPower exponent
  let floor := dividend / divisor
  let twice := 2 * (dividend % divisor)
  let below := Decimal.trimmed ⟨floor, exponent⟩
  let above := Decimal.trimmed ⟨floor + 1, exponent⟩
  let upper := decide (divisor < twice) ||
    (twice == divisor && (tie == .up || floor % 2 == 1))
  match x.isReadFrom below, x.isReadFrom above with
  | true, true => some (if upper then above else below)
  | true, false => some below
  | false, true => some above
  | false, false => none

/-- The exact value as a decimal: a unit is `5 ^ unitPlaces` over a power of ten. -/
def exactDecimal (x : Double) : Decimal := ⟨x.units * Nat.pow 5 unitPlaces, -(unitPlaces : Int)⟩

/-- The shortest decimal that reads back as the number. Seventeen digits always do; the exact value
stands in so that the search needs no proof of that. -/
def shortest (tie : Tie) (x : Double) : Decimal :=
  if x.isZero then ⟨0, 0⟩
  else
    ((List.range 17).findSome? fun (more : Nat) => x.onGrid? tie (x.leadingExponent - more)).getD
      x.exactDecimal

/-- A decimal taken from a grid reads back. -/
theorem isReadFrom_onGrid {x : Double} {tie : Tie} {exponent : Int} {d : Decimal}
    (found : x.onGrid? tie exponent = some d) : x.isReadFrom d = true := by
  unfold onGrid? at found
  simp only at found
  split at found
  · next belowReads aboveReads =>
    cases found
    split <;> assumption
  · next belowReads _ => cases found; exact belowReads
  · next _ aboveReads => cases found; exact aboveReads
  · cases found

end Double

end RecordSearch
