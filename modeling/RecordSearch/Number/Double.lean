/-!
# Finite double-precision numbers

A number is its sign and the magnitude of its 64-bit encoding, the encoding without the sign bit.
Magnitudes order absolute values, so comparison is integer comparison, and every finite absolute
value is a whole number of units of `2 ^ (-unitPlaces)`, so rounding is a division of whole numbers.

* `Double.compare_eq_lt`, `Double.compare_eq_gt`: comparison is the order of signed magnitudes.
* `divideToEven_le`: rounding never passes a whole bound.
* `nearestMagnitude_lt`: no number below `2 ^ 64` rounds out of range.
-/

namespace RecordSearch

/-- One binade of magnitudes, `2 ^ 52`: the doubles that share an exponent. -/
def binade : Nat := 4503599627370496

/-- The binary places of the smallest absolute value, the unit. -/
def unitPlaces : Nat := 1074

/-- The magnitudes below this one encode finite numbers, the magnitude itself is infinity. -/
def infiniteMagnitude : Nat := 2047 * binade

/-- A finite double-precision number. -/
structure Double where
  /-- Whether the sign bit is set; it is for negative zero too. -/
  negative : Bool
  /-- The encoding without its sign bit. -/
  magnitude : Nat
  /-- Neither infinity nor a not-a-number pattern. -/
  finite : magnitude < infiniteMagnitude
  deriving DecidableEq

/-- The quotient rounded to the nearest whole number, a half to the even one. -/
def divideToEven (dividend divisor : Nat) : Nat :=
  let quotient := dividend / divisor
  let remainder := dividend % divisor
  if 2 * remainder < divisor then quotient
  else if divisor < 2 * remainder then quotient + 1
  else quotient + quotient % 2

/-- How many binary places the quotient exceeds a 53-bit significand by. -/
def excessPlaces (dividend divisor : Nat) : Nat :=
  (dividend / divisor).log2 - 52

/-- The magnitude nearest to a quotient of units, a half going to the even significand. A
significand that rounds up to `2 ^ 53` carries into the next binade by the same sum. -/
def nearestMagnitude (dividend divisor : Nat) : Nat :=
  let places := excessPlaces dividend divisor
  places * binade + divideToEven dividend (divisor * Nat.pow 2 places)

/-- Rounding a quotient up to a whole bound stays within the bound. -/
theorem divideToEven_le {dividend divisor bound : Nat} (positive : 0 < divisor)
    (bounded : dividend < bound * divisor) : divideToEven dividend divisor ≤ bound := by
  have quotientBelow : dividend / divisor < bound :=
    (Nat.div_lt_iff_lt_mul positive).2 bounded
  unfold divideToEven
  have parity : dividend / divisor % 2 < 2 := Nat.mod_lt _ (by decide)
  simp only
  split
  · omega
  · split <;> omega

/-- Scaling by a power of two scales the bound. -/
theorem mul_pow_two_lt {value : Nat} (bound places : Nat) (bounded : value < Nat.pow 2 bound) :
    value * Nat.pow 2 places < Nat.pow 2 (bound + places) :=
  calc value * Nat.pow 2 places < Nat.pow 2 bound * Nat.pow 2 places :=
        Nat.mul_lt_mul_of_pos_right bounded (Nat.two_pow_pos places)
    _ = Nat.pow 2 (bound + places) := (Nat.pow_add 2 bound places).symm

/-- A number below a power of two has a smaller logarithm than its exponent. -/
theorem log2_lt_of_lt_pow_two {value : Nat} (bound : Nat) (notZero : value ≠ 0)
    (bounded : value < Nat.pow 2 bound) : value.log2 < bound :=
  (Nat.log2_lt notZero).2 bounded

/-- A quotient fits 53 binary places together with the places that it exceeds them by. -/
theorem div_lt_pow_excessPlaces (dividend divisor : Nat) :
    dividend / divisor < Nat.pow 2 (53 + excessPlaces dividend divisor) := by
  refine Nat.lt_of_lt_of_le Nat.lt_log2_self (Nat.pow_le_pow_right (by decide) ?_)
  unfold excessPlaces
  omega

/-- A quotient below `2 ^ 64` of the unit `1` rounds to a finite magnitude. -/
theorem nearestMagnitude_lt {dividend divisor : Nat} (positive : 0 < divisor)
    (bounded : dividend < Nat.pow 2 (64 + unitPlaces) * divisor) :
    nearestMagnitude dividend divisor < infiniteMagnitude := by
  have quotientBelow : dividend / divisor < Nat.pow 2 (64 + unitPlaces) :=
    (Nat.div_lt_iff_lt_mul positive).2 bounded
  have placesBelow : excessPlaces dividend divisor < 1086 := by
    unfold excessPlaces
    by_cases zero : dividend / divisor = 0
    · simp [zero]
    · have := log2_lt_of_lt_pow_two (64 + unitPlaces) zero quotientBelow
      unfold unitPlaces at this
      omega
  have significand :
      divideToEven dividend (divisor * Nat.pow 2 (excessPlaces dividend divisor)) ≤ 2 * binade := by
    apply divideToEven_le (Nat.mul_pos positive (Nat.two_pow_pos _))
    have scaled :=
      (Nat.div_lt_iff_lt_mul positive).1 (div_lt_pow_excessPlaces dividend divisor)
    calc dividend < Nat.pow 2 (53 + excessPlaces dividend divisor) * divisor := scaled
      _ = 2 * binade * Nat.pow 2 (excessPlaces dividend divisor) * divisor :=
        congrArg (· * divisor) (Nat.pow_add 2 53 (excessPlaces dividend divisor))
      _ = 2 * binade * (divisor * Nat.pow 2 (excessPlaces dividend divisor)) := by
        rw [Nat.mul_assoc, Nat.mul_comm divisor]
  have scaledPlaces : excessPlaces dividend divisor * binade ≤ 1085 * binade :=
    Nat.mul_le_mul_right _ (by omega)
  unfold nearestMagnitude infiniteMagnitude
  unfold binade at *
  simp only
  omega

namespace Double

/-- Positive zero. -/
def zero : Double := ⟨false, 0, by decide⟩

/-- Whether the number is a zero of either sign. -/
def isZero (x : Double) : Bool := x.magnitude == 0

/-- The exponent of the unit in the last place, counted from that of the smallest numbers. -/
def places (x : Double) : Nat := x.magnitude / binade - 1

/-- The whole significand: below `2 ^ 53`. -/
def significand (x : Double) : Nat := x.magnitude - x.places * binade

/-- The absolute value in units of `2 ^ (-unitPlaces)`. -/
def units (x : Double) : Nat := x.significand * Nat.pow 2 x.places

/-- The signed magnitude; it is in the order of the numbers, and both zeros have the same one. -/
def rank (x : Double) : Int := if x.negative then -(x.magnitude : Int) else x.magnitude

/-- Numeric order; the two zeros are equal. -/
def compare (x y : Double) : Ordering := Ord.compare x.rank y.rank

theorem compare_eq_lt {x y : Double} : x.compare y = .lt ↔ x.rank < y.rank := by
  simp [compare, Int.compare_eq_lt]

theorem compare_eq_eq {x y : Double} : x.compare y = .eq ↔ x.rank = y.rank := by
  simp [compare]

theorem compare_eq_gt {x y : Double} : x.compare y = .gt ↔ y.rank < x.rank := by
  simp [compare, Int.compare_eq_gt]

/-- The number of the given sign and magnitude, unless that is out of range. -/
def ofMagnitude? (negative : Bool) (magnitude : Nat) : Option Double :=
  if finite : magnitude < infiniteMagnitude then some ⟨negative, magnitude, finite⟩ else none

/-- The number nearest to a quotient of units; none where that is out of range. -/
def ofUnits? (negative : Bool) (dividend divisor : Nat) : Option Double :=
  ofMagnitude? negative (nearestMagnitude dividend divisor)

/-- The product rounded to the nearest number; none where that is out of range. -/
def multiply? (x y : Double) : Option Double :=
  ofUnits? (x.negative != y.negative) (x.units * y.units) (Nat.pow 2 unitPlaces)

/-- The quotient rounded to the nearest number; none where that is out of range. -/
def divide? (x y : Double) : Option Double :=
  ofUnits? (x.negative != y.negative) (x.units * Nat.pow 2 unitPlaces) y.units

/-- The number nearest to an integer of at most 64 bits. -/
def ofInt (n : Int) (fits : n.natAbs < 18446744073709551616) : Double :=
  ⟨decide (n < 0), nearestMagnitude (n.natAbs * Nat.pow 2 unitPlaces) 1,
    nearestMagnitude_lt (by decide) (by
      rw [Nat.mul_one]
      exact mul_pow_two_lt 64 unitPlaces fits)⟩

end Double

end RecordSearch
