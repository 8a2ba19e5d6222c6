import Mathlib.Algebra.Order.Field.Basic
import Mathlib.Data.Rat.Cast.Order
import Mathlib.Tactic.Linarith
import RecordSearch.Proofs.Number.Order

/-!
# Correct rounding

The double that a decimal is read as is the nearest one, of two equally near ones the one with the
even encoding, and there is one exactly below the middle between the largest double and the next
power of two.
-/

namespace RecordSearch

section Quotients

variable {dividend divisor : Nat}

/-- The distance of two whole numbers. -/
def distance (left right : Nat) : Nat := left - right + (right - left)

/-- A quotient is rounded down or up, to the nearer side, and to the even one in the middle. -/
theorem divideToEven_cases (dividend divisor : Nat) :
    (divideToEven dividend divisor = dividend / divisor ∧
      (2 * (dividend % divisor) < divisor ∨
        2 * (dividend % divisor) = divisor ∧ dividend / divisor % 2 = 0)) ∨
    (divideToEven dividend divisor = dividend / divisor + 1 ∧
      (divisor < 2 * (dividend % divisor) ∨
        2 * (dividend % divisor) = divisor ∧ dividend / divisor % 2 = 1)) := by
  unfold divideToEven
  dsimp only
  split
  · next below => exact .inl ⟨rfl, .inl below⟩
  · split
    · next above => exact .inr ⟨rfl, .inl above⟩
    · have middle : 2 * (dividend % divisor) = divisor := by omega
      rcases Nat.mod_two_eq_zero_or_one (dividend / divisor) with even | odd
      · exact .inl ⟨by rw [even, Nat.add_zero], .inr ⟨middle, even⟩⟩
      · exact .inr ⟨by rw [odd], .inr ⟨middle, odd⟩⟩

/-- The multiples of a divisor apart from the two around a dividend are outside of these. -/
theorem mul_le_or_le_mul (count quotient divisor : Nat) :
    count * divisor + divisor ≤ quotient * divisor ∨ count = quotient ∨ count = quotient + 1 ∨
      quotient * divisor + 2 * divisor ≤ count * divisor := by
  rcases Nat.lt_trichotomy count quotient with less | same | more
  · have room := Nat.mul_le_mul_right divisor (Nat.succ_le_of_lt less)
    rw [Nat.succ_mul] at room
    exact .inl room
  · exact .inr (.inl same)
  · rcases Nat.eq_or_lt_of_le (Nat.succ_le_of_lt more) with next | beyond
    · exact .inr (.inr (.inl next.symm))
    · have room := Nat.mul_le_mul_right divisor (Nat.succ_le_of_lt beyond)
      rw [Nat.succ_mul, Nat.succ_mul] at room
      exact .inr (.inr (.inr (by omega)))

/-- The rounded quotient gives the nearest multiple, of two equally near ones the even one. -/
theorem divideToEven_nearest (dividend : Nat) (positive : 0 < divisor) (count : Nat) :
    distance dividend (divideToEven dividend divisor * divisor) ≤
        distance dividend (count * divisor) ∧
      (distance dividend (divideToEven dividend divisor * divisor) =
          distance dividend (count * divisor) → count ≠ divideToEven dividend divisor →
        divideToEven dividend divisor % 2 = 0) := by
  have whole := Nat.div_add_mod' dividend divisor
  have remainder := Nat.mod_lt dividend positive
  have sides := mul_le_or_le_mul count (dividend / divisor) divisor
  have next : (dividend / divisor + 1) * divisor = dividend / divisor * divisor + divisor :=
    Nat.succ_mul _ _
  unfold distance
  rcases divideToEven_cases dividend divisor with ⟨down, side⟩ | ⟨up, side⟩
  · rw [down]
    rcases sides with below | rfl | rfl | above <;> omega
  · rw [up, next]
    rcases sides with below | rfl | rfl | above <;> omega

/-- A quotient of at least a whole number is rounded to at least this number. -/
theorem le_divideToEven (positive : 0 < divisor) {bound : Nat}
    (atLeast : bound * divisor ≤ dividend) : bound ≤ divideToEven dividend divisor := by
  have quotient := (Nat.le_div_iff_mul_le positive).2 atLeast
  rcases divideToEven_cases dividend divisor with ⟨down, -⟩ | ⟨up, -⟩
  · rwa [down]
  · rw [up]
    exact Nat.le_succ_of_le quotient

/-- A quotient is rounded below an even bound if it is below the middle before the bound. -/
theorem divideToEven_lt_iff (dividend : Nat) (positive : 0 < divisor) (half : Nat) :
    divideToEven dividend divisor < 2 * half ↔
      2 * dividend + divisor < 2 * (2 * half * divisor) := by
  have whole := Nat.div_add_mod' dividend divisor
  have remainder := Nat.mod_lt dividend positive
  have rounded := divideToEven_cases dividend divisor
  generalize dividend / divisor = quotient at *
  have next : (quotient + 1) * divisor = quotient * divisor + divisor := Nat.succ_mul _ _
  rcases Nat.lt_trichotomy (quotient + 1) (2 * half) with below | before | beyond
  · have room := Nat.mul_le_mul_right divisor (Nat.succ_le_of_lt below)
    rw [Nat.succ_mul, next] at room
    omega
  · rw [← before, next]
    omega
  · have room := Nat.mul_le_mul_right divisor (Nat.le_of_lt_succ beyond)
    omega

end Quotients

section Magnitudes

variable {dividend divisor : Nat}

/-- A quotient is less than a binade over the places by which it exceeds a significand. -/
theorem dividend_lt_of_excessPlaces (positive : 0 < divisor) :
    dividend < 2 * binade * (divisor * Nat.pow 2 (excessPlaces dividend divisor)) := by
  have scaled := (Nat.div_lt_iff_lt_mul positive).1 (div_lt_pow_excessPlaces dividend divisor)
  calc dividend < Nat.pow 2 (53 + excessPlaces dividend divisor) * divisor := scaled
    _ = 2 * binade * Nat.pow 2 (excessPlaces dividend divisor) * divisor :=
      congrArg (· * divisor) (Nat.pow_add 2 53 (excessPlaces dividend divisor))
    _ = 2 * binade * (divisor * Nat.pow 2 (excessPlaces dividend divisor)) := by
      rw [Nat.mul_assoc, Nat.mul_comm divisor]

/-- A quotient that exceeds a significand fills its places. -/
theorem le_dividend_of_excessPlaces (exceeds : excessPlaces dividend divisor ≠ 0) :
    binade * (divisor * Nat.pow 2 (excessPlaces dividend divisor)) ≤ dividend := by
  have notZero : dividend / divisor ≠ 0 := by
    intro zero
    rw [excessPlaces, zero, Nat.log2_zero] at exceeds
    exact exceeds rfl
  have log : 52 + excessPlaces dividend divisor ≤ (dividend / divisor).log2 := by
    unfold excessPlaces at exceeds ⊢
    omega
  calc binade * (divisor * Nat.pow 2 (excessPlaces dividend divisor))
      = binade * Nat.pow 2 (excessPlaces dividend divisor) * divisor := by
        rw [Nat.mul_assoc, Nat.mul_comm divisor]
    _ = Nat.pow 2 (52 + excessPlaces dividend divisor) * divisor :=
      congrArg (· * divisor) (Nat.pow_add 2 52 (excessPlaces dividend divisor)).symm
    _ ≤ dividend / divisor * divisor :=
      Nat.mul_le_mul_right _ ((Nat.le_log2 notZero).1 log)
    _ ≤ dividend := Nat.div_mul_le_self _ _

/-- A magnitude is made of the places by which its quotient exceeds a significand and of the rounded
rest of the quotient: less than two binades, and at least one if there are places. -/
theorem exists_places (dividend : Nat) (positive : 0 < divisor) :
    ∃ places, nearestMagnitude dividend divisor =
        places * binade + divideToEven dividend (divisor * Nat.pow 2 places) ∧
      0 < divisor * Nat.pow 2 places ∧
      dividend < 2 * binade * (divisor * Nat.pow 2 places) ∧
      (places ≠ 0 → binade * (divisor * Nat.pow 2 places) ≤ dividend) :=
  ⟨excessPlaces dividend divisor, rfl, Nat.mul_pos positive (Nat.two_pow_pos _),
    dividend_lt_of_excessPlaces positive, le_dividend_of_excessPlaces⟩

/-- A quotient of units rounds to a magnitude of less than so many binades exactly below the middle
between the last of these magnitudes and the next one. Half of the unit in its last place has as
many places as there are binades but three. -/
theorem nearestMagnitude_lt_iff (positive : 0 < divisor) (places : Nat) :
    nearestMagnitude dividend divisor < (places + 3) * binade ↔
      dividend + divisor * Nat.pow 2 places < 4 * binade * (divisor * Nat.pow 2 places) := by
  obtain ⟨excess, made, unitPositive, upper, lower⟩ := exists_places dividend positive
  rw [made]
  have halfPositive : 0 < divisor * Nat.pow 2 places := Nat.mul_pos positive (Nat.two_pow_pos _)
  have significand := divideToEven_le unitPositive upper
  have binades : (places + 3) * binade = places * binade + 3 * binade := Nat.add_mul _ _ _
  have twice : divisor * Nat.pow 2 (places + 1) = 2 * (divisor * Nat.pow 2 places) := by
    rw [Nat.mul_left_comm, Nat.mul_comm 2]
    rfl
  -- In a binade below that of the middle both sides hold, and in one beyond it neither does.
  rcases Nat.lt_trichotomy excess (places + 1) with fewer | rfl | more
  · have scaled : divisor * Nat.pow 2 excess ≤ divisor * Nat.pow 2 places :=
      Nat.mul_le_mul_left _ (Nat.pow_le_pow_right (by decide) (Nat.le_of_lt_succ fewer))
    have bounded : excess * binade ≤ places * binade :=
      Nat.mul_le_mul_right _ (Nat.le_of_lt_succ fewer)
    generalize divisor * Nat.pow 2 places = half at *
    generalize divisor * Nat.pow 2 excess = unit at *
    unfold binade at *
    omega
  · have middle := divideToEven_lt_iff dividend unitPositive binade
    have once : (places + 1) * binade = places * binade + binade := Nat.succ_mul _ _
    rw [twice] at middle unitPositive significand ⊢
    generalize divisor * Nat.pow 2 places = half at *
    unfold binade at *
    omega
  · have scaled : 2 * (divisor * Nat.pow 2 (places + 1)) ≤ divisor * Nat.pow 2 excess := by
      have power : Nat.pow 2 (places + 2) ≤ Nat.pow 2 excess :=
        Nat.pow_le_pow_right (by decide) more
      rw [Nat.mul_left_comm, Nat.mul_comm 2]
      exact Nat.mul_le_mul_left _ power
    have bounded : (places + 2) * binade ≤ excess * binade := Nat.mul_le_mul_right _ more
    have twoBinades : (places + 2) * binade = places * binade + 2 * binade := Nat.add_mul _ _ _
    have filled := lower (by omega)
    have atLeast := le_divideToEven unitPositive filled
    rw [twice] at scaled
    generalize divisor * Nat.pow 2 places = half at *
    generalize divisor * Nat.pow 2 excess = unit at *
    unfold binade at *
    omega

end Magnitudes

namespace Double

variable {x y : Double}

/-- Doubles with the same units have the same magnitude. -/
theorem units_eq_units_iff : x.units = y.units ↔ x.magnitude = y.magnitude := by
  have less := units_lt_units_iff (x := x) (y := y)
  have more := units_lt_units_iff (x := y) (y := x)
  omega

/-- The units of a magnitude that is made of places and a significand, which may have carried. -/
theorem units_of_magnitude {places significand : Nat}
    (made : x.magnitude = places * binade + significand) (bounded : significand ≤ 2 * binade)
    (filled : places ≠ 0 → binade ≤ significand) : x.units = significand * Nat.pow 2 places := by
  have whole := places_add_significand x
  rcases Nat.eq_or_lt_of_le bounded with rfl | fits
  · have quotient : x.magnitude / binade = places + 2 := by
      rw [made, ← Nat.add_mul]
      exact Nat.mul_div_cancel _ (by decide)
    have carried : x.places = places + 1 := by rw [Double.places, quotient]; rfl
    have once : (places + 1) * binade = places * binade + binade := Nat.succ_mul _ _
    have single : x.significand = binade := by
      rw [carried] at whole
      omega
    rw [units, carried, single, two_mul_binade_mul_pow]
  · have same : x.places = places := by
      by_cases none : places = 0
      · rw [none, Nat.zero_mul, Nat.zero_add] at made
        have quotient := (Nat.div_lt_iff_lt_mul (by decide : 0 < binade)).2 (made ▸ fits)
        unfold Double.places
        omega
      · have quotient : x.magnitude / binade = places + 1 := by
          have once : (places + 1) * binade = places * binade + binade := Nat.succ_mul _ _
          have twice : (places + 1 + 1) * binade = places * binade + 2 * binade := by
            rw [Nat.succ_mul, once, Nat.add_assoc, ← Nat.two_mul]
          have atLeast := filled none
          refine Nat.div_eq_of_lt_le ?_ ?_ <;> omega
        rw [Double.places, quotient]
        rfl
    have significand : x.significand = significand := by
      rw [same] at whole
      omega
    rw [units, same, significand]

/-- The units of a double are a multiple of a power of two, or less than a binade of it. -/
theorem units_of_places (y : Double) (places : Nat) :
    (∃ count, y.units = count * Nat.pow 2 places) ∨
      places ≠ 0 ∧ y.units < binade * Nat.pow 2 places := by
  rcases Nat.lt_or_ge y.places places with fewer | enough
  · exact .inr ⟨by omega, units_lt_of_places_lt fewer⟩
  · refine .inl ⟨y.significand * Nat.pow 2 (y.places - places), ?_⟩
    have power : Nat.pow 2 y.places = Nat.pow 2 (y.places - places) * Nat.pow 2 places := by
      rw [← Nat.sub_add_cancel enough, Nat.add_sub_cancel]
      exact Nat.pow_add 2 _ _
    rw [units, power, Nat.mul_assoc]

/-- The magnitude that a quotient rounds to is nearest to it, and of two equally near ones it is the
even one. -/
theorem nearestMagnitude_nearest {dividend divisor : Nat} (positive : 0 < divisor)
    (rounded : x.magnitude = nearestMagnitude dividend divisor) (y : Double) :
    distance dividend (x.units * divisor) ≤ distance dividend (y.units * divisor) ∧
      (distance dividend (x.units * divisor) = distance dividend (y.units * divisor) →
        y.magnitude ≠ x.magnitude → x.magnitude % 2 = 0) := by
  obtain ⟨places, made, unitPositive, upper, lower⟩ := exists_places dividend positive
  rw [made] at rounded
  have bounded := divideToEven_le unitPositive upper
  have filled : places ≠ 0 → binade ≤ divideToEven dividend (divisor * Nat.pow 2 places) :=
    fun exceeds => le_divideToEven unitPositive (lower exceeds)
  have units := units_of_magnitude rounded bounded filled
  have scaled : ∀ count, count * Nat.pow 2 places * divisor =
      count * (divisor * Nat.pow 2 places) := fun count => by
    rw [Nat.mul_assoc, Nat.mul_comm divisor]
  have parity : x.magnitude % 2 = divideToEven dividend (divisor * Nat.pow 2 places) % 2 := by
    have even : places * binade = 2 * (places * 2251799813685248) := by
      unfold binade
      omega
    omega
  rw [units, scaled]
  rcases units_of_places y places with ⟨count, multiple⟩ | ⟨exceeds, less⟩
  · have nearest := divideToEven_nearest dividend unitPositive count
    rw [multiple, scaled]
    refine ⟨nearest.1, fun same apart => ?_⟩
    rw [parity]
    apply nearest.2 same
    rintro rfl
    exact apart (units_eq_units_iff.1 (multiple.trans units.symm))
  · have nearest := (divideToEven_nearest dividend unitPositive binade).1
    have below : y.units * divisor < binade * (divisor * Nat.pow 2 places) := by
      rw [← scaled]
      exact Nat.mul_lt_mul_of_pos_right less positive
    have above := lower exceeds
    unfold distance at *
    omega

end Double

/-- The value of a decimal. -/
def Decimal.value (d : Decimal) : ℚ := d.digits * 10 ^ d.exponent

/-- The absolute value of a double. -/
def Double.absolute (x : Double) : ℚ := x.units / 2 ^ unitPlaces

/-- No double has an absolute value nearer to the value, and only the even one of two as near. -/
structure Double.IsNearest (value : ℚ) (x : Double) : Prop where
  nearest : ∀ y : Double, |value - x.absolute| ≤ |value - y.absolute|
  even : ∀ y : Double, |value - x.absolute| = |value - y.absolute| → y.magnitude ≠ x.magnitude →
    x.magnitude % 2 = 0

/-- The middle between the largest double and the next power of two. -/
def overflowValue : ℚ := 2 ^ 1024 - 2 ^ 970

section Values

variable {dividend divisor : Nat} {negative : Bool} {x : Double}

/-- The distance of whole numbers is that of rational ones. -/
theorem cast_distance (left right : Nat) : (distance left right : ℚ) = |(left : ℚ) - right| := by
  unfold distance
  rcases Nat.le_total left right with more | less
  · rw [Nat.sub_eq_zero_of_le more, Nat.zero_add, Nat.cast_sub more, abs_sub_comm, abs_of_nonneg]
    exact sub_nonneg.2 (Nat.cast_le.2 more)
  · rw [Nat.sub_eq_zero_of_le less, Nat.add_zero, Nat.cast_sub less, abs_of_nonneg]
    exact sub_nonneg.2 (Nat.cast_le.2 less)

/-- Whole powers are rational ones. -/
theorem cast_natPow (base power : Nat) : ((Nat.pow base power : Nat) : ℚ) = (base : ℚ) ^ power :=
  Nat.cast_pow base power

/-- The distance of a quotient and a double, in whole numbers. -/
theorem abs_sub_absolute (positive : 0 < divisor) (y : Double) :
    |(dividend : ℚ) / divisor - y.absolute| =
      distance (dividend * Nat.pow 2 unitPlaces) (y.units * divisor) /
        (divisor * 2 ^ unitPlaces) := by
  have divisorPositive : (0 : ℚ) < divisor := Nat.cast_pos.2 positive
  have unitPositive : (0 : ℚ) < 2 ^ unitPlaces := pow_pos two_pos _
  rw [cast_distance, Nat.cast_mul, Nat.cast_mul, cast_natPow, Nat.cast_ofNat, Double.absolute,
    div_sub_div _ _ divisorPositive.ne' unitPositive.ne', abs_div,
    abs_of_pos (mul_pos divisorPositive unitPositive), mul_comm (divisor : ℚ) (y.units : ℚ)]

/-- A quotient is rounded if its magnitude is in range, and its sign is kept. -/
theorem ofUnits?_eq_some_iff : Double.ofUnits? negative dividend divisor = some x ↔
    x.negative = negative ∧ x.magnitude = nearestMagnitude dividend divisor := by
  unfold Double.ofUnits? Double.ofMagnitude?
  constructor
  · intro found
    split at found
    · cases found
      exact ⟨rfl, rfl⟩
    · cases found
  · rintro ⟨rfl, magnitude⟩
    rw [dif_pos (magnitude ▸ x.finite)]
    simp only [← magnitude]

/-- A quotient is rounded to a double if its magnitude is in range. -/
theorem isSome_ofUnits?_iff : (Double.ofUnits? negative dividend divisor).isSome = true ↔
    nearestMagnitude dividend divisor < infiniteMagnitude := by
  unfold Double.ofUnits? Double.ofMagnitude?
  split
  · next inRange => exact iff_of_true rfl inRange
  · next outOfRange => exact iff_of_false (by decide) outOfRange

/-- What a quotient is rounded to is nearest to it. -/
theorem isNearest_of_ofUnits? (positive : 0 < divisor)
    (found : Double.ofUnits? negative (dividend * Nat.pow 2 unitPlaces) divisor = some x) :
    x.IsNearest (dividend / divisor) := by
  have scale : (0 : ℚ) < divisor * 2 ^ unitPlaces :=
    mul_pos (Nat.cast_pos.2 positive) (pow_pos two_pos _)
  have nearest := Double.nearestMagnitude_nearest positive (ofUnits?_eq_some_iff.1 found).2
  refine ⟨fun y => ?_, fun y same apart => ?_⟩
  · rw [abs_sub_absolute positive, abs_sub_absolute positive]
    exact div_le_div_of_nonneg_right (Nat.cast_le.2 (nearest y).1) scale.le
  · rw [abs_sub_absolute positive, abs_sub_absolute positive, div_left_inj' scale.ne',
      Nat.cast_inj] at same
    exact (nearest y).2 same apart

/-- The quotient is below the middle between the largest double and the next power of two, in whole
numbers. -/
theorem lt_overflowValue_iff (positive : 0 < divisor) :
    (dividend : ℚ) / divisor < overflowValue ↔
      dividend * Nat.pow 2 unitPlaces + divisor * Nat.pow 2 (970 + unitPlaces) <
        4 * binade * (divisor * Nat.pow 2 (970 + unitPlaces)) := by
  have divisorPositive : (0 : ℚ) < divisor := Nat.cast_pos.2 positive
  have unitPositive : (0 : ℚ) < 2 ^ unitPlaces := pow_pos two_pos _
  have middle : overflowValue = 4 * binade * 2 ^ 970 - 2 ^ 970 := by
    have binades : (4 : ℚ) * binade = 2 ^ 54 := by
      norm_num [binade]
    rw [binades, ← pow_add]
    rfl
  rw [middle, div_lt_iff₀ divisorPositive, ← @Nat.cast_lt ℚ]
  push_cast [cast_natPow]
  rw [pow_add]
  -- The powers are too large to be evaluated.
  generalize (2 : ℚ) ^ unitPlaces = unit at *
  generalize (2 : ℚ) ^ 970 = step at *
  rw [← mul_lt_mul_iff_left₀ unitPositive]
  constructor <;> intro less <;> linarith only [less]

/-- A quotient is rounded to a double if it is below the middle between the largest double and the
next power of two. -/
theorem isSome_ofUnits?_iff_lt (positive : 0 < divisor) :
    (Double.ofUnits? negative (dividend * Nat.pow 2 unitPlaces) divisor).isSome = true ↔
      (dividend : ℚ) / divisor < overflowValue := by
  rw [lt_overflowValue_iff positive, ← nearestMagnitude_lt_iff positive]
  exact isSome_ofUnits?_iff

end Values

namespace Decimal

variable {negative : Bool} {d : Decimal} {x : Double}

/-- A decimal has a power of ten of so many places after or before the point. -/
theorem value_of_nonneg (whole : 0 ≤ d.exponent) :
    d.value = ((d.digits * Nat.pow 10 d.exponent.toNat : Nat) : ℚ) / (1 : Nat) := by
  have power : (10 : ℚ) ^ d.exponent = 10 ^ d.exponent.toNat := by
    rw [← zpow_natCast, Int.toNat_of_nonneg whole]
  rw [value, power, Nat.cast_one, div_one, Nat.cast_mul, cast_natPow, Nat.cast_ofNat]

/-- A decimal with places after the point is its digits over a power of ten. -/
theorem value_of_neg (negative : d.exponent < 0) :
    d.value = (d.digits : ℚ) / (Nat.pow 10 (-d.exponent).toNat : Nat) := by
  have power : (10 : ℚ) ^ d.exponent = (10 ^ (-d.exponent).toNat)⁻¹ := by
    rw [← zpow_natCast, Int.toNat_of_nonneg (by omega), zpow_neg, inv_inv]
  rw [value, power, cast_natPow, Nat.cast_ofNat, div_eq_mul_inv]

/-- Three binary places are less than a decimal one. -/
theorem pow_two_le_pow_ten {bound power : Nat} (places : bound ≤ 3 * power) :
    (2 : ℚ) ^ bound ≤ 10 ^ power :=
  calc (2 : ℚ) ^ bound ≤ 2 ^ (3 * power) := pow_le_pow_right₀ one_le_two places
    _ = 8 ^ power := by
      rw [pow_mul]
      norm_num
    _ ≤ 10 ^ power := pow_le_pow_left₀ (by norm_num) (by norm_num) power

/-- A decimal whose exponent is this small has less than half a unit. -/
theorem value_lt_of_small (small : d.digits = 0 ∨ d.exponent < -(401 + d.digits.log2 : Int)) :
    d.value * 2 ^ (unitPlaces + 1) < 1 := by
  rcases small with none | small
  · rw [value, none, Nat.cast_zero, zero_mul, zero_mul]
    exact one_pos
  · have digits : (d.digits : ℚ) < 2 ^ (d.digits.log2 + 1) := by
      exact_mod_cast Nat.lt_log2_self
    have places : d.digits.log2 + 1 + (unitPlaces + 1) ≤ 3 * (-d.exponent).toNat := by
      unfold unitPlaces
      omega
    rw [value_of_neg (by omega), cast_natPow, Nat.cast_ofNat, div_mul_eq_mul_div,
      div_lt_one (pow_pos (by norm_num) _)]
    calc (d.digits : ℚ) * 2 ^ (unitPlaces + 1)
        < 2 ^ (d.digits.log2 + 1) * 2 ^ (unitPlaces + 1) :=
          mul_lt_mul_of_pos_right digits (pow_pos two_pos _)
      _ = 2 ^ (d.digits.log2 + 1 + (unitPlaces + 1)) := (pow_add _ _ _).symm
      _ ≤ 10 ^ (-d.exponent).toNat := pow_two_le_pow_ten places

/-- A decimal whose exponent is this large is out of range. -/
theorem le_value_of_large (some : d.digits ≠ 0) (large : 400 < d.exponent) :
    2 ^ 1024 ≤ d.value := by
  have digits : (1 : ℚ) ≤ d.digits := by
    exact_mod_cast Nat.one_le_iff_ne_zero.2 some
  rw [value_of_nonneg (by omega), Nat.cast_one, div_one, Nat.cast_mul, cast_natPow,
    Nat.cast_ofNat]
  calc (2 : ℚ) ^ 1024 ≤ 10 ^ d.exponent.toNat := pow_two_le_pow_ten (by omega)
    _ ≤ d.digits * 10 ^ d.exponent.toNat :=
      le_mul_of_one_le_left (pow_pos (by norm_num) _).le digits

/-- A value is not negative. -/
theorem value_nonneg (d : Decimal) : 0 ≤ d.value :=
  mul_nonneg (Nat.cast_nonneg _) (zpow_nonneg (by norm_num) _)

/-- A decimal is read as zero below half a unit, as none out of range, and else as what its quotient
rounds to; the first two are told by its exponent alone. -/
theorem nearest?_cases (negative : Bool) (d : Decimal) :
    (d.nearest? negative = Double.ofMagnitude? negative 0 ∧ d.value * 2 ^ (unitPlaces + 1) < 1) ∨
    (d.nearest? negative = none ∧ 2 ^ 1024 ≤ d.value) ∨
    ∃ dividend divisor : Nat, 0 < divisor ∧ d.value = dividend / divisor ∧
      d.nearest? negative =
        Double.ofUnits? negative (dividend * Nat.pow 2 unitPlaces) divisor := by
  unfold nearest?
  split
  · next small => exact .inl ⟨rfl, value_lt_of_small small⟩
  · next notSmall =>
    split
    · next large =>
      have some : d.digits ≠ 0 := fun none => notSmall (.inl none)
      exact .inr (.inl ⟨rfl, le_value_of_large some large⟩)
    · split
      · next whole => exact .inr (.inr ⟨_, 1, Nat.one_pos, value_of_nonneg whole, rfl⟩)
      · next places =>
        exact .inr (.inr ⟨_, _, natPow_pos (by decide) _, value_of_neg (Int.not_le.1 places), rfl⟩)

/-- A decimal is read as a double if it is below the middle between the largest double and the next
power of two. -/
theorem isSome_nearest?_iff : (d.nearest? negative).isSome = true ↔ d.value < overflowValue := by
  have step : (1 : ℚ) ≤ 2 ^ 970 := one_le_pow₀ one_le_two
  have top : (2 : ℚ) ^ 1024 = 2 ^ 54 * 2 ^ 970 := by rw [← pow_add]
  rcases nearest?_cases negative d with ⟨read, tiny⟩ | ⟨read, large⟩ |
    ⟨dividend, divisor, positive, value, read⟩
  · have belowOne : d.value < 1 :=
      lt_of_le_of_lt (le_mul_of_one_le_right d.value_nonneg (one_le_pow₀ one_le_two)) tiny
    have range : 1 ≤ overflowValue := by
      rw [overflowValue, top]
      generalize (2 : ℚ) ^ 970 = unit at *
      linarith only [step]
    rw [read]
    exact iff_of_true rfl (lt_of_lt_of_le belowOne range)
  · rw [read]
    refine iff_of_false (by decide) (not_lt.2 (le_trans ?_ large))
    exact sub_le_self _ (zero_le_one.trans step)
  · rw [read, value]
    exact isSome_ofUnits?_iff_lt positive

/-- A zero is nearest to what is less than half a unit. -/
theorem isNearest_zero {value : ℚ} (nonneg : 0 ≤ value) (tiny : value * 2 ^ (unitPlaces + 1) < 1)
    {finite : 0 < infiniteMagnitude} : Double.IsNearest value ⟨negative, 0, finite⟩ where
  nearest := fun y => by
    have zero : Double.absolute ⟨negative, 0, finite⟩ = 0 := by
      have none : Double.units ⟨negative, 0, finite⟩ = 0 := Double.units_eq_zero_iff.2 rfl
      rw [Double.absolute, none, Nat.cast_zero, zero_div]
    have unitPositive : (0 : ℚ) < 2 ^ unitPlaces := pow_pos two_pos _
    rw [zero, sub_zero, abs_of_nonneg nonneg, Double.absolute]
    rw [pow_succ] at tiny
    generalize (2 : ℚ) ^ unitPlaces = unit at *
    rcases Nat.eq_zero_or_pos y.units with none | some
    · rw [none, Nat.cast_zero, zero_div, sub_zero, abs_of_nonneg nonneg]
    · have least : 1 / unit ≤ (y.units : ℚ) / unit :=
        div_le_div_of_nonneg_right (by exact_mod_cast some) unitPositive.le
      have half : 2 * value < 1 / unit := by
        rw [lt_div_iff₀ unitPositive]
        linarith only [tiny]
      rw [abs_sub_comm]
      exact le_trans (by linarith only [least, half]) (le_abs_self _)
  even := fun _ _ _ => rfl

/-- The double that a decimal is read as has its sign and is nearest to it. -/
theorem isNearest_of_nearest? (read : d.nearest? negative = some x) :
    x.negative = negative ∧ x.IsNearest d.value := by
  rcases nearest?_cases negative d with ⟨zero, tiny⟩ | ⟨none, -⟩ |
    ⟨dividend, divisor, positive, value, rounded⟩
  · rw [zero] at read
    cases read
    exact ⟨rfl, isNearest_zero d.value_nonneg tiny⟩
  · rw [none] at read
    cases read
  · rw [rounded] at read
    rw [value]
    exact ⟨(ofUnits?_eq_some_iff.1 read).1, isNearest_of_ofUnits? positive read⟩

end Decimal

end RecordSearch
