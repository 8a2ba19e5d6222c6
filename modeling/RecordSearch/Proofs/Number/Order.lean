import RecordSearch.Proofs.Number.Shortest

/-!
# The order of doubles

Doubles are compared by their signed magnitudes. The magnitudes are in the order of the absolute
values that they encode, so this is the order of the exact values.
-/

namespace RecordSearch.Double

variable {x y : Double}

section Units

/-- A significand has at most 53 binary places. -/
theorem significand_lt (x : Double) : x.significand < 2 * binade := by
  by_cases none : x.places = 0
  · have whole := places_add_significand x
    rw [none, Nat.zero_mul, Nat.zero_add] at whole
    rw [whole]
    exact magnitude_lt_of_places none
  · exact (binade_le_significand none).2

/-- Two binades are one of the next power of two. -/
theorem two_mul_binade_mul_pow (places : Nat) :
    2 * binade * Nat.pow 2 places = binade * Nat.pow 2 (places + 1) := by
  rw [Nat.mul_comm 2, Nat.mul_assoc, Nat.mul_comm 2]
  rfl

/-- With fewer places the units are less than a binade of the power. -/
theorem units_lt_of_places_lt {places : Nat} (fewer : x.places < places) :
    x.units < binade * Nat.pow 2 places :=
  calc x.units < 2 * binade * Nat.pow 2 x.places :=
        Nat.mul_lt_mul_of_pos_right (significand_lt x) (Nat.two_pow_pos _)
    _ = binade * Nat.pow 2 (x.places + 1) := two_mul_binade_mul_pow x.places
    _ ≤ binade * Nat.pow 2 places :=
      Nat.mul_le_mul_left _ (Nat.pow_le_pow_right (by decide) fewer)

/-- A larger magnitude encodes more units. -/
theorem units_lt_units (larger : x.magnitude < y.magnitude) : x.units < y.units := by
  have order : x.places ≤ y.places := by
    have quotients : x.magnitude / binade ≤ y.magnitude / binade :=
      Nat.div_le_div_right (Nat.le_of_lt larger)
    exact Nat.sub_le_sub_right quotients 1
  rcases Nat.eq_or_lt_of_le order with same | fewer
  · have wholeLeft := places_add_significand x
    have wholeRight := places_add_significand y
    have significands : x.significand < y.significand := by
      rw [same] at wholeLeft
      omega
    unfold units
    rw [same]
    exact Nat.mul_lt_mul_of_pos_right significands (Nat.two_pow_pos _)
  · have normal : binade ≤ y.significand := (binade_le_significand (by omega)).1
    calc x.units < binade * Nat.pow 2 y.places := units_lt_of_places_lt fewer
      _ ≤ y.units := Nat.mul_le_mul_right _ normal

/-- Units are in the order of magnitudes. -/
theorem units_lt_units_iff : x.units < y.units ↔ x.magnitude < y.magnitude := by
  refine ⟨fun fewer => ?_, units_lt_units⟩
  rcases Nat.lt_trichotomy x.magnitude y.magnitude with less | same | more
  · exact less
  · have sameUnits : x.units = y.units := by
      unfold units significand places
      rw [same]
    omega
  · have := units_lt_units more
    omega

/-- Only zeros have no units. -/
theorem units_eq_zero_iff : x.units = 0 ↔ x.magnitude = 0 := by
  have isZero : zero.units = 0 := rfl
  have positive := units_lt_units_iff (x := zero) (y := x)
  rw [isZero] at positive
  have noMagnitude : zero.magnitude = 0 := rfl
  omega

end Units

/-- The exact value in units of `2 ^ (-unitPlaces)`. -/
def signedUnits (x : Double) : Int := if x.negative then -(x.units : Int) else x.units

/-- Signed magnitudes are in the order of exact values. -/
theorem rank_lt_rank_iff : x.rank < y.rank ↔ x.signedUnits < y.signedUnits := by
  have less := units_lt_units_iff (x := x) (y := y)
  have more := units_lt_units_iff (x := y) (y := x)
  have zeroLeft := units_eq_zero_iff (x := x)
  have zeroRight := units_eq_zero_iff (x := y)
  unfold rank signedUnits
  cases x.negative <;> cases y.negative <;> simp only [if_true, if_false, Bool.false_eq_true] <;>
    omega

/-- Comparison is the order of exact values. -/
theorem compare_eq_compare_signedUnits (x y : Double) :
    x.compare y = Ord.compare x.signedUnits y.signedUnits := by
  rcases Int.lt_trichotomy x.rank y.rank with less | same | more
  · rw [compare_eq_lt.2 less, eq_comm, Int.compare_eq_lt]
    exact rank_lt_rank_iff.1 less
  · have notLess := mt rank_lt_rank_iff.2 (Int.not_lt.2 (Int.le_of_eq same.symm))
    have notMore := mt rank_lt_rank_iff.2 (Int.not_lt.2 (Int.le_of_eq same))
    rw [compare_eq_eq.2 same, eq_comm, Int.compare_eq_eq]
    omega
  · rw [compare_eq_gt.2 more, eq_comm, Int.compare_eq_gt]
    exact rank_lt_rank_iff.1 more

end RecordSearch.Double
