import RecordSearch.Number.Decimal

/-!
# The shortest decimal reads back

The double nearest to the shortest decimal of a number is the number. Decimals found on a grid were
tried; what is left to show is that the exact value, which stands in where no grid has one, rounds
to the number as well.
-/

namespace RecordSearch

/-- A multiple of the divisor is divided without rounding. -/
theorem divideToEven_mul {divisor : Nat} (positive : 0 < divisor) (quotient : Nat) :
    divideToEven (quotient * divisor) divisor = quotient := by
  unfold divideToEven
  simp [positive, Nat.mul_mod_left]

section Powers

/-- Powers are positive. The power is a variable here and below, since those of the exact value are
too large to be evaluated. -/
theorem natPow_pos {base : Nat} (positive : 0 < base) (power : Nat) : 0 < Nat.pow base power :=
  Nat.pow_pos positive

/-- Fives and twos make tens. -/
theorem pow_five_mul_pow_two (power : Nat) :
    Nat.pow 5 power * Nat.pow 2 power = Nat.pow 10 power :=
  (Nat.mul_pow 5 2 power).symm

/-- A multiple of a power of five has more binary places than the power. -/
theorem le_log2_mul_pow_five {factor : Nat} (positive : 0 < factor) (power : Nat) :
    power ≤ (factor * Nat.pow 5 power).log2 := by
  have notZero : factor * Nat.pow 5 power ≠ 0 :=
    Nat.ne_of_gt (Nat.mul_pos positive (natPow_pos (by decide) power))
  apply (Nat.le_log2 notZero).2
  calc Nat.pow 2 power ≤ Nat.pow 5 power := Nat.pow_le_pow_left (by decide) _
    _ ≤ factor * Nat.pow 5 power := Nat.le_mul_of_pos_left _ positive

end Powers

/-- A decimal with places after the point is its digits over a power of ten, unless it is too small
to tell from zero. -/
theorem Decimal.nearest?_of_negative_exponent {negative : Bool} {d : Decimal} {power : Nat}
    (digits : d.digits ≠ 0) (positive : 0 < power) (exponent : d.exponent = -(power : Int))
    (large : power ≤ 401 + d.digits.log2) :
    d.nearest? negative =
      Double.ofUnits? negative (d.digits * Nat.pow 2 unitPlaces) (Nat.pow 10 power) := by
  unfold Decimal.nearest?
  rw [exponent, if_neg (by omega), if_neg (by omega), if_neg (by omega), Int.neg_neg,
    Int.toNat_natCast]

namespace Double

/-- The significand and its places make up the magnitude. -/
theorem places_add_significand (x : Double) : x.places * binade + x.significand = x.magnitude := by
  have below : x.places * binade ≤ x.magnitude := by
    have quotient : x.magnitude / binade * binade ≤ x.magnitude := Nat.div_mul_le_self _ _
    have fewer : x.places * binade ≤ x.magnitude / binade * binade :=
      Nat.mul_le_mul_right _ (Nat.sub_le _ _)
    exact Nat.le_trans fewer quotient
  unfold significand
  omega

/-- Above the smallest numbers a significand has exactly 53 binary places. -/
theorem binade_le_significand {x : Double} (normal : x.places ≠ 0) :
    binade ≤ x.significand ∧ x.significand < 2 * binade := by
  have quotient := Nat.div_add_mod x.magnitude binade
  have remainder : x.magnitude % binade < binade := Nat.mod_lt _ (by decide)
  have made : x.magnitude / binade = x.places + 1 := by
    unfold places at normal ⊢
    omega
  have whole := places_add_significand x
  rw [made, Nat.mul_add, Nat.mul_comm binade] at quotient
  omega

/-- Without places the significand is the whole magnitude, which has at most 53 binary places. -/
theorem magnitude_lt_of_places {x : Double} (none : x.places = 0) : x.magnitude < 2 * binade := by
  unfold places at none
  exact (Nat.div_lt_iff_lt_mul (by decide)).1 (by omega)

/-- The places are what the units have beyond a 53-bit significand. -/
theorem log2_units (x : Double) : x.units.log2 - 52 = x.places := by
  by_cases none : x.places = 0
  · have whole := places_add_significand x
    rw [none, Nat.zero_mul, Nat.zero_add] at whole
    have units : x.units = x.magnitude := by
      unfold Double.units
      rw [none, whole]
      exact Nat.mul_one _
    rw [units, none]
    by_cases zero : x.magnitude = 0
    · rw [zero, Nat.log2_zero]
    · have short := log2_lt_of_lt_pow_two 53 zero (magnitude_lt_of_places none)
      omega
  · obtain ⟨least, most⟩ := binade_le_significand none
    have positive : 0 < Nat.pow 2 x.places := Nat.two_pow_pos _
    have notZero : x.units ≠ 0 := by
      have := Nat.mul_pos (Nat.lt_of_lt_of_le (by decide) least) positive
      unfold Double.units
      omega
    have lower : Nat.pow 2 (52 + x.places) ≤ x.units :=
      calc Nat.pow 2 (52 + x.places) = binade * Nat.pow 2 x.places := Nat.pow_add 2 52 x.places
        _ ≤ x.units := Nat.mul_le_mul_right _ least
    have upper : x.units < Nat.pow 2 (52 + x.places + 1) :=
      calc x.units < 2 * binade * Nat.pow 2 x.places := Nat.mul_lt_mul_of_pos_right most positive
        _ = Nat.pow 2 (53 + x.places) := (Nat.pow_add 2 53 x.places).symm
        _ = Nat.pow 2 (52 + x.places + 1) := by rw [show 53 + x.places = 52 + x.places + 1 by omega]
    have log : x.units.log2 = 52 + x.places := (Nat.log2_eq_iff notZero).2 ⟨lower, upper⟩
    omega

/-- A number rounds to its own magnitude, over whatever divisor it is given. -/
theorem nearestMagnitude_units (x : Double) {divisor : Nat} (positive : 0 < divisor) :
    nearestMagnitude (x.units * divisor) divisor = x.magnitude := by
  have places : excessPlaces (x.units * divisor) divisor = x.places := by
    unfold excessPlaces
    rw [Nat.mul_div_cancel _ positive, log2_units]
  have units : x.units * divisor = x.significand * (divisor * Nat.pow 2 x.places) := by
    unfold Double.units
    rw [Nat.mul_assoc, Nat.mul_comm divisor]
  have scaled : 0 < divisor * Nat.pow 2 x.places := Nat.mul_pos positive (Nat.two_pow_pos _)
  have rounded := divideToEven_mul scaled x.significand
  unfold nearestMagnitude
  rw [places, units]
  dsimp only
  rw [rounded]
  exact places_add_significand x

/-- The number of its own sign and magnitude is the number. -/
theorem ofMagnitude?_magnitude (x : Double) :
    ofMagnitude? x.negative x.magnitude = some x := by
  unfold ofMagnitude?
  rw [dif_pos x.finite]

/-- The units of a number other than zero are positive. -/
theorem units_pos {x : Double} (notZero : x.isZero = false) : 0 < x.units := by
  apply Nat.pos_of_ne_zero
  intro none
  have whole := nearestMagnitude_units x Nat.zero_lt_one
  rw [none] at whole
  have zero : x.magnitude = 0 := whole.symm.trans (by decide)
  simp [isZero, zero] at notZero

/-- The exact value reads back. -/
theorem isReadFrom_exactDecimal {x : Double} (notZero : x.isZero = false) :
    x.isReadFrom x.exactDecimal = true := by
  have positive := units_pos notZero
  have digits : x.exactDecimal.digits ≠ 0 :=
    Nat.ne_of_gt (Nat.mul_pos positive (natPow_pos (by decide) unitPlaces))
  have large : unitPlaces ≤ 401 + x.exactDecimal.digits.log2 := by
    have more := le_log2_mul_pow_five positive unitPlaces
    exact Nat.le_trans more (Nat.le_add_left _ 401)
  have read : x.exactDecimal.nearest? x.negative = some x := by
    rw [Decimal.nearest?_of_negative_exponent digits (by decide) rfl large]
    unfold exactDecimal ofUnits?
    dsimp only
    rw [Nat.mul_assoc, pow_five_mul_pow_two,
      nearestMagnitude_units x (natPow_pos (by decide) unitPlaces)]
    exact ofMagnitude?_magnitude x
  unfold isReadFrom
  rw [read]
  exact beq_self_eq_true _

/-- The double nearest to the shortest decimal of a number is the number. -/
theorem nearest?_shortest (tie : Tie) (x : Double) :
    (x.shortest tie).nearest? x.negative = some x := by
  unfold shortest
  by_cases zero : x.isZero = true
  · have none : x.magnitude = 0 := by simpa [isZero] using zero
    have same := ofMagnitude?_magnitude x
    rw [none] at same
    rw [if_pos zero]
    unfold Decimal.nearest?
    rw [if_pos (.inl rfl)]
    exact same
  · have notZero : x.isZero = false := by simpa using zero
    rw [if_neg zero]
    cases found : (List.range 17).findSome? fun (more : Nat) =>
        x.onGrid? tie (x.leadingExponent - more) with
    | none => exact eq_of_beq (isReadFrom_exactDecimal notZero)
    | some d =>
      obtain ⟨more, -, onGrid⟩ := List.exists_of_findSome?_eq_some found
      exact eq_of_beq (isReadFrom_onGrid onGrid)

/-- A zero is written with its last digit counting ones. -/
theorem exponent_shortest_of_zero {tie : Tie} {x : Double}
    (zero : (x.shortest tie).digits = 0) : (x.shortest tie).exponent = 0 := by
  have isZero : x.isZero = true := by
    have read := nearest?_shortest tie x
    unfold Decimal.nearest? at read
    rw [if_pos (.inl zero)] at read
    unfold ofMagnitude? at read
    split at read
    · rw [← Option.some.inj read]
      rfl
    · cases read
  unfold shortest
  rw [if_pos isZero]

end Double

end RecordSearch
