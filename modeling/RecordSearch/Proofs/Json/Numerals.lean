import RecordSearch.Json.Reader
import RecordSearch.Json.Writer
import RecordSearch.Proofs.Filter.Numerals

/-!
# Written numbers follow the grammar

The text of a number has whole digits without a leading zero of its own, then decimals after a
point and a signed exponent part where it has them. Such a text is read to its end, and no further,
if what follows could not be part of a number.
-/

namespace RecordSearch

/-- The digits of a number that is not zero start with another digit than zero. -/
theorem exists_head_of_toDigits {n : Nat} (positive : 0 < n) :
    ∃ c more, Nat.toDigits 10 n = c :: more ∧ c ≠ '0' := by
  induction n using Nat.strongRecOn with
  | ind n ih =>
    rw [Nat.toDigits_eq_if (by decide)]
    by_cases small : n < 10
    · rw [if_pos small]
      have notZero : ∀ d < 10, 0 < d → Nat.digitChar d ≠ '0' := by decide
      exact ⟨_, _, rfl, notZero n small positive⟩
    · rw [if_neg small]
      obtain ⟨c, more, starts, notZero⟩ := ih (n / 10) (by omega) (by omega)
      rw [starts]
      exact ⟨c, more ++ [(n % 10).digitChar], rfl, notZero⟩

namespace Json

open RecordSearch.Text (Symbol)

section Parts

/-- The value of a digit. -/
def digitValue (c : Char) : Nat := c.toNat - '0'.toNat

/-- No digit stands at the start of the text. -/
def EndsDigits (text : List Symbol) : Prop :=
  ∀ c, text.head? = some (some c) → c.isDigit = false

/-- Nothing at the start of the text could go on with a number. -/
def EndsNumber (text : List Symbol) : Prop :=
  ∀ c, text.head? = some (some c) → c.isDigit = false ∧ c ≠ '.' ∧ c ≠ 'e' ∧ c ≠ 'E'

/-- What ends a number ends its digits. -/
theorem EndsNumber.endsDigits {text : List Symbol} (ends : EndsNumber text) : EndsDigits text :=
  fun c starts => (ends c starts).1

/-- Digits are read up to what ends them. -/
theorem digits_append {ds : List Char} (allDigits : ∀ c ∈ ds, c.isDigit = true)
    {rest : List Symbol} (ends : EndsDigits rest) :
    digits (ds.map some ++ rest) = (ds.map digitValue, rest) := by
  induction ds with
  | nil =>
    cases rest with
    | nil => rfl
    | cons symbol rest =>
      cases symbol with
      | none => rfl
      | some c =>
        have noDigit : ¬c.isDigit = true := by simp [ends c rfl]
        rw [List.map_nil, List.nil_append, digits, if_neg noDigit]
        rfl
  | cons c ds ih =>
    have digit : c.isDigit = true := allDigits c List.mem_cons_self
    have later := ih fun other isLater => allDigits other (List.mem_cons_of_mem c isLater)
    rw [List.map_cons, List.cons_append, digits, if_pos digit, later]
    rfl

/-- Decimals after a point are read, and none without a point. -/
theorem fraction?_pointed {decimals : List Char} (allDigits : ∀ c ∈ decimals, c.isDigit = true)
    {rest : List Symbol} (ends : EndsDigits rest) (noPoint : rest.head? ≠ some (some '.')) :
    fraction? ((pointed decimals).map some ++ rest) = some (decimals.map digitValue, rest) := by
  cases decimals with
  | nil =>
    unfold pointed fraction?
    simp only [if_pos, List.map_nil, List.nil_append]
    split
    · exact absurd rfl noPoint
    · rfl
  | cons c more =>
    have read := digits_append allDigits ends
    rw [pointed, if_neg (List.cons_ne_nil c more), List.map_cons, List.cons_append, fraction?, read]
    rfl

/-- An exponent part with its sign and digits is read. -/
theorem exponent?_signed {negative : Bool} {ds : List Char} (nonempty : ds ≠ [])
    (allDigits : ∀ c ∈ ds, c.isDigit = true) {rest : List Symbol} (ends : EndsDigits rest) :
    exponent? (('e' :: (if negative then '-' else '+') :: ds).map some ++ rest) =
      some (some (Text.withSign negative (Text.digitsValue 10 (ds.map digitValue))), rest) := by
  have read : exponentDigits? negative (ds.map some ++ rest) =
      some (some (Text.withSign negative (Text.digitsValue 10 (ds.map digitValue))), rest) := by
    obtain ⟨c, more, rfl⟩ := List.exists_cons_of_ne_nil nonempty
    rw [exponentDigits?, digits_append allDigits ends]
    rfl
  cases negative <;> exact read

/-- Without a letter for it there is no exponent part. -/
theorem exponent?_of_ends {rest : List Symbol} (ends : EndsNumber rest) :
    exponent? rest = some (none, rest) := by
  have notLower : rest.head? ≠ some (some 'e') := fun starts => (ends 'e' starts).2.2.1 rfl
  have notUpper : rest.head? ≠ some (some 'E') := fun starts => (ends 'E' starts).2.2.2 rfl
  unfold exponent?
  split
  all_goals first
    | exact absurd rfl notLower
    | exact absurd rfl notUpper
    | rfl

end Parts

section Unsigned

/-- The text without a sign is read to its end as one number. -/
def IsUnsigned (text : List Char) : Prop :=
  ∀ negative, ∃ numeral, ∀ rest, EndsNumber rest →
    unsignedNumeral? negative (text.map some ++ rest) = some (numeral, rest)

/-- Whole digits of which a leading zero is the only one. -/
structure IsWhole (whole : List Char) : Prop where
  nonempty : whole ≠ []
  allDigits : ∀ c ∈ whole, c.isDigit = true
  zeroAlone : ∀ more, whole = '0' :: more → more = []

/-- A digit other than zero has another value than zero. -/
theorem digitValue_ne_zero {c : Char} (digit : c.isDigit = true) (notZero : c ≠ '0') :
    digitValue c ≠ 0 := by
  intro none
  apply notZero
  have range := digit
  simp only [Char.isDigit, Bool.and_eq_true, decide_eq_true_eq, ge_iff_le,
    UInt32.le_iff_toNat_le] at range
  have same : c.toNat = c.val.toNat := rfl
  have zero : '0'.val.toNat = 48 := rfl
  have zeroNat : '0'.toNat = 48 := rfl
  unfold digitValue at none
  apply Char.toNat_inj.1
  omega

/-- The values of whole digits start with a zero only where it is alone. -/
theorem IsWhole.ne_zero_cons {whole : List Char} (isWhole : IsWhole whole) (next : Nat)
    (more : List Nat) : whole.map digitValue ≠ 0 :: next :: more := by
  intro same
  obtain ⟨c, others, rfl, none, rest⟩ := List.map_eq_cons_iff.1 same
  by_cases isZero : c = '0'
  · rw [isWhole.zeroAlone others (by rw [isZero])] at rest
    cases rest
  · exact digitValue_ne_zero (isWhole.allDigits c List.mem_cons_self) isZero none

/-- After whole digits the decimals and the exponent part are read. -/
theorem unsignedNumeral?_whole {whole : List Char} (isWhole : IsWhole whole) (negative : Bool)
    {text : List Symbol} (ends : EndsDigits text) :
    unsignedNumeral? negative (whole.map some ++ text) =
      (fraction? text).bind fun decimals => (exponent? decimals.2).bind fun power =>
        some (⟨negative, whole.map digitValue, decimals.1, power.1⟩, power.2) := by
  unfold unsignedNumeral?
  rw [digits_append isWhole.allDigits ends]
  split
  · next same =>
    exact absurd (List.map_eq_nil_iff.1 (congrArg Prod.fst same)) isWhole.nonempty
  · next same => exact absurd (congrArg Prod.fst same) (isWhole.ne_zero_cons _ _)
  · next same =>
    cases same
    rfl

/-- A point or the letter of an exponent part ends digits. -/
theorem endsDigits_cons {c : Char} (notDigit : c.isDigit = false) (rest : List Symbol) :
    EndsDigits (some c :: rest) := by
  intro other same
  cases same
  exact notDigit

/-- Decimals end the digits before their point. -/
theorem endsDigits_pointed {decimals : List Char} {rest : List Symbol} (ends : EndsDigits rest) :
    EndsDigits ((pointed decimals).map some ++ rest) := by
  unfold pointed
  split
  · exact ends
  · exact endsDigits_cons (by decide) _

/-- Whole digits with decimals or without are a number. -/
theorem isUnsigned_pointed {whole decimals : List Char} (isWhole : IsWhole whole)
    (allDigits : ∀ c ∈ decimals, c.isDigit = true) : IsUnsigned (whole ++ pointed decimals) := by
  intro negative
  refine ⟨⟨negative, whole.map digitValue, decimals.map digitValue, none⟩, ?_⟩
  intro rest ends
  have noPoint : rest.head? ≠ some (some '.') := fun starts => (ends '.' starts).2.1 rfl
  rw [List.map_append, List.append_assoc,
    unsignedNumeral?_whole isWhole negative (endsDigits_pointed ends.endsDigits),
    fraction?_pointed allDigits ends.endsDigits noPoint]
  simp [exponent?_of_ends ends]

/-- Whole digits with decimals or without and an exponent part are a number. -/
theorem isUnsigned_power {whole decimals power : List Char} (below : Bool)
    (isWhole : IsWhole whole) (allDigits : ∀ c ∈ decimals, c.isDigit = true) (nonempty : power ≠ [])
    (powerDigits : ∀ c ∈ power, c.isDigit = true) :
    IsUnsigned (whole ++ pointed decimals ++ 'e' :: (if below then '-' else '+') :: power) := by
  intro negative
  refine ⟨⟨negative, whole.map digitValue, decimals.map digitValue,
    some (Text.withSign below (Text.digitsValue 10 (power.map digitValue)))⟩, ?_⟩
  intro rest ends
  have letter : EndsDigits
      (('e' :: (if below then '-' else '+') :: power).map some ++ rest) :=
    endsDigits_cons (by decide) _
  have noPoint : (('e' :: (if below then '-' else '+') :: power).map some ++ rest).head? ≠
      some (some '.') := by simp
  rw [List.append_assoc, List.map_append, List.append_assoc, List.map_append, List.append_assoc,
    unsignedNumeral?_whole isWhole negative (endsDigits_pointed letter),
    fraction?_pointed allDigits letter noPoint]
  simp only [Option.bind_some, exponent?_signed nonempty powerDigits ends.endsDigits]

end Unsigned

section Decimals

/-- The digits of a number are whole digits. -/
theorem isWhole_toDigits (n : Nat) : IsWhole (Nat.toDigits 10 n) where
  nonempty := Nat.toDigits_ne_nil
  allDigits := fun c isIn => Nat.isDigit_of_mem_toDigits (by decide) (by decide) isIn
  zeroAlone := by
    intro more starts
    by_cases zero : n = 0
    · subst zero
      rw [Nat.toDigits_zero] at starts
      exact (List.cons.inj starts).2.symm
    · obtain ⟨c, others, head, notZero⟩ := exists_head_of_toDigits (Nat.pos_of_ne_zero zero)
      rw [head] at starts
      exact absurd (List.cons.inj starts).1 notZero

/-- One digit is whole digits. -/
theorem isWhole_singleton {c : Char} (digit : c.isDigit = true) : IsWhole [c] where
  nonempty := List.cons_ne_nil c []
  allDigits := by simpa using digit
  zeroAlone := fun _ same => (List.cons.inj same).2.symm

/-- The first digits of a number that is not zero are whole digits, with more digits or without. -/
theorem isWhole_append {n : Nat} (positive : 0 < n) {start more : List Char}
    (nonempty : start ≠ []) (isStart : start <+: Nat.toDigits 10 n)
    (moreDigits : ∀ c ∈ more, c.isDigit = true) : IsWhole (start ++ more) where
  nonempty := List.append_ne_nil_of_left_ne_nil nonempty more
  allDigits := by
    apply List.forall_mem_append.2 ⟨?_, moreDigits⟩
    intro c isIn
    exact Nat.isDigit_of_mem_toDigits (by decide) (by decide) (isStart.subset isIn)
  zeroAlone := by
    intro others starts
    obtain ⟨c, tail, head, notZero⟩ := exists_head_of_toDigits positive
    obtain ⟨first, later, rfl⟩ := List.exists_cons_of_ne_nil nonempty
    rw [head] at isStart
    have isFirst : first = c := (List.cons_prefix_cons.1 isStart).1
    have isZero : first = '0' := (List.cons.inj starts).1
    exact absurd (isFirst.symm.trans isZero) notZero

/-- Decimals that are there stand after a point. -/
theorem pointed_of_ne_nil {decimals : List Char} (nonempty : decimals ≠ []) :
    pointed decimals = '.' :: decimals := by
  rw [pointed, if_neg nonempty]

/-- A decimal with fewer decimals than digits is a number with the point among its digits. -/
theorem isUnsigned_among {d : Decimal} {decimals : Nat} (some : 0 < decimals)
    (fewer : decimals < d.digitChars.length) :
    IsUnsigned (d.digitChars.take (d.digitChars.length - decimals) ++
      '.' :: d.digitChars.drop (d.digitChars.length - decimals)) := by
  have positive : 0 < d.digits := by
    apply Nat.pos_of_ne_zero
    intro zero
    have one : d.digitChars.length = 1 := by
      rw [Decimal.digitChars, zero, Nat.toDigits_zero]
      rfl
    omega
  have nonempty : d.digitChars.take (d.digitChars.length - decimals) ≠ [] := by
    apply List.ne_nil_of_length_pos
    rw [List.length_take]
    omega
  have hasDecimals : d.digitChars.drop (d.digitChars.length - decimals) ≠ [] := by
    apply List.ne_nil_of_length_pos
    rw [List.length_drop]
    omega
  have isWhole : IsWhole (d.digitChars.take (d.digitChars.length - decimals)) := by
    have whole := isWhole_append positive nonempty (List.take_prefix _ _) (List.forall_mem_nil _)
    rwa [List.append_nil] at whole
  rw [← pointed_of_ne_nil hasDecimals]
  exact isUnsigned_pointed isWhole fun c isIn =>
    d.isDigit_of_mem_digitChars c (List.mem_of_mem_drop isIn)

/-- A decimal written positionally is a number, if zero is written with its last digit counting
ones. -/
theorem isUnsigned_positional {d : Decimal} (settled : d.digits = 0 → d.exponent = 0) :
    IsUnsigned (d.positionalChars ['.', '0']) := by
  have mark : ['.', '0'] = pointed ['0'] := rfl
  unfold Decimal.positionalChars
  dsimp only
  by_cases whole : 0 ≤ d.exponent
  · rw [if_pos whole, mark]
    apply isUnsigned_pointed _ (List.forall_mem_singleton.2 (by decide))
    by_cases zero : d.digits = 0
    · rw [settled zero, Int.toNat_zero, List.replicate_zero, List.append_nil]
      exact isWhole_toDigits d.digits
    · exact isWhole_append (Nat.pos_of_ne_zero zero) Nat.toDigits_ne_nil (List.prefix_refl _)
        isDigit_of_mem_zeros
  · rw [if_neg whole]
    by_cases fewer : (-d.exponent).toNat < d.digitChars.length
    · rw [if_pos fewer]
      exact isUnsigned_among (by omega) fewer
    · rw [if_neg fewer]
      have hasDecimals : List.replicate ((-d.exponent).toNat - d.digitChars.length) '0' ++
          d.digitChars ≠ [] := List.append_ne_nil_of_right_ne_nil _ Nat.toDigits_ne_nil
      have allDigits : ∀ c ∈ List.replicate ((-d.exponent).toNat - d.digitChars.length) '0' ++
          d.digitChars, c.isDigit = true :=
        List.forall_mem_append.2 ⟨isDigit_of_mem_zeros, d.isDigit_of_mem_digitChars⟩
      have numeral := isUnsigned_pointed (isWhole_singleton (by decide : '0'.isDigit = true))
        allDigits
      rw [pointed_of_ne_nil hasDecimals] at numeral
      exact numeral

/-- A decimal written with an exponent part is a number. -/
theorem isUnsigned_exponent (d : Decimal) : IsUnsigned d.exponentChars := by
  have allDigits := d.isDigit_of_mem_digitChars
  unfold Decimal.exponentChars
  dsimp only
  cases digits : d.digitChars with
  | nil => exact absurd digits Nat.toDigits_ne_nil
  | cons c more =>
    rw [digits] at allDigits
    have decimals : (if more.isEmpty then [] else '.' :: more) = pointed more := by
      cases more <;> rfl
    have numeral := isUnsigned_power (decide (d.leadingExponent < 0))
      (isWhole_singleton (allDigits c List.mem_cons_self))
      (fun other isLater => allDigits other (List.mem_cons_of_mem c isLater))
      Nat.toDigits_ne_nil
      (isWhole_toDigits d.leadingExponent.natAbs).allDigits
    simp only [decide_eq_true_eq] at numeral
    rw [List.drop_one, List.tail_cons, List.take_succ_cons, List.take_zero, decimals]
    exact numeral

end Decimals

section Numbers

/-- The number that the text of a number denotes, if it denotes one. -/
def Number.reread? (number : Number) : Option Number :=
  (numeral? (number.chars.map some)).bind fun found => found.1.value?

/-- A number without a sign starts with a digit. -/
theorem exists_isDigit_of_isUnsigned {text : List Char} (unsigned : IsUnsigned text) :
    ∃ c more, text = c :: more ∧ c.isDigit = true := by
  obtain ⟨numeral, read⟩ := unsigned false
  have alone := read [] (by simp [EndsNumber])
  rw [List.append_nil] at alone
  cases text with
  | nil => simp [unsignedNumeral?, digits] at alone
  | cons c more =>
    refine ⟨c, more, rfl, ?_⟩
    by_cases digit : c.isDigit = true
    · exact digit
    · simp [unsignedNumeral?, digits, digit] at alone

/-- A number with its sign is read up to what ends it. -/
theorem exists_numeral_of_signed {unsigned : List Char} (isUnsigned : IsUnsigned unsigned)
    (negative : Bool) : ∃ numeral, ∀ rest, EndsNumber rest →
      numeral? (((if negative then ['-'] else []) ++ unsigned).map some ++ rest) =
        some (numeral, rest) := by
  cases negative with
  | true => exact isUnsigned true
  | false =>
    obtain ⟨numeral, read⟩ := isUnsigned false
    obtain ⟨c, more, rfl, digit⟩ := exists_isDigit_of_isUnsigned isUnsigned
    refine ⟨numeral, ?_⟩
    intro rest ends
    rw [← read rest ends]
    unfold numeral?
    split
    · next same =>
      cases same
      exact absurd digit (by decide)
    · rfl

/-- A double is written as a number without a sign, or as one after a minus. -/
theorem exists_unsigned_double (x : Double) : ∃ unsigned, IsUnsigned unsigned ∧
    x.chars numeralStyle = (if x.negative then ['-'] else []) ++ unsigned := by
  have settled : (x.shortest numeralStyle.tie).digits = 0 →
      (x.shortest numeralStyle.tie).exponent = 0 := Double.exponent_shortest_of_zero
  have isUnsigned : IsUnsigned
      (if numeralStyle.positional (x.shortest numeralStyle.tie).leadingExponent
        then (x.shortest numeralStyle.tie).positionalChars numeralStyle.wholeMark
        else (x.shortest numeralStyle.tie).exponentChars) := by
    split
    · exact isUnsigned_positional settled
    · exact isUnsigned_exponent _
  refine ⟨_, isUnsigned, ?_⟩
  unfold Double.chars
  cases x.negative <;> rfl

/-- A number is written as a number without a sign, or as one after a minus. -/
theorem Number.exists_unsigned (number : Number) :
    ∃ (negative : Bool) (unsigned : List Char), IsUnsigned unsigned ∧
      number.chars = (if negative then ['-'] else []) ++ unsigned := by
  cases number with
  | integer value low high =>
    have numeral := isUnsigned_pointed (isWhole_toDigits value.natAbs) (List.forall_mem_nil _)
    rw [pointed, if_pos rfl, List.append_nil] at numeral
    exact ⟨decide (value < 0), Nat.toDigits 10 value.natAbs, numeral, by simp [Number.chars]⟩
  | double value => exact ⟨value.negative, exists_unsigned_double value⟩

/-- The text of a number is read to its end, as one number whatever ends it. -/
theorem Number.exists_numeral (number : Number) : ∃ numeral,
    numeral.value? = number.reread? ∧ ∀ rest, EndsNumber rest →
      numeral? (number.chars.map some ++ rest) = some (numeral, rest) := by
  obtain ⟨negative, unsigned, isUnsigned, chars⟩ := number.exists_unsigned
  obtain ⟨numeral, read⟩ := exists_numeral_of_signed isUnsigned negative
  rw [← chars] at read
  refine ⟨numeral, ?_, read⟩
  have alone := read [] (by simp [EndsNumber])
  rw [List.append_nil] at alone
  rw [Number.reread?, alone]
  rfl

/-- The text of a number starts with a digit or a minus. -/
theorem Number.exists_head (number : Number) :
    ∃ c more, number.chars = c :: more ∧ (c.isDigit = true ∨ c = '-') := by
  obtain ⟨negative, unsigned, isUnsigned, chars⟩ := number.exists_unsigned
  rw [chars]
  cases negative with
  | true => exact ⟨'-', unsigned, rfl, .inr rfl⟩
  | false =>
    obtain ⟨c, more, starts, digit⟩ := exists_isDigit_of_isUnsigned isUnsigned
    exact ⟨c, more, starts, .inl digit⟩

end Numbers

end Json

end RecordSearch
