import RecordSearch.Filter.Rendering
import RecordSearch.Proofs.Filter.DecimalWords
import RecordSearch.Proofs.Number.Shortest

/-!
# Numbers as words

The word that is written for a number denotes the number. It is the shortest decimal written
positionally; reading it gives the same digits, for a whole number with its trailing zeros counted
as digits, and hence a decimal with the same nearest double.
-/

namespace RecordSearch

section Digits

/-- The value of decimal digits is that of the core library. -/
theorem Text.numeralValue_eq {digits : List Char} (all : ∀ c ∈ digits, c.isDigit = true) :
    Text.numeralValue 10 digits = Nat.ofDigitChars 10 digits 0 := by
  have general : ∀ start, (digits.map fun c => (Text.hexDigit? c).getD 0).foldl
      (fun value d => value * 10 + d) start = Nat.ofDigitChars 10 digits start := by
    induction digits with
    | nil => intro start; simp
    | cons c rest ih =>
      intro start
      have digit : c.isDigit = true := all c (by simp)
      rw [List.map_cons, List.foldl_cons, Nat.ofDigitChars_cons,
        ih (fun d inRest => all d (List.mem_cons_of_mem c inRest))]
      simp [Text.hexDigit?, digit, Nat.mul_comm]
  exact general 0

/-- Zeros after the digits multiply their value. -/
theorem Text.numeralValue_zeros {digits : List Char} (all : ∀ c ∈ digits, c.isDigit = true)
    (count : Nat) :
    Text.numeralValue 10 (digits ++ List.replicate count '0') =
      Text.numeralValue 10 digits * Nat.pow 10 count := by
  have allZeros : ∀ c ∈ digits ++ List.replicate count '0', c.isDigit = true := by
    intro c inBoth
    rcases List.mem_append.1 inBoth with inDigits | inZeros
    · exact all c inDigits
    · rw [(List.mem_replicate.1 inZeros).2]
      decide
  rw [Text.numeralValue_eq allZeros, Text.numeralValue_eq all, Nat.ofDigitChars_append,
    Nat.ofDigitChars_replicate_zero, Nat.mul_comm]
  rfl

/-- Zeros before the digits leave their value. -/
theorem Text.numeralValue_leading (count : Nat) {digits : List Char}
    (all : ∀ c ∈ digits, c.isDigit = true) :
    Text.numeralValue 10 (List.replicate count '0' ++ digits) = Text.numeralValue 10 digits := by
  have allZeros : ∀ c ∈ List.replicate count '0' ++ digits, c.isDigit = true := by
    intro c inBoth
    rcases List.mem_append.1 inBoth with inZeros | inDigits
    · rw [(List.mem_replicate.1 inZeros).2]
      decide
    · exact all c inDigits
  rw [Text.numeralValue_eq allZeros, Text.numeralValue_eq all, Nat.ofDigitChars_append,
    Nat.ofDigitChars_replicate_zero, Nat.mul_zero]

namespace Decimal

variable (d : Decimal)

/-- A decimal is written in digits. -/
theorem isDigit_of_mem_digitChars : ∀ c ∈ d.digitChars, c.isDigit = true := fun _ inDigits =>
  Nat.isDigit_of_mem_toDigits (by decide) (by decide) inDigits

/-- The digits of a decimal have its value. -/
theorem numeralValue_digitChars : Text.numeralValue 10 d.digitChars = d.digits := by
  rw [Text.numeralValue_eq d.isDigit_of_mem_digitChars]
  exact Nat.ofDigitChars_ten_toDigits

end Decimal

end Digits

section Positional

/-- The decimal that the positional text of a decimal denotes: whole numbers count ones. -/
def Decimal.spelled (d : Decimal) : Decimal :=
  if 0 ≤ d.exponent then ⟨d.digits * Nat.pow 10 d.exponent.toNat, 0⟩ else d

/-- Decimals after a point; no decimals have none. -/
def pointed (decimals : List Char) : List Char :=
  if decimals = [] then [] else '.' :: decimals

/-- Digits, with a point among them or without, and the decimal that they denote. -/
inductive IsNumeral : List Char → Decimal → Prop where
  | digits (whole decimals : List Char) (nonempty : whole ≠ [])
    (wholeDigits : ∀ c ∈ whole, c.isDigit = true)
    (decimalDigits : ∀ c ∈ decimals, c.isDigit = true) :
    IsNumeral (whole ++ pointed decimals)
      ⟨Text.numeralValue 10 (whole ++ decimals), -(decimals.length : Int)⟩

/-- Zeros are digits. -/
theorem isDigit_of_mem_zeros {zeros : Nat} :
    ∀ c ∈ List.replicate zeros '0', c.isDigit = true := by
  intro c inZeros
  rw [(List.mem_replicate.1 inZeros).2]
  decide

/-- A whole number has its digits in front of zeros. -/
theorem isNumeral_whole (d : Decimal) (zeros : Nat) :
    IsNumeral (d.digitChars ++ List.replicate zeros '0') ⟨d.digits * Nat.pow 10 zeros, 0⟩ := by
  have nonempty : d.digitChars ++ List.replicate zeros '0' ≠ [] :=
    List.append_ne_nil_of_left_ne_nil Nat.toDigits_ne_nil _
  have allDigits : ∀ c ∈ d.digitChars ++ List.replicate zeros '0', c.isDigit = true :=
    List.forall_mem_append.2 ⟨d.isDigit_of_mem_digitChars, isDigit_of_mem_zeros⟩
  have numeral := IsNumeral.digits _ [] nonempty allDigits (by simp)
  simpa [pointed, Text.numeralValue_zeros d.isDigit_of_mem_digitChars, d.numeralValue_digitChars]
    using numeral

/-- A decimal with fewer decimals than digits has the point among its digits. -/
theorem isNumeral_among {d : Decimal} {decimals : Nat} (some : 0 < decimals)
    (fewer : decimals < d.digitChars.length) (places : (decimals : Int) = -d.exponent) :
    IsNumeral (d.digitChars.take (d.digitChars.length - decimals) ++
      '.' :: d.digitChars.drop (d.digitChars.length - decimals)) d := by
  have digits := d.isDigit_of_mem_digitChars
  have length : (d.digitChars.drop (d.digitChars.length - decimals)).length = decimals := by
    rw [List.length_drop]
    omega
  have nonempty : d.digitChars.take (d.digitChars.length - decimals) ≠ [] := by
    apply List.ne_nil_of_length_pos
    rw [List.length_take]
    omega
  have hasDecimals : d.digitChars.drop (d.digitChars.length - decimals) ≠ [] :=
    List.ne_nil_of_length_pos (by omega)
  have numeral := IsNumeral.digits _ (d.digitChars.drop (d.digitChars.length - decimals)) nonempty
    (fun c inPart => digits c (List.mem_of_mem_take inPart))
    (fun c inPart => digits c (List.mem_of_mem_drop inPart))
  have exponent : -(decimals : Int) = d.exponent := by omega
  rw [List.take_append_drop, d.numeralValue_digitChars, length, exponent] at numeral
  simpa [pointed, hasDecimals] using numeral

/-- A decimal below one has its digits after zeros. -/
theorem isNumeral_below_one {d : Decimal} (negative : d.exponent < 0) {zeros : Nat}
    (places : (zeros : Int) + d.digitChars.length = -d.exponent) :
    IsNumeral ('0' :: '.' :: List.replicate zeros '0' ++ d.digitChars) d := by
  have decimalDigits : ∀ c ∈ List.replicate zeros '0' ++ d.digitChars, c.isDigit = true :=
    List.forall_mem_append.2 ⟨isDigit_of_mem_zeros, d.isDigit_of_mem_digitChars⟩
  have nonempty : List.replicate zeros '0' ++ d.digitChars ≠ [] := by
    intro empty
    have := congrArg List.length empty
    simp only [List.length_append, List.length_replicate, List.length_nil] at this
    omega
  have numeral := IsNumeral.digits ['0'] (List.replicate zeros '0' ++ d.digitChars) (by simp)
    (by simp) decimalDigits
  have value : Text.numeralValue 10 (['0'] ++ (List.replicate zeros '0' ++ d.digitChars)) =
      d.digits := by
    rw [← List.append_assoc, ← List.replicate_one, List.replicate_append_replicate,
      Text.numeralValue_leading _ d.isDigit_of_mem_digitChars, d.numeralValue_digitChars]
  have exponent : -((List.replicate zeros '0' ++ d.digitChars).length : Int) = d.exponent := by
    simp only [List.length_append, List.length_replicate]
    omega
  rw [value, exponent] at numeral
  simpa [pointed, nonempty] using numeral

/-- The positional text of a decimal is a numeral for it. -/
theorem isNumeral_positionalChars (d : Decimal) : IsNumeral (d.positionalChars []) d.spelled := by
  unfold Decimal.positionalChars Decimal.spelled
  dsimp only
  by_cases whole : 0 ≤ d.exponent
  · rw [if_pos whole, if_pos whole, List.append_nil]
    exact isNumeral_whole d d.exponent.toNat
  · rw [if_neg whole, if_neg whole]
    by_cases fewer : (-d.exponent).toNat < d.digitChars.length
    · rw [if_pos fewer]
      exact isNumeral_among (by omega) fewer (by omega)
    · rw [if_neg fewer]
      exact isNumeral_below_one (by omega) (by omega)

end Positional

section Reading

/-- A digit is no sign. -/
theorem signed_of_isDigit {c : Char} (digit : c.isDigit = true) (rest : List Char) :
    Text.signed (c :: rest) = (false, c :: rest) := by
  obtain ⟨notMinus, notPlus, -⟩ := Filter.ne_of_isDigit digit
  apply Filter.IsSign.none.signed
  rintro _ ⟨⟩
  exact ⟨notMinus, notPlus⟩

/-- A numeral starts with a digit. -/
theorem exists_isDigit_of_isNumeral {text : List Char} {d : Decimal} (numeral : IsNumeral text d) :
    ∃ c rest, text = c :: rest ∧ c.isDigit = true := by
  cases numeral with
  | digits whole decimals nonempty wholeDigits _ =>
    obtain ⟨c, more, rfl⟩ := List.exists_cons_of_ne_nil nonempty
    exact ⟨c, _, rfl, wholeDigits c (by simp)⟩

/-- A numeral after its sign is read as the decimal that it denotes. -/
theorem decimal?_of_isNumeral {negative : Bool} {text unsigned : List Char} {d : Decimal}
    (sign : Text.signed text = (negative, unsigned)) (numeral : IsNumeral unsigned d) :
    Filter.decimal? text = some (negative, d) := by
  cases numeral with
  | digits whole decimals nonempty wholeDigits decimalDigits =>
    have isMantissa : Filter.IsMantissa (whole ++ pointed decimals)
        ⟨Text.numeralValue 10 (whole ++ decimals), -(decimals.length : Int)⟩ := by
      unfold pointed
      by_cases none : decimals = []
      · simpa [none] using Filter.IsMantissa.whole ⟨nonempty, wholeDigits⟩
      · rw [if_neg none]
        exact .pointed ⟨List.append_ne_nil_of_left_ne_nil nonempty _,
          List.forall_mem_append.2 ⟨wholeDigits, decimalDigits⟩⟩
    obtain ⟨signText, isSign, split⟩ := Filter.isSign_signed text
    rw [sign] at isSign split
    have spells := Filter.SpellsDecimal.parts isSign isMantissa .none
    rw [List.append_nil, ← split] at spells
    simpa using Filter.decimal?_eq_some_iff.2 spells

/-- A whole number counted in ones has the same nearest double. -/
theorem nearest?_spelled {d : Decimal} {negative : Bool} {x : Double}
    (read : d.nearest? negative = some x) : d.spelled.nearest? negative = some x := by
  unfold Decimal.spelled
  by_cases whole : 0 ≤ d.exponent
  · rw [if_pos whole]
    unfold Decimal.nearest? at read ⊢
    dsimp only
    by_cases zero : d.digits = 0
    · rw [if_pos (.inl zero)] at read
      rw [if_pos (.inl (by rw [zero, Nat.zero_mul]))]
      exact read
    · have digits : d.digits * Nat.pow 10 d.exponent.toNat ≠ 0 :=
        Nat.ne_of_gt (Nat.mul_pos (Nat.pos_of_ne_zero zero) (natPow_pos (by decide) _))
      rw [if_neg (by omega)] at read
      rw [if_neg (by omega), if_neg (by omega), if_pos (Int.le_refl 0)]
      by_cases large : 400 < d.exponent
      · rw [if_pos large] at read
        cases read
      · have one : Nat.pow 10 (Int.toNat 0) = 1 := rfl
        rw [if_neg large, if_pos whole] at read
        rw [one, Nat.mul_one]
        exact read
  · rw [if_neg whole]
    exact read

/-- The word of a number denotes it. -/
theorem number?_chars (x : Double) :
    Filter.number? (String.ofList (x.chars Literal.numeralStyle)) = some x := by
  have numeral := isNumeral_positionalChars (x.shortest .up)
  have nearest := nearest?_spelled (Double.nearest?_shortest .up x)
  have sign : Text.signed (x.chars Literal.numeralStyle) =
      (x.negative, (x.shortest .up).positionalChars []) := by
    unfold Double.chars Literal.numeralStyle
    dsimp only
    rw [if_pos rfl]
    cases negative : x.negative with
    | true => rfl
    | false =>
      obtain ⟨c, rest, starts, digit⟩ := exists_isDigit_of_isNumeral numeral
      rw [starts]
      exact signed_of_isDigit digit rest
  rw [Filter.number?_eq, String.toList_ofList, decimal?_of_isNumeral sign numeral]
  exact nearest

/-- A digit has no other letter case. -/
theorem toLower_of_isDigit {c : Char} (digit : c.isDigit = true) : c.toLower = c := by
  have same : c.toNat = c.val.toNat := rfl
  have nine : '9'.val.toNat = 57 := rfl
  have upperA : 'A'.val.toNat = 65 := rfl
  simp only [Char.isDigit, Bool.and_eq_true, decide_eq_true_eq, UInt32.le_iff_toNat_le] at digit
  unfold Char.toLower
  rw [dif_neg]
  rintro ⟨upper, -⟩
  rw [ge_iff_le, UInt32.le_iff_toNat_le] at upper
  omega

/-- A word that starts with a digit or a minus is no keyword. -/
theorem not_spells_of_head {keyword : Filter.Keyword} {word : String} {c : Char} {more : List Char}
    (starts : word.toList = c :: more) (numeric : c.isDigit = true ∨ c = '-') :
    ¬keyword.Spells word := by
  intro spelled
  have lower : c.toLower = c := by
    rcases numeric with digit | rfl
    · exact toLower_of_isDigit digit
    · decide
  have letters : (Text.lowerCase keyword.word).head? ∈ [some 'a', some 'o', some 'n'] := by
    cases keyword <;> decide
  rw [Text.sameLetters_iff.1 spelled, Text.lowerCase, starts, List.map_cons, List.head?_cons,
    lower] at letters
  simp only [List.mem_cons, Option.some.injEq, List.not_mem_nil, or_false] at letters
  rcases letters with rfl | rfl | rfl <;> exact absurd numeric (by decide)

/-- The word of a number starts with a digit or a minus. -/
theorem exists_head_of_number (x : Double) :
    ∃ c more, x.chars Literal.numeralStyle = c :: more ∧ (c.isDigit = true ∨ c = '-') := by
  obtain ⟨c, more, starts, digit⟩ :=
    exists_isDigit_of_isNumeral (isNumeral_positionalChars (x.shortest .up))
  unfold Double.chars Literal.numeralStyle
  dsimp only
  rw [if_pos rfl]
  cases x.negative with
  | true => exact ⟨_, _, rfl, .inr rfl⟩
  | false => exact ⟨c, more, starts, .inl digit⟩

end Reading

end RecordSearch
