import RecordSearch.Proofs.Filter.Names
import RecordSearch.Proofs.Filter.Lexing

/-!
# Words that spell decimal numbers

A decimal number is a sign, a mantissa and an exponent, of which the first and the last may be left
out. A word denotes a finite number exactly when it spells one whose value is in range: what the
standard notation has besides, names for infinity and for what is not a number, has no characters of
a decimal number in front, and every decimal number passes the checks on its characters.
-/

namespace RecordSearch.Filter

section Spelling

/-- A sign or none, and whether it is a minus. -/
inductive IsSign : List Char → Bool → Prop where
  | none : IsSign [] false
  | plus : IsSign ['+'] false
  | minus : IsSign ['-'] true

/-- The text is at least one digit. -/
structure IsDigits (text : List Char) : Prop where
  nonempty : text ≠ []
  digits : ∀ c ∈ text, c.isDigit = true

/-- Digits without a point or with one after, among or before them, and the decimal they denote. -/
inductive IsMantissa : List Char → Decimal → Prop where
  | whole {whole : List Char} (digits : IsDigits whole) :
    IsMantissa whole ⟨Text.numeralValue 10 whole, 0⟩
  | pointed {whole decimals : List Char} (digits : IsDigits (whole ++ decimals)) :
    IsMantissa (whole ++ '.' :: decimals)
      ⟨Text.numeralValue 10 (whole ++ decimals), -(decimals.length : Int)⟩

/-- A power of ten, or none, which is the power zero. -/
inductive IsExponent : List Char → Int → Prop where
  | none : IsExponent [] 0
  | power {letter : Char} (isLetter : letter = 'e' ∨ letter = 'E') {sign digits : List Char}
    {negative : Bool} (isSign : IsSign sign negative) (isDigits : IsDigits digits) :
    IsExponent (letter :: (sign ++ digits))
      (Text.withSign negative (Text.numeralValue 10 digits))

/-- A sign, a mantissa and an exponent, and the sign and the decimal that they denote. -/
inductive SpellsDecimal : List Char → Bool → Decimal → Prop where
  | parts {sign mantissa exponent : List Char} {negative : Bool} {d : Decimal} {power : Int}
    (isSign : IsSign sign negative) (isMantissa : IsMantissa mantissa d)
    (isExponent : IsExponent exponent power) :
    SpellsDecimal (sign ++ (mantissa ++ exponent)) negative ⟨d.digits, power + d.exponent⟩

end Spelling

section Reading

variable {text sign mantissa exponent : List Char} {negative : Bool} {d : Decimal} {power : Int}

/-- Every text is a sign, or none, and the text after it. -/
theorem isSign_signed (text : List Char) :
    ∃ sign, IsSign sign (Text.signed text).1 ∧ text = sign ++ (Text.signed text).2 := by
  unfold Text.signed
  split
  · exact ⟨['-'], .minus, rfl⟩
  · exact ⟨['+'], .plus, rfl⟩
  · exact ⟨[], .none, rfl⟩

/-- A sign is read off a text that goes on with another character. -/
theorem IsSign.signed (isSign : IsSign sign negative)
    (goesOn : ∀ c ∈ text.head?, c ≠ '-' ∧ c ≠ '+') :
    Text.signed (sign ++ text) = (negative, text) := by
  cases isSign with
  | plus | minus => rfl
  | none =>
    rw [List.nil_append]
    unfold Text.signed
    split
    · exact absurd rfl (goesOn '-' rfl).1
    · exact absurd rfl (goesOn '+' rfl).2
    · rfl

/-- A digit is neither a sign nor a point. -/
theorem ne_of_isDigit {c : Char} (digit : c.isDigit = true) : c ≠ '-' ∧ c ≠ '+' ∧ c ≠ '.' := by
  refine ⟨?_, ?_, ?_⟩ <;>
    · rintro rfl
      exact absurd digit (by decide)

/-- An exponent is read as the power that it denotes. -/
theorem exponent?_eq_some_iff : exponent? text = some power ↔ IsExponent text power := by
  constructor
  · intro read
    match text with
    | [] =>
      cases read
      exact .none
    | letter :: rest =>
      obtain ⟨sign, isSign, split⟩ := isSign_signed rest
      unfold exponent? at read
      dsimp only at read
      generalize Text.signed rest = signed at *
      split at read
      · next isPower =>
        obtain ⟨isLetter, nonempty, digits⟩ := isPower
        cases read
        rw [split]
        exact .power isLetter isSign ⟨nonempty, List.all_eq_true.1 digits⟩
      · cases read
  · rintro (_ | ⟨isLetter, isSign, isDigits⟩)
    · rfl
    · next letter sign digits negative =>
      have goesOn : ∀ c ∈ digits.head?, c ≠ '-' ∧ c ≠ '+' := fun c isHead =>
        have apart := ne_of_isDigit (isDigits.digits c (List.mem_of_mem_head? isHead))
        ⟨apart.1, apart.2.1⟩
      unfold exponent?
      dsimp only
      rw [isSign.signed goesOn]
      exact if_pos ⟨isLetter, isDigits.nonempty, List.all_eq_true.2 isDigits.digits⟩

/-- An exponent starts with a letter. -/
theorem IsExponent.head_eq (isExponent : IsExponent exponent power) :
    ∀ c ∈ exponent.head?, c = 'e' ∨ c = 'E' := by
  cases isExponent with
  | none => simp
  | power isLetter isSign isDigits =>
    rintro _ ⟨⟩
    exact isLetter

/-- A mantissa starts with a digit or a point. -/
theorem IsMantissa.exists_head (isMantissa : IsMantissa mantissa d) :
    ∃ c more, mantissa = c :: more ∧ (c.isDigit = true ∨ c = '.') := by
  cases isMantissa with
  | whole isDigits =>
    obtain ⟨c, more, rfl⟩ := List.exists_cons_of_ne_nil isDigits.nonempty
    exact ⟨c, more, rfl, .inl (isDigits.digits c (by simp))⟩
  | @pointed whole decimals isDigits =>
    cases whole with
    | nil => exact ⟨'.', decimals, rfl, .inr rfl⟩
    | cons c more => exact ⟨c, _, rfl, .inl (isDigits.digits c (by simp))⟩

/-- After its sign a decimal number starts with a digit or a point. -/
theorem IsSign.signed_mantissa (isSign : IsSign sign negative)
    (isMantissa : IsMantissa mantissa d) :
    Text.signed (sign ++ (mantissa ++ exponent)) = (negative, mantissa ++ exponent) := by
  apply isSign.signed
  obtain ⟨c, more, rfl, start⟩ := isMantissa.exists_head
  rintro _ ⟨⟩
  rcases start with digit | rfl
  · exact ⟨(ne_of_isDigit digit).1, (ne_of_isDigit digit).2.1⟩
  · decide

/-- The digits that a text starts with, among which can be a point. -/
theorem isMantissa_of_digits (text : List Char)
    (some : text.takeWhile Char.isDigit ≠ [] ∨ (fraction (text.dropWhile Char.isDigit)).1 ≠ []) :
    ∃ mantissa, text = mantissa ++ (fraction (text.dropWhile Char.isDigit)).2 ∧
      IsMantissa mantissa
        ⟨Text.numeralValue 10
            (text.takeWhile Char.isDigit ++ (fraction (text.dropWhile Char.isDigit)).1),
          -((fraction (text.dropWhile Char.isDigit)).1.length : Int)⟩ := by
  have split : text = text.takeWhile Char.isDigit ++ text.dropWhile Char.isDigit :=
    List.takeWhile_append_dropWhile.symm
  have taken : ∀ {rest : List Char}, ∀ c ∈ rest.takeWhile Char.isDigit, c.isDigit = true :=
    fun c isTaken => (List.all_eq_true.1 List.all_takeWhile) c isTaken
  have wholeDigits : ∀ c ∈ text.takeWhile Char.isDigit, c.isDigit = true := taken
  generalize text.takeWhile Char.isDigit = whole at *
  generalize text.dropWhile Char.isDigit = rest at *
  subst split
  by_cases point : ∃ after, rest = '.' :: after
  · obtain ⟨after, rfl⟩ := point
    refine ⟨whole ++ '.' :: after.takeWhile Char.isDigit, ?_, .pointed ⟨?_, ?_⟩⟩
    · simp [fraction, List.takeWhile_append_dropWhile]
    · intro none
      obtain ⟨noWhole, noDecimals⟩ := List.append_eq_nil_iff.1 none
      rcases some with some | some
      · exact some noWhole
      · exact some noDecimals
    · exact List.forall_mem_append.2 ⟨wholeDigits, taken⟩
  · have noFraction : fraction rest = ([], rest) := by
      unfold fraction
      split
      · next after => exact absurd ⟨after, rfl⟩ point
      · rfl
    rw [noFraction] at some ⊢
    refine ⟨whole, rfl, ?_⟩
    have nonempty : whole ≠ [] := some.resolve_right fun notNil => notNil rfl
    simpa using IsMantissa.whole ⟨nonempty, wholeDigits⟩

/-- A mantissa before an exponent is read as the digits of the decimal that it denotes. -/
theorem IsMantissa.read (isMantissa : IsMantissa mantissa d)
    (isExponent : IsExponent exponent power) :
    ∃ whole decimals, IsDigits (whole ++ decimals) ∧
      (mantissa ++ exponent).takeWhile Char.isDigit = whole ∧
      fraction ((mantissa ++ exponent).dropWhile Char.isDigit) = (decimals, exponent) ∧
      d = ⟨Text.numeralValue 10 (whole ++ decimals), -(decimals.length : Int)⟩ := by
  have ends : ∀ c ∈ exponent.head?, c.isDigit = false := by
    intro c isHead
    rcases isExponent.head_eq c isHead with rfl | rfl <;> decide
  cases isMantissa with
  | whole isDigits =>
    obtain ⟨taken, left⟩ := span_of_boundary isDigits.digits ends
    have noFraction : fraction exponent = ([], exponent) := by
      unfold fraction
      split
      · next after => exact absurd (isExponent.head_eq '.' rfl) (by decide)
      · rfl
    rw [taken, left]
    exact ⟨mantissa, [], by rwa [List.append_nil], rfl, noFraction, by simp⟩
  | @pointed whole decimals isDigits =>
    obtain ⟨wholeDigits, decimalDigits⟩ := List.forall_mem_append.1 isDigits.digits
    have pointEnds : ∀ c ∈ ('.' :: (decimals ++ exponent)).head?, c.isDigit = false := by
      rintro _ ⟨⟩
      decide
    obtain ⟨taken, left⟩ := span_of_boundary wholeDigits pointEnds
    obtain ⟨takenMore, leftMore⟩ := span_of_boundary decimalDigits ends
    rw [List.append_assoc, List.cons_append, taken, left]
    exact ⟨whole, decimals, isDigits, rfl, by rw [fraction, takenMore, leftMore], rfl⟩

/-- What is read of a text whose parts are known. -/
theorem decimal?_of_parts {unsigned whole decimals rest : List Char}
    (signed : Text.signed text = (negative, unsigned))
    (taken : unsigned.takeWhile Char.isDigit = whole)
    (left : fraction (unsigned.dropWhile Char.isDigit) = (decimals, rest)) :
    decimal? text =
      if whole = [] ∧ decimals = [] then none
      else (exponent? rest).map fun power =>
        (negative, ⟨Text.numeralValue 10 (whole ++ decimals), power - decimals.length⟩) := by
  unfold decimal?
  rw [signed]
  dsimp only
  rw [left, taken]
  dsimp only
  split
  · rfl
  · cases exponent? rest <;> rfl

/-- A decimal number is read as its sign and the decimal that it denotes. -/
theorem decimal?_eq_some_iff :
    decimal? text = some (negative, d) ↔ SpellsDecimal text negative d := by
  constructor
  · intro read
    obtain ⟨sign, isSign, split⟩ := isSign_signed text
    generalize signed : Text.signed text = parts at isSign split
    obtain ⟨negative, unsigned⟩ := parts
    have digits := isMantissa_of_digits unsigned
    generalize taken : unsigned.takeWhile Char.isDigit = whole at digits
    generalize left : fraction (unsigned.dropWhile Char.isDigit) = ending at digits
    obtain ⟨decimals, rest⟩ := ending
    rw [decimal?_of_parts signed taken left] at read
    by_cases none : whole = [] ∧ decimals = []
    · rw [if_pos none] at read
      cases read
    · rw [if_neg none] at read
      obtain ⟨power, isPower, same⟩ := Option.map_eq_some_iff.1 read
      cases same
      obtain ⟨mantissa, rfl, isMantissa⟩ := digits (Classical.not_and_iff_not_or_not.1 none)
      rw [split]
      exact .parts isSign isMantissa (exponent?_eq_some_iff.1 isPower)
  · rintro ⟨isSign, isMantissa, isExponent⟩
    next sign mantissa exponent d power =>
    obtain ⟨whole, decimals, isDigits, taken, left, rfl⟩ := isMantissa.read isExponent
    have some : ¬(whole = [] ∧ decimals = []) := fun none =>
      isDigits.nonempty (List.append_eq_nil_iff.2 none)
    rw [decimal?_of_parts (isSign.signed_mantissa isMantissa) taken left, if_neg some,
      exponent?_eq_some_iff.2 isExponent]
    rfl

end Reading

section Numbers

variable {text sign mantissa exponent : List Char} {negative : Bool} {d : Decimal} {power : Int}

/-- Digits can stand in a decimal number. -/
theorem IsDigits.isNumericChar (isDigits : IsDigits text) :
    ∀ c ∈ text, isNumericChar c = true := fun c isIn =>
  Bool.or_eq_true_iff.2 (.inl (isDigits.digits c isIn))

/-- Signs can stand in a decimal number. -/
theorem IsSign.isNumericChar (isSign : IsSign sign negative) :
    ∀ c ∈ sign, isNumericChar c = true := by
  cases isSign with
  | none => simp
  | plus => exact List.forall_mem_singleton.2 (by decide)
  | minus => exact List.forall_mem_singleton.2 (by decide)

/-- The characters of a mantissa can stand in a decimal number. -/
theorem IsMantissa.isNumericChar (isMantissa : IsMantissa mantissa d) :
    ∀ c ∈ mantissa, isNumericChar c = true := by
  cases isMantissa with
  | whole isDigits => exact isDigits.isNumericChar
  | pointed isDigits =>
    obtain ⟨whole, decimals⟩ := List.forall_mem_append.1 isDigits.isNumericChar
    exact List.forall_mem_append.2 ⟨whole, List.forall_mem_cons.2 ⟨by decide, decimals⟩⟩

/-- The characters of an exponent can stand in a decimal number. -/
theorem IsExponent.isNumericChar (isExponent : IsExponent exponent power) :
    ∀ c ∈ exponent, isNumericChar c = true := by
  cases isExponent with
  | none => simp
  | power isLetter isSign isDigits =>
    have rest := List.forall_mem_append.2 ⟨isSign.isNumericChar, isDigits.isNumericChar⟩
    rcases isLetter with rfl | rfl
    · exact List.forall_mem_cons.2 ⟨by decide, rest⟩
    · exact List.forall_mem_cons.2 ⟨by decide, rest⟩

/-- A decimal number has the characters that are checked for. -/
theorem SpellsDecimal.looksNumeric (spells : SpellsDecimal text negative d) :
    looksNumeric text = true := by
  obtain ⟨isSign, isMantissa, isExponent⟩ := spells
  unfold Filter.looksNumeric
  rw [isSign.signed_mantissa isMantissa]
  dsimp only
  rw [Bool.and_eq_true, List.all_eq_true]
  refine ⟨?_, List.forall_mem_append.2 ⟨isMantissa.isNumericChar, isExponent.isNumericChar⟩⟩
  obtain ⟨c, more, rfl, start⟩ := isMantissa.exists_head
  simpa using start

/-- A name denotes no finite number. -/
theorem namedFloat?_ne_finite (negative : Bool) (name : String) (value : Double) :
    namedFloat? negative name ≠ some (.finite value) := by
  unfold namedFloat?
  split
  · simp
  · split <;> simp

/-- A word denotes the number that is nearest to the decimal that it spells, if that is in range:
neither the check of its characters nor the names of numbers change that. -/
theorem number?_eq (word : String) :
    number? word = (decimal? word.toList).bind fun (negative, d) => d.nearest? negative := by
  unfold number? float?
  cases read : decimal? word.toList with
  | none =>
    dsimp only [Option.bind_none]
    split
    · split
      · next value isFinite => exact absurd isFinite (namedFloat?_ne_finite _ _ value)
      · rfl
    · rfl
  | some parts =>
    obtain ⟨negative, d⟩ := parts
    rw [if_pos (decimal?_eq_some_iff.1 read).looksNumeric]
    dsimp only [Option.bind_some]
    unfold FloatValue.ofDecimal
    cases d.nearest? negative <;> rfl

end Numbers

end RecordSearch.Filter
