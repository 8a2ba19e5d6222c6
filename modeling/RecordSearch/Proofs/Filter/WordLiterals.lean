import Mathlib.Computability.RegularExpressions
import Mathlib.Tactic.IntervalCases
import RecordSearch.Proofs.Filter.Numerals
import RecordSearch.Proofs.Filter.Reading
import RecordSearch.Proofs.Number.Rounding

/-!
# What bare words denote

Every word that is no keyword denotes a literal: the nearest number if it spells a decimal number in
range, a truth value or null by its name in any letter case, and else itself as a string.
-/

namespace RecordSearch.Filter

section Expressions

open RegularExpression

/-- Any one of some characters. -/
def oneOf (chars : List Char) : RegularExpression Char :=
  chars.foldr (fun c others => char c + others) 0

/-- The expression or nothing. -/
def optional (e : RegularExpression Char) : RegularExpression Char := 1 + e

/-- The expression once or more often. -/
def repeated (e : RegularExpression Char) : RegularExpression Char := e * e.star

/-- A decimal digit. -/
def digit : RegularExpression Char :=
  oneOf ['0', '1', '2', '3', '4', '5', '6', '7', '8', '9']

/-- A sign or none. -/
def signExpression : RegularExpression Char := optional (oneOf ['+', '-'])

/-- Digits with an optional point among or after them, or after a point. -/
def mantissaExpression : RegularExpression Char :=
  repeated digit * optional (char '.' * digit.star) + char '.' * repeated digit

/-- A power of ten or none. -/
def exponentExpression : RegularExpression Char :=
  optional (oneOf ['e', 'E'] * (signExpression * repeated digit))

/-- The decimal numbers: `[+-]?([0-9]+(\.[0-9]*)?|\.[0-9]+)([eE][+-]?[0-9]+)?`. -/
def decimalExpression : RegularExpression Char :=
  signExpression * (mantissaExpression * exponentExpression)

variable {text : List Char} {chars : List Char} {e left right : RegularExpression Char}

/-- A choice matches its characters. -/
theorem mem_oneOf : text ∈ (oneOf chars).matches' ↔ ∃ c ∈ chars, text = [c] := by
  induction chars with
  | nil =>
    simp only [List.not_mem_nil, false_and, exists_false, iff_false]
    exact Language.notMem_zero text
  | cons c chars ih =>
    have split : oneOf (c :: chars) = char c + oneOf chars := rfl
    rw [split, matches'_add, Language.mem_add, ih, List.exists_mem_cons_iff]
    rfl

/-- An option matches nothing besides. -/
theorem mem_optional : text ∈ (optional e).matches' ↔ text = [] ∨ text ∈ e.matches' := by
  rw [optional, matches'_add, Language.mem_add, matches'_epsilon, Language.mem_one]

/-- One expression after another matches what both match in parts. -/
theorem mem_mul : text ∈ (left * right).matches' ↔
    ∃ before ∈ left.matches', ∃ after ∈ right.matches', before ++ after = text := by
  rw [matches'_mul, Language.mem_mul]

/-- The digits are the characters from `0` to `9`. -/
theorem isDigit_iff {c : Char} :
    c.isDigit = true ↔ c ∈ ['0', '1', '2', '3', '4', '5', '6', '7', '8', '9'] := by
  constructor
  · intro isDigit
    have code : c.toNat = c.val.toNat := rfl
    have zero : '0'.val.toNat = 48 := rfl
    have nine : '9'.val.toNat = 57 := rfl
    simp only [Char.isDigit, Bool.and_eq_true, decide_eq_true_eq, ge_iff_le,
      UInt32.le_iff_toNat_le, zero, nine, ← code] at isDigit
    obtain ⟨least, most⟩ := isDigit
    rw [← Char.ofNat_toNat c]
    interval_cases c.toNat <;> decide
  · intro isIn
    exact List.all_eq_true.1 (by decide) c isIn

/-- Digits match any number of digits. -/
theorem mem_star_digit : text ∈ digit.star.matches' ↔ ∀ c ∈ text, c.isDigit = true := by
  rw [matches'_star, Language.mem_kstar]
  constructor
  · rintro ⟨pieces, rfl, all⟩ c isIn
    obtain ⟨piece, isPiece, inPiece⟩ := List.mem_flatten.1 isIn
    obtain ⟨d, isDigit, rfl⟩ := mem_oneOf.1 (all piece isPiece)
    rw [List.mem_singleton.1 inPiece]
    exact isDigit_iff.2 isDigit
  · intro all
    refine ⟨text.map fun c => [c], ?_, ?_⟩
    · rw [← List.flatMap_def, List.flatMap_singleton']
    · intro piece isPiece
      obtain ⟨c, isIn, rfl⟩ := List.mem_map.1 isPiece
      exact mem_oneOf.2 ⟨c, isDigit_iff.1 (all c isIn), rfl⟩

/-- Repeated digits match at least one. -/
theorem mem_repeated_digit : text ∈ (repeated digit).matches' ↔ IsDigits text := by
  rw [repeated, mem_mul]
  constructor
  · rintro ⟨first, isFirst, more, isMore, rfl⟩
    obtain ⟨c, isDigit, rfl⟩ := mem_oneOf.1 isFirst
    refine ⟨List.cons_ne_nil c more, List.forall_mem_cons.2 ⟨isDigit_iff.2 isDigit, ?_⟩⟩
    exact mem_star_digit.1 isMore
  · rintro ⟨nonempty, digits⟩
    obtain ⟨c, more, rfl⟩ := List.exists_cons_of_ne_nil nonempty
    obtain ⟨first, later⟩ := List.forall_mem_cons.1 digits
    exact ⟨[c], mem_oneOf.2 ⟨c, isDigit_iff.1 first, rfl⟩, more, mem_star_digit.2 later, rfl⟩

/-- The signs are matched. -/
theorem mem_signExpression : text ∈ signExpression.matches' ↔ ∃ negative, IsSign text negative := by
  rw [signExpression, mem_optional, mem_oneOf]
  constructor
  · rintro (rfl | ⟨c, isSign, rfl⟩)
    · exact ⟨false, .none⟩
    · rw [List.mem_pair] at isSign
      rcases isSign with rfl | rfl
      · exact ⟨false, .plus⟩
      · exact ⟨true, .minus⟩
  · rintro ⟨negative, isSign⟩
    cases isSign with
    | none => exact .inl rfl
    | plus => exact .inr ⟨'+', by decide, rfl⟩
    | minus => exact .inr ⟨'-', by decide, rfl⟩

/-- The mantissas are matched. -/
theorem mem_mantissaExpression :
    text ∈ mantissaExpression.matches' ↔ ∃ d, IsMantissa text d := by
  rw [mantissaExpression, matches'_add, Language.mem_add, mem_mul, mem_mul]
  constructor
  · rintro (⟨whole, isWhole, rest, isRest, rfl⟩ | ⟨point, isPoint, decimals, isDecimals, rfl⟩)
    · have digits := mem_repeated_digit.1 isWhole
      rcases mem_optional.1 isRest with rfl | pointed
      · rw [List.append_nil]
        exact ⟨_, .whole digits⟩
      · obtain ⟨point, isPoint, decimals, isDecimals, rfl⟩ := mem_mul.1 pointed
        cases isPoint
        refine ⟨_, .pointed ⟨List.append_ne_nil_of_left_ne_nil digits.nonempty _, ?_⟩⟩
        exact List.forall_mem_append.2 ⟨digits.digits, mem_star_digit.1 isDecimals⟩
    · cases isPoint
      exact ⟨_, @IsMantissa.pointed [] _ (mem_repeated_digit.1 isDecimals)⟩
  · rintro ⟨d, isMantissa⟩
    cases isMantissa with
    | whole digits =>
      exact .inl ⟨text, mem_repeated_digit.2 digits, [], mem_optional.2 (.inl rfl),
        List.append_nil _⟩
    | @pointed whole decimals digits =>
      by_cases none : whole = []
      · rw [none] at digits ⊢
        exact .inr ⟨['.'], rfl, decimals, mem_repeated_digit.2 digits, rfl⟩
      · obtain ⟨wholeDigits, decimalDigits⟩ := List.forall_mem_append.1 digits.digits
        have pointed : '.' :: decimals ∈ (char '.' * digit.star).matches' :=
          mem_mul.2 ⟨['.'], rfl, decimals, mem_star_digit.2 decimalDigits, rfl⟩
        exact .inl ⟨whole, mem_repeated_digit.2 ⟨none, wholeDigits⟩, '.' :: decimals,
          mem_optional.2 (.inr pointed), rfl⟩

/-- The exponents are matched. -/
theorem mem_exponentExpression :
    text ∈ exponentExpression.matches' ↔ ∃ power, IsExponent text power := by
  rw [exponentExpression, mem_optional, mem_mul]
  constructor
  · rintro (rfl | ⟨letter, isLetter, rest, isRest, rfl⟩)
    · exact ⟨0, .none⟩
    · obtain ⟨c, isChar, rfl⟩ := mem_oneOf.1 isLetter
      obtain ⟨sign, isSign, digits, isDigits, rfl⟩ := mem_mul.1 isRest
      obtain ⟨negative, isSign⟩ := mem_signExpression.1 isSign
      have digits := mem_repeated_digit.1 isDigits
      have power := IsExponent.power (List.mem_pair.1 isChar) isSign digits
      exact ⟨_, power⟩
  · rintro ⟨power, isExponent⟩
    cases isExponent with
    | none => exact .inl rfl
    | @power letter isLetter sign digits negative isSign isDigits =>
      have rest := mem_mul.2
        ⟨sign, mem_signExpression.2 ⟨_, isSign⟩, digits, mem_repeated_digit.2 isDigits, rfl⟩
      exact .inr ⟨[letter], mem_oneOf.2 ⟨letter, List.mem_pair.2 isLetter, rfl⟩, _, rest, rfl⟩

/-- The decimal numbers are matched. -/
theorem mem_decimalExpression :
    text ∈ decimalExpression.matches' ↔ ∃ negative d, SpellsDecimal text negative d := by
  rw [decimalExpression, mem_mul]
  constructor
  · rintro ⟨sign, isSign, rest, isRest, rfl⟩
    obtain ⟨mantissa, isMantissa, exponent, isExponent, rfl⟩ := mem_mul.1 isRest
    obtain ⟨negative, isSign⟩ := mem_signExpression.1 isSign
    obtain ⟨d, isMantissa⟩ := mem_mantissaExpression.1 isMantissa
    obtain ⟨power, isExponent⟩ := mem_exponentExpression.1 isExponent
    exact ⟨_, _, .parts isSign isMantissa isExponent⟩
  · rintro ⟨_, _, isSign, isMantissa, isExponent⟩
    have rest := mem_mul.2 ⟨_, mem_mantissaExpression.2 ⟨_, isMantissa⟩, _,
      mem_exponentExpression.2 ⟨_, isExponent⟩, rfl⟩
    exact ⟨_, mem_signExpression.2 ⟨_, isSign⟩, _, rest, rfl⟩

end Expressions

section Literals

variable {word name : String} {negative : Bool} {d : Decimal} {value : Double}

/-- The word spells a decimal number that is in the range of doubles. -/
def SpellsFinite (word : String) : Prop :=
  word.toList ∈ decimalExpression.matches' ∧
    ∃ negative d, SpellsDecimal word.toList negative d ∧ d.value < 2 ^ 1024 - 2 ^ 970

/-- The names of truth values and of null. -/
def namedLiterals : List (String × Literal) :=
  [("true", .bool true), ("false", .bool false), ("null", .null)]

/-- The literal is what the word denotes: the nearest number if the word spells a decimal number in
range, a truth value or null if it is a name of one in any letter case, and else the word itself as
a string. The names of infinity and of what is not a number are words like others. -/
structure Denotes (word : String) (literal : Literal) : Prop where
  number : (∃ value, literal = .number value) ↔ SpellsFinite word
  nearest : ∀ value, literal = .number value →
    ∃ d, SpellsDecimal word.toList value.negative d ∧ value.IsNearest d.value
  named : ∀ named ∈ namedLiterals, literal = named.2 ↔ Text.sameLetters word named.1 = true
  string : ∀ text, literal = .string text ↔ text = word ∧ ¬SpellsFinite word ∧
    ∀ named ∈ namedLiterals, Text.sameLetters word named.1 = false
  infinity : ∀ sign ∈ ["", "+", "-"], ∀ name ∈ ["inf", "infinity", "nan"],
    Text.sameLetters word (sign ++ name) = true → literal = .string word

/-- A word spells at most one decimal number. -/
theorem SpellsDecimal.unique {text : List Char} {other : Bool} {e : Decimal}
    (first : SpellsDecimal text negative d) (second : SpellsDecimal text other e) :
    negative = other ∧ d = e := by
  have same := (decimal?_eq_some_iff.2 first).symm.trans (decimal?_eq_some_iff.2 second)
  cases same
  exact ⟨rfl, rfl⟩

/-- A word is read as a number if it spells a decimal number in range. -/
theorem isSome_number?_iff : (number? word).isSome = true ↔ SpellsFinite word := by
  rw [number?_eq]
  constructor
  · intro read
    cases spelled : decimal? word.toList with
    | none =>
      rw [spelled] at read
      cases read
    | some parts =>
      obtain ⟨negative, d⟩ := parts
      rw [spelled, Option.bind_some] at read
      have spells := decimal?_eq_some_iff.1 spelled
      exact ⟨mem_decimalExpression.2 ⟨_, _, spells⟩, negative, d, spells,
        Decimal.isSome_nearest?_iff.1 read⟩
  · rintro ⟨-, negative, d, spells, inRange⟩
    rw [decimal?_eq_some_iff.2 spells, Option.bind_some]
    exact Decimal.isSome_nearest?_iff.2 inRange

/-- The number that a word is read as is nearest to the decimal that the word spells. -/
theorem isNearest_of_number? (read : number? word = some value) :
    ∃ d, SpellsDecimal word.toList value.negative d ∧ value.IsNearest d.value := by
  rw [number?_eq] at read
  obtain ⟨⟨negative, d⟩, spelled, nearest⟩ := Option.bind_eq_some_iff.1 read
  obtain ⟨rfl, isNearest⟩ := Decimal.isNearest_of_nearest? nearest
  exact ⟨d, decimal?_eq_some_iff.1 spelled, isNearest⟩

/-- The letter case of decimal numbers does not matter for what can stand in them. -/
theorem isNumericChar_toLower {c : Char} (isNumeric : isNumericChar c = true) :
    isNumericChar c.toLower = true := by
  rcases Bool.or_eq_true_iff.1 isNumeric with isDigit | isOther
  · rw [toLower_of_isDigit isDigit]
    exact isNumeric
  · exact List.all_eq_true.1 (by decide : ['.', 'e', 'E', '-', '+'].all
      fun c => isNumericChar c.toLower) c (List.contains_iff_mem.1 isOther)

/-- A decimal number has the characters of one. -/
theorem SpellsDecimal.isNumericChar {text : List Char} (spells : SpellsDecimal text negative d) :
    ∀ c ∈ text, isNumericChar c = true := by
  obtain ⟨isSign, isMantissa, isExponent⟩ := spells
  exact List.forall_mem_append.2 ⟨isSign.isNumericChar,
    List.forall_mem_append.2 ⟨isMantissa.isNumericChar, isExponent.isNumericChar⟩⟩

/-- A name with a letter that stands in no decimal number is not read as one. -/
theorem number?_of_sameLetters (same : Text.sameLetters word name = true)
    (notNumeric : (Text.lowerCase name).all isNumericChar = false) : number? word = none := by
  cases spelled : decimal? word.toList with
  | none => rw [number?_eq, spelled, Option.bind_none]
  | some parts =>
    have isNumeric := (decimal?_eq_some_iff.1 spelled).isNumericChar
    have lowered : (Text.lowerCase word).all isNumericChar = true := by
      rw [Text.lowerCase, List.all_map, List.all_eq_true]
      exact fun c isIn => isNumericChar_toLower (isNumeric c isIn)
    rw [Text.sameLetters_iff.1 same, notNumeric] at lowered
    cases lowered

/-- A named literal has its own name only, is no number, and has a letter in its name that stands in
no decimal number. -/
theorem namedLiterals_apart : ∀ named ∈ namedLiterals,
    (∀ other ∈ namedLiterals, Text.lowerCase named.1 = Text.lowerCase other.1 ∨
      named.2 = other.2 → named = other) ∧
    (Text.lowerCase named.1).all isNumericChar = false := by
  decide

/-- What a word denotes, in the order in which it is tried. -/
theorem wordLiteral_cases (word : String) :
    (∃ value, number? word = some value ∧ wordLiteral word = .number value) ∨
    number? word = none ∧
      ((∃ named ∈ namedLiterals,
          Text.sameLetters word named.1 = true ∧ wordLiteral word = named.2) ∨
        (∀ named ∈ namedLiterals, Text.sameLetters word named.1 = false) ∧
          wordLiteral word = .string word) := by
  unfold wordLiteral namedLiterals
  cases number? word with
  | some value => exact .inl ⟨value, rfl, rfl⟩
  | none =>
    refine .inr ⟨rfl, ?_⟩
    cases isTrue : Text.sameLetters word "true" with
    | true => exact .inl ⟨("true", .bool true), by simp, isTrue, rfl⟩
    | false =>
      cases isFalse : Text.sameLetters word "false" with
      | true => exact .inl ⟨("false", .bool false), by simp, isFalse, rfl⟩
      | false =>
        cases isNull : Text.sameLetters word "null" with
        | true => exact .inl ⟨("null", .null), by simp, isNull, rfl⟩
        | false => exact .inr ⟨by simp [isTrue, isFalse, isNull], rfl⟩

/-- A named literal is neither a number nor a string. -/
theorem ne_of_mem_namedLiterals {named : String × Literal} (isNamed : named ∈ namedLiterals) :
    (∀ value, named.2 ≠ .number value) ∧ ∀ text, named.2 ≠ .string text := by
  simp only [namedLiterals, List.mem_cons, List.not_mem_nil, or_false] at isNamed
  rcases isNamed with rfl | rfl | rfl <;> exact ⟨nofun, nofun⟩

/-- A word denotes the number that it is read as. -/
theorem wordLiteral_eq_number_iff :
    wordLiteral word = .number value ↔ number? word = some value := by
  constructor
  · intro literal
    rcases wordLiteral_cases word with ⟨_, read, isNumber⟩ |
      ⟨-, ⟨named, isNamed, -, isOther⟩ | ⟨-, isString⟩⟩
    · cases isNumber.symm.trans literal
      exact read
    · exact absurd (isOther.symm.trans literal) ((ne_of_mem_namedLiterals isNamed).1 value)
    · cases isString.symm.trans literal
  · intro read
    rw [wordLiteral, read]

/-- A word denotes a named literal if it has the letters of its name. -/
theorem wordLiteral_eq_named_iff {named : String × Literal} (isNamed : named ∈ namedLiterals) :
    wordLiteral word = named.2 ↔ Text.sameLetters word named.1 = true := by
  obtain ⟨apart, notNumeric⟩ := namedLiterals_apart named isNamed
  constructor
  · intro literal
    rcases wordLiteral_cases word with ⟨value, -, isNumber⟩ |
      ⟨-, ⟨other, isOther, same, denoted⟩ | ⟨-, isString⟩⟩
    · exact absurd (literal.symm.trans isNumber) ((ne_of_mem_namedLiterals isNamed).1 value)
    · rw [apart other isOther (.inr (literal.symm.trans denoted))]
      exact same
    · exact absurd (literal.symm.trans isString) ((ne_of_mem_namedLiterals isNamed).2 word)
  · intro same
    rcases wordLiteral_cases word with ⟨value, read, -⟩ |
      ⟨-, ⟨other, isOther, sameOther, denoted⟩ | ⟨unnamed, -⟩⟩
    · rw [number?_of_sameLetters same notNumeric] at read
      cases read
    · have letters := (Text.sameLetters_iff.1 same).symm.trans (Text.sameLetters_iff.1 sameOther)
      rw [denoted, apart other isOther (.inl letters)]
    · rw [unnamed named isNamed] at same
      cases same

/-- Any other word denotes itself as a string. -/
theorem wordLiteral_eq_string_iff {text : String} :
    wordLiteral word = .string text ↔ text = word ∧ number? word = none ∧
      ∀ named ∈ namedLiterals, Text.sameLetters word named.1 = false := by
  constructor
  · intro literal
    rcases wordLiteral_cases word with ⟨_, -, isNumber⟩ |
      ⟨none, ⟨named, isNamed, -, isOther⟩ | ⟨unnamed, isString⟩⟩
    · cases isNumber.symm.trans literal
    · exact absurd (isOther.symm.trans literal) ((ne_of_mem_namedLiterals isNamed).2 text)
    · cases isString.symm.trans literal
      exact ⟨rfl, none, unnamed⟩
  · rintro ⟨rfl, none, unnamed⟩
    rcases wordLiteral_cases text with ⟨_, read, -⟩ |
      ⟨-, ⟨named, isNamed, same, -⟩ | ⟨-, isString⟩⟩
    · cases none.symm.trans read
    · rw [unnamed named isNamed] at same
      cases same
    · exact isString

/-- A signed name of infinity or of what is not a number has a letter that stands in no decimal
number, and it is not the name of a literal. -/
theorem infinity_apart : ∀ sign ∈ ["", "+", "-"], ∀ name ∈ ["inf", "infinity", "nan"],
    (Text.lowerCase (sign ++ name)).all isNumericChar = false ∧
      ∀ named ∈ namedLiterals, Text.lowerCase (sign ++ name) ≠ Text.lowerCase named.1 := by
  decide

/-- Every word denotes its literal. -/
theorem denotes_wordLiteral (word : String) : Denotes word (wordLiteral word) where
  number := by
    rw [← isSome_number?_iff, Option.isSome_iff_exists]
    exact exists_congr fun _ => wordLiteral_eq_number_iff
  nearest := fun _ isNumber => isNearest_of_number? (wordLiteral_eq_number_iff.1 isNumber)
  named := fun _ isNamed => wordLiteral_eq_named_iff isNamed
  string := fun _ => by
    rw [wordLiteral_eq_string_iff, ← isSome_number?_iff, Option.not_isSome_iff_eq_none]
  infinity := by
    intro sign isSign name isName same
    obtain ⟨notNumeric, apart⟩ := infinity_apart sign isSign name isName
    refine wordLiteral_eq_string_iff.2
      ⟨rfl, number?_of_sameLetters same notNumeric, fun named isNamed => ?_⟩
    rw [← Bool.not_eq_true, Text.sameLetters_iff, Text.sameLetters_iff.1 same]
    exact apart named isNamed

/-- The literal of a comparison is any word that is no keyword, and it is what the word denotes. -/
theorem readComparison_word (notKeyword : ∀ keyword : Keyword, ¬keyword.Spells word)
    {first second : Token} {field : String} {operator : Operator}
    (isField : first.field? = some field) (isOperator : second.operator? = some operator)
    (position : Nat) (rest : List Token) :
    ∃ literal, readComparison (first :: second :: ⟨.word word, position⟩ :: rest) =
        .ok (.comparison ⟨field, operator, literal⟩, rest) ∧ Denotes word literal := by
  have isLiteral : Token.literal? ⟨.word word, position⟩ = some (wordLiteral word) :=
    if_pos (keyword?_eq_none_iff.2 notKeyword)
  refine ⟨wordLiteral word, ?_, denotes_wordLiteral word⟩
  exact readComparison_eq_ok_iff.2
    ⟨first, second, _, field, operator, _, rfl, isField, isOperator, isLiteral, rfl⟩

/-- A word without digits before its point denotes the number nearest to its value, and the name of
what is not a number denotes itself. -/
theorem readComparison_word_five :
    (∃ value : Double, readComparison
          [⟨.word "x", 0⟩, ⟨.word "eq", 2⟩, ⟨.word "-.5e1", 5⟩] =
        .ok (.comparison ⟨"x", .eq, .number value⟩, []) ∧
      value.negative = true ∧ value.IsNearest (Decimal.value ⟨5, 0⟩)) ∧
    readComparison [⟨.word "x", 0⟩, ⟨.word "eq", 2⟩, ⟨.word "NaN", 5⟩] =
      .ok (.comparison ⟨"x", .eq, .string "NaN"⟩, []) := by
  have spells : SpellsDecimal "-.5e1".toList true ⟨5, 0⟩ := decimal?_eq_some_iff.1 (by decide)
  have inRange : Decimal.value ⟨5, 0⟩ < 2 ^ 1024 - 2 ^ 970 :=
    Decimal.isSome_nearest?_iff.1 (by decide +kernel : (Decimal.nearest? true ⟨5, 0⟩).isSome = true)
  constructor
  · have notKeyword : ∀ keyword : Keyword, ¬keyword.Spells "-.5e1" :=
      keyword?_eq_none_iff.1 (by decide)
    obtain ⟨literal, read, denotes⟩ :=
      @readComparison_word "-.5e1" notKeyword ⟨.word "x", 0⟩ ⟨.word "eq", 2⟩ "x" .eq (by decide)
        (by decide) 5 []
    have finite : SpellsFinite "-.5e1" :=
      ⟨mem_decimalExpression.2 ⟨_, _, spells⟩, _, _, spells, inRange⟩
    obtain ⟨value, rfl⟩ := denotes.number.2 finite
    obtain ⟨d, spelled, nearest⟩ := denotes.nearest value rfl
    obtain ⟨sign, rfl⟩ := spelled.unique spells
    exact ⟨value, read, sign, nearest⟩
  · have notKeyword : ∀ keyword : Keyword, ¬keyword.Spells "NaN" :=
      keyword?_eq_none_iff.1 (by decide)
    obtain ⟨literal, read, denotes⟩ :=
      @readComparison_word "NaN" notKeyword ⟨.word "x", 0⟩ ⟨.word "eq", 2⟩ "x" .eq (by decide)
        (by decide) 5 []
    rw [read, denotes.infinity "" (by decide) "nan" (by decide) (by decide)]

end Literals

end RecordSearch.Filter
