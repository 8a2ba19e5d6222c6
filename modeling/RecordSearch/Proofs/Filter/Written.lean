import RecordSearch.Proofs.Filter.Numerals

/-!
# The lexemes of a filter's text

`Filter.written` lists the lexemes that stand in the text of a filter, and `lexes_chars` says that
the text is cut into them. The trees for which this holds, and for which the text can be read back
at all, are the well-formed ones; `wellFormed_of_joined` says that every tree of the grammar is one.
-/

namespace RecordSearch

/-- The lexeme of a literal. -/
def Literal.lexeme : Literal → Filter.Lexeme
  | number value => .word (String.ofList (value.chars numeralStyle))
  | string value => .quoted value
  | bool true => .word "true"
  | bool false => .word "false"
  | null => .word "null"

namespace Filter

/-- The lexeme of a literal denotes it. -/
theorem isLiteral_lexeme (literal : Literal) : IsLiteral literal.lexeme literal := by
  cases literal with
  | number value =>
    obtain ⟨c, more, starts, numeric⟩ := exists_head_of_number value
    have plain : ∀ keyword : Keyword,
        ¬keyword.Spells (String.ofList (value.chars Literal.numeralStyle)) := fun _ =>
      not_spells_of_head (by rw [String.toList_ofList, starts]) numeric
    have denoted : wordLiteral (String.ofList (value.chars Literal.numeralStyle)) =
        .number value := by
      unfold wordLiteral
      rw [number?_chars]
    have literal := IsLiteral.word plain
    rwa [denoted] at literal
  | string value => exact .quoted
  | bool value =>
    cases value with
    | true => exact .word (keyword?_eq_none_iff.1 (show keyword? "true" = none by decide))
    | false => exact .word (keyword?_eq_none_iff.1 (show keyword? "false" = none by decide))
  | null => exact .word (keyword?_eq_none_iff.1 (show keyword? "null" = none by decide))

/-- The lexemes of an operand: in parentheses if its node joins others. -/
def enclosedLexemes (operand : Filter) (written : List Lexeme) : List Lexeme :=
  match operand with
  | .and _ | .or _ => .opening :: written ++ [.closing]
  | _ => written

mutual

/-- The lexemes of the text of a filter. -/
def written : Filter → List Lexeme
  | .comparison c => [.word c.field, .word c.operator.word, c.literal.lexeme]
  | .and children => joinedLexemes .and children
  | .or children => joinedLexemes .or children
  | .not operand => .word Keyword.not.word :: enclosedLexemes operand operand.written

/-- The lexemes of operands with a connective between them. -/
def joinedLexemes (connective : Connective) : List Filter → List Lexeme
  | [] => []
  | child :: more => enclosedLexemes child child.written ++ laterLexemes connective more

/-- The lexemes of each of the later operands after a connective. -/
def laterLexemes (connective : Connective) : List Filter → List Lexeme
  | [] => []
  | child :: more =>
    .word (connectiveKeyword connective).word :: enclosedLexemes child child.written ++
      laterLexemes connective more

end

/-- Every field of the filter can be named, and every node that joins has operands to join. -/
inductive WellFormed : Filter → Prop where
  | comparison {c : Comparison} (field : IsField c.field) : WellFormed (.comparison c)
  | and {children : List Filter} (several : 2 ≤ children.length)
    (all : ∀ child ∈ children, WellFormed child) : WellFormed (.and children)
  | or {children : List Filter} (several : 2 ≤ children.length)
    (all : ∀ child ∈ children, WellFormed child) : WellFormed (.or children)
  | not {operand : Filter} (inner : WellFormed operand) : WellFormed (.not operand)

section Derived

/-- A node of a connective is well-formed when it has several well-formed children. -/
theorem wellFormed_node (connective : Connective) {children : List Filter}
    (several : 2 ≤ children.length) (all : ∀ child ∈ children, WellFormed child) :
    WellFormed (connective.node children) := by
  cases connective with
  | and => exact .and several all
  | or => exact .or several all

/-- Operands that are well-formed group to a well-formed filter. -/
theorem wellFormed_grouped {first : Filter} {later : List (Connective × Filter)}
    (start : WellFormed first) (all : ∀ next ∈ later, WellFormed next.2) :
    WellFormed (grouped first later) := by
  fun_induction grouped first later with
  | case1 => exact start
  | case2 first connective operand more ih =>
    apply ih
    · apply wellFormed_node connective (by simp)
      intro child isChild
      rcases List.mem_cons.1 isChild with rfl | isLater
      · exact start
      rcases List.mem_cons.1 isLater with rfl | inRun
      · exact all _ List.mem_cons_self
      obtain ⟨next, isNext, rfl⟩ := List.mem_map.1 inRun
      exact all next (List.mem_cons_of_mem _ ((List.takeWhile_sublist _).mem isNext))
    · intro next isNext
      exact all next (List.mem_cons_of_mem _ ((List.dropWhile_sublist _).mem isNext))

/-- A filter of the grammar is well-formed. The induction on its derivation also goes through unary
filters, which are well-formed, and through operands, which all are. -/
theorem wellFormed_of_joined {level : Nat} {lexemes : List Lexeme} {f : Filter}
    (derived : Joined level lexemes f) : WellFormed f := by
  refine @Joined.rec (fun _ _ f _ => WellFormed f) (fun _ _ f _ => WellFormed f)
    (fun _ _ _ later _ => ∀ next ∈ later, WellFormed next.2)
    ?negation ?group ?comparison ?operands ?none ?next level lexemes f derived
  case negation =>
    intro _ _ _ _ _ _ _ inner
    exact .not inner
  case group =>
    intro _ _ _ _ _ inner
    exact inner
  case comparison =>
    intro _ _ _ _ _ _ _ field _ _
    exact .comparison field
  case operands =>
    intro _ _ _ _ _ _ _ first all
    exact wellFormed_grouped first all
  case none =>
    intro _ _ next isNext
    cases isNext
  case next =>
    intro _ _ _ _ _ _ _ _ _ _ _ _ first all next isNext
    rcases List.mem_cons.1 isNext with rfl | isLater
    · exact first
    · exact all next isLater

/-- What a text parses to is well-formed, unless the text has no tokens. -/
theorem wellFormed_of_parse {text : String} {f : Filter} (parsed : parse text = .ok f) :
    f = always ∨ WellFormed f := by
  obtain ⟨tokens, -, formed⟩ := parse_eq_ok_iff.1 parsed
  rcases ofTokens_eq_ok_iff.1 formed with ⟨-, same⟩ | derived
  · exact .inl same
  · exact .inr (wellFormed_of_joined derived)

end Derived

section WordChars

/-- A visible ASCII character is no blank. -/
theorem isBlank_of_visible {c : Char} (least : 33 ≤ c.toNat) (most : c.toNat ≤ 126) :
    Text.isBlank c = false := by
  simp [Text.isBlank, Text.inRanges, Text.blankRanges]
  omega

/-- Letters and digits are visible ASCII characters. -/
theorem visible_of_isAlphanum {c : Char} (alphanum : c.isAlphanum = true) :
    33 ≤ c.toNat ∧ c.toNat ≤ 126 := by
  have cases : c.isAlphanum =
      (decide (c.val ≥ 'A'.val ∧ c.val ≤ 'Z'.val) ||
        (c.val ≥ 'a'.val && c.val ≤ 'z'.val) || (c.val ≥ '0'.val && c.val ≤ '9'.val)) := rfl
  have same : c.toNat = c.val.toNat := rfl
  have zero : '0'.val.toNat = 48 := rfl
  have nine : '9'.val.toNat = 57 := rfl
  have upperA : 'A'.val.toNat = 65 := rfl
  have upperZ : 'Z'.val.toNat = 90 := rfl
  have lowerA : 'a'.val.toNat = 97 := rfl
  have lowerZ : 'z'.val.toNat = 122 := rfl
  simp only [cases, Bool.or_eq_true, Bool.and_eq_true, decide_eq_true_eq, ge_iff_le,
    UInt32.le_iff_toNat_le] at alphanum
  omega

/-- Characters that can be in a field name are characters of a word. -/
theorem isWordChar_of_isFieldPart {c : Char} (part : isFieldPart c = true) :
    isWordChar c = true := by
  simp only [isFieldPart, Bool.or_eq_true, beq_iff_eq] at part
  rcases part with alphanum | rfl
  · obtain ⟨least, most⟩ := visible_of_isAlphanum alphanum
    have notBlank : ¬Text.isBlank c = true := by simp [isBlank_of_visible least most]
    have other : ∀ d : Char, d.isAlphanum = false → c ≠ d := by
      rintro d notAlphanum rfl
      exact absurd alphanum (by simp [notAlphanum])
    exact isWordChar_iff.2 ⟨notBlank, other '(' (by decide), other ')' (by decide),
      not_or.2 ⟨other '"' (by decide), other '\'' (by decide)⟩⟩
  · decide

/-- Digits are characters of a word. -/
theorem isWordChar_of_isDigit {c : Char} (digit : c.isDigit = true) : isWordChar c = true :=
  isWordChar_of_isFieldPart (by simp [isFieldPart, Char.isAlphanum, digit])

/-- The characters of a segment are characters of a word. -/
theorem isWordChar_of_isSegment {segment : List Char} (isSegment : IsSegment segment) :
    ∀ c ∈ segment, isWordChar c = true := by
  obtain ⟨first, more, rfl, start, parts⟩ := isSegment
  intro c inSegment
  rcases List.mem_cons.1 inSegment with rfl | inMore
  · exact isWordChar_of_isFieldPart (isFieldPart_of_isFieldStart start)
  · exact isWordChar_of_isFieldPart (parts c inMore)

/-- The name of a field is a word. -/
theorem isWordChar_of_isField {name : String} (field : IsField name) :
    name.toList ≠ [] ∧ ∀ c ∈ name.toList, isWordChar c = true := by
  obtain ⟨⟨first, others, isSegment, segments, same⟩, -⟩ := field
  rw [same]
  constructor
  · obtain ⟨c, more, rfl, -, -⟩ := isSegment
    simp
  · intro c inName
    rcases List.mem_append.1 inName with inFirst | inOthers
    · exact isWordChar_of_isSegment isSegment c inFirst
    · obtain ⟨segment, isOther, inPart⟩ := List.mem_flatMap.1 inOthers
      rcases List.mem_cons.1 inPart with rfl | inSegment
      · decide
      · exact isWordChar_of_isSegment (segments segment isOther) c inSegment

/-- A numeral is a word. -/
theorem isWordChar_of_isNumeral {text : List Char} {d : Decimal} (numeral : IsNumeral text d) :
    ∀ c ∈ text, isWordChar c = true := by
  cases numeral with
  | digits whole decimals _ wholeDigits decimalDigits =>
    intro c inText
    rcases List.mem_append.1 inText with inWhole | inPointed
    · exact isWordChar_of_isDigit (wholeDigits c inWhole)
    · unfold pointed at inPointed
      split at inPointed
      · cases inPointed
      · rcases List.mem_cons.1 inPointed with rfl | inDecimals
        · decide
        · exact isWordChar_of_isDigit (decimalDigits c inDecimals)

end WordChars

/-- A number is written as a word that is no keyword. -/
theorem isWordChar_of_number (x : Double) :
    x.chars Literal.numeralStyle ≠ [] ∧
      ∀ c ∈ x.chars Literal.numeralStyle, isWordChar c = true := by
  have numeral := isNumeral_positionalChars (x.shortest .up)
  have wordChars := isWordChar_of_isNumeral numeral
  obtain ⟨c, more, starts, -⟩ := exists_isDigit_of_isNumeral numeral
  unfold Double.chars Literal.numeralStyle
  dsimp only
  rw [if_pos rfl]
  cases x.negative with
  | true =>
    refine ⟨by simp, ?_⟩
    intro d inChars
    rcases List.mem_cons.1 inChars with rfl | inNumeral
    · decide
    · exact wordChars d inNumeral
  | false => exact ⟨by simp [starts], wordChars⟩

section Cut

variable {rest : List Char}

/-- A blank in front of a piece is passed over. -/
theorem Lexes.afterBlank {piece : List Char} {lexemes : List Lexeme}
    (cut : Lexes piece lexemes rest) : Lexes (' ' :: piece) lexemes rest :=
  (lexes_blank (by decide)).append cut

/-- A blank starts no word. -/
theorem startsNoWord_blank (text : List Char) : StartsNoWord (' ' :: text) :=
  startsNoWord_of_blank (by decide)

/-- A parenthesis starts no word. -/
theorem startsNoWord_closing (text : List Char) : StartsNoWord (')' :: text) :=
  startsNoWord_cons (by decide)

/-- A word of letters is cut as that word. -/
theorem lexes_letters {word : String} (nonempty : word.toList ≠ [])
    (letters : word.toList.all isFieldPart = true) (ends : StartsNoWord rest) :
    Lexes word.toList [.word word] rest :=
  have wordChars : ∀ c ∈ word.toList, isWordChar c = true := fun c inWord =>
    isWordChar_of_isFieldPart (List.all_eq_true.1 letters c inWord)
  lexes_word nonempty wordChars ends

/-- The text of a literal is cut into its lexeme. -/
theorem lexes_literal (literal : Literal) (ends : StartsNoWord rest) :
    Lexes literal.chars [literal.lexeme] rest := by
  cases literal with
  | number value =>
    have same : (String.ofList (value.chars Literal.numeralStyle)).toList =
      value.chars Literal.numeralStyle := String.toList_ofList
    obtain ⟨nonempty, wordChars⟩ := isWordChar_of_number value
    rw [← same] at nonempty wordChars
    have cut := lexes_word nonempty wordChars ends
    rw [same] at cut
    exact cut
  | string value => exact lexes_string value rest
  | bool value =>
    cases value with
    | true => exact lexes_letters (by decide) (by decide) ends
    | false => exact lexes_letters (by decide) (by decide) ends
  | null => exact lexes_letters (by decide) (by decide) ends

/-- The text of a comparison is cut into its field, operator and literal. -/
theorem lexes_comparison {c : Comparison} (field : IsField c.field) (ends : StartsNoWord rest) :
    Lexes c.chars [.word c.field, .word c.operator.word, c.literal.lexeme] rest := by
  obtain ⟨nonempty, wordChars⟩ := isWordChar_of_isField field
  have operatorWord : c.operator.word.toList ≠ [] ∧
      c.operator.word.toList.all isFieldPart = true := by
    cases c.operator <;> decide
  have literal := (lexes_literal c.literal ends).afterBlank
  have operator := (lexes_letters operatorWord.1 operatorWord.2
    (startsNoWord_blank (c.literal.chars ++ rest))).afterBlank
  have name := lexes_word nonempty wordChars
    (startsNoWord_blank (c.operator.word.toList ++ (' ' :: c.literal.chars ++ rest)))
  exact (name.append operator).append literal

/-- The text of an operand is cut as its filter is, in parentheses where it stands in them. -/
theorem lexes_enclosed {operand : Filter}
    (cut : ∀ {rest}, StartsNoWord rest → Lexes operand.chars operand.written rest)
    (ends : StartsNoWord rest) :
    Lexes (enclosed operand operand.chars) (enclosedLexemes operand operand.written) rest := by
  have group : Lexes ('(' :: operand.chars ++ [')']) (.opening :: operand.written ++ [.closing])
      rest :=
    (lexes_opening.append (cut (startsNoWord_closing rest))).append lexes_closing
  cases operand with
  | comparison c => exact cut ends
  | and children => exact group
  | or children => exact group
  | not inner => exact cut ends

/-- What stands between operands: the word of the connective between blanks. -/
def joiner (connective : Connective) : List Char :=
  ' ' :: (connectiveKeyword connective).word.toList ++ [' ']

/-- Later operands start with a blank, so they end the word before them. -/
theorem startsNoWord_laterChars (connective : Connective) (children : List Filter)
    (ends : StartsNoWord rest) :
    StartsNoWord (laterChars (joiner connective) children ++ rest) := by
  cases children with
  | nil => exact ends
  | cons child more => exact startsNoWord_blank _

/-- A connective between operands is cut as its keyword. -/
theorem lexes_joiner (connective : Connective) (rest : List Char) :
    Lexes (joiner connective) [.word (connectiveKeyword connective).word] rest := by
  have letters : (connectiveKeyword connective).word.toList ≠ [] ∧
      (connectiveKeyword connective).word.toList.all isFieldPart = true := by
    cases connective <;> decide
  have word := lexes_letters letters.1 letters.2 (startsNoWord_blank rest)
  exact (word.append (lexes_blank (by decide))).afterBlank

mutual

/-- The text of a well-formed filter is cut into its lexemes. -/
theorem lexes_chars (f : Filter) (wellFormed : WellFormed f) {rest : List Char}
    (ends : StartsNoWord rest) : Lexes f.chars f.written rest := by
  match f with
  | .comparison c =>
    cases wellFormed with
    | comparison field => exact lexes_comparison field ends
  | .and children =>
    cases wellFormed with
    | and _ all => exact lexes_joinedChars .and children all ends
  | .or children =>
    cases wellFormed with
    | or _ all => exact lexes_joinedChars .or children all ends
  | .not operand =>
    cases wellFormed with
    | not inner =>
      have operandCut := lexes_enclosed (fun ends => lexes_chars operand inner ends) ends
      have word : Lexes "not".toList [.word Keyword.not.word]
          (' ' :: enclosed operand operand.chars ++ rest) :=
        lexes_letters (by decide) (by decide) (startsNoWord_blank _)
      exact word.append operandCut.afterBlank

/-- The text of operands is cut into theirs and the connectives between them. -/
theorem lexes_joinedChars (connective : Connective) (children : List Filter)
    (all : ∀ child ∈ children, WellFormed child) {rest : List Char} (ends : StartsNoWord rest) :
    Lexes (joinedChars (joiner connective) children) (joinedLexemes connective children) rest := by
  match children with
  | [] => exact lexes_nil
  | child :: more =>
    have first := lexes_enclosed (fun ends => lexes_chars child (all child (by simp)) ends)
      (startsNoWord_laterChars connective more ends)
    have later := lexes_laterChars connective more (fun next isNext => all next (by simp [isNext]))
      ends
    exact first.append later

/-- The text of later operands is cut into theirs, each after its connective. -/
theorem lexes_laterChars (connective : Connective) (children : List Filter)
    (all : ∀ child ∈ children, WellFormed child) {rest : List Char} (ends : StartsNoWord rest) :
    Lexes (laterChars (joiner connective) children) (laterLexemes connective children) rest := by
  match children with
  | [] => exact lexes_nil
  | child :: more =>
    have first := lexes_enclosed (fun ends => lexes_chars child (all child (by simp)) ends)
      (startsNoWord_laterChars connective more ends)
    have later := lexes_laterChars connective more (fun next isNext => all next (by simp [isNext]))
      ends
    have joined := lexes_joiner connective
      (enclosed child child.chars ++ (laterChars (joiner connective) more ++ rest))
    exact (joined.append first).append later

end

end Cut

/-- The tokens of the text of a well-formed filter are its lexemes. -/
theorem tokenize_text {f : Filter} (wellFormed : WellFormed f) :
    ∃ tokens, tokenize f.text = .ok tokens ∧ lexemes tokens = f.written := by
  have ends : StartsNoWord [] := by simp [StartsNoWord]
  have cut := lexes_chars f wellFormed ends
  unfold text
  exact tokenize_of_lexes (by rwa [String.toList_ofList])

end Filter

end RecordSearch
