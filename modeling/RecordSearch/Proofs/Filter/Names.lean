import RecordSearch.Filter.Parser

/-!
# Keywords and field names

What the words of a filter text are, without the recursions that decide it: a keyword is one of
three words in any letter case, and a field is a dotted identifier that is no keyword.
-/

namespace RecordSearch.Filter

/-- The word is the keyword in any letter case. -/
def Keyword.Spells (keyword : Keyword) (word : String) : Prop :=
  Text.sameLetters keyword.word word = true

/-- The keyword of a connective. -/
def connectiveKeyword : Connective → Keyword
  | .and => .and
  | .or => .or

/-- A segment of a field name: a letter or an underscore, then letters, digits and underscores. -/
def IsSegment (segment : List Char) : Prop :=
  ∃ first more, segment = first :: more ∧ isFieldStart first = true ∧
    ∀ c ∈ more, isFieldPart c = true

/-- A dotted identifier: a segment, and any number of segments that each follow a dot. -/
def IsDottedIdentifier (word : String) : Prop :=
  ∃ (first : List Char) (others : List (List Char)),
    IsSegment first ∧ (∀ segment ∈ others, IsSegment segment) ∧
      word.toList = first ++ others.flatMap ('.' :: ·)

/-- A word that can name a field. -/
def IsField (word : String) : Prop :=
  IsDottedIdentifier word ∧ ∀ keyword : Keyword, ¬keyword.Spells word

section Keywords

/-- A keyword is spelled by its own word. -/
theorem Keyword.spells_word (keyword : Keyword) : keyword.Spells keyword.word :=
  Text.sameLetters_iff.2 rfl

/-- No two keywords have the same letters. -/
theorem Keyword.spells_unique {left right : Keyword} {word : String} (first : left.Spells word)
    (second : right.Spells word) : left = right := by
  unfold Keyword.Spells at first second
  rw [Text.sameLetters_iff] at first second
  have same : Text.lowerCase left.word = Text.lowerCase right.word := first.trans second.symm
  revert same
  cases left <;> cases right <;> decide

/-- A word is read as the keyword that it spells. -/
theorem keyword?_eq_some_iff {word : String} {keyword : Keyword} :
    keyword? word = some keyword ↔ keyword.Spells word := by
  have spells_of_found : ∀ other, keyword? word = some other → other.Spells word := by
    intro other found
    unfold keyword? at found
    have spelled := List.find?_some found
    exact spelled
  constructor
  · exact spells_of_found keyword
  · intro spelled
    cases found : keyword? word with
    | none =>
      have none := List.find?_eq_none.1 found keyword (by cases keyword <;> simp)
      exact absurd spelled none
    | some other =>
      exact congrArg some (Keyword.spells_unique (spells_of_found other found) spelled)

/-- A word is read as no keyword when it spells none. -/
theorem keyword?_eq_none_iff {word : String} :
    keyword? word = none ↔ ∀ keyword : Keyword, ¬keyword.Spells word := by
  rw [Option.eq_none_iff_forall_ne_some]
  exact forall_congr' fun keyword => not_congr keyword?_eq_some_iff

/-- The spelling of an operator is no keyword. -/
theorem keyword?_of_ofWord? {word : String} {operator : Operator}
    (spelled : Operator.ofWord? word = some operator) : keyword? word = none := by
  obtain ⟨spelling, found, -⟩ := Option.map_eq_some_iff.1 spelled
  have letters := List.find?_some found
  rw [Text.sameLetters_iff] at letters
  refine keyword?_eq_none_iff.2 fun keyword isKeyword => ?_
  have apart : ∀ other ∈ Operator.spellings,
      Text.lowerCase other.1 ≠ Text.lowerCase keyword.word := by
    cases keyword <;> decide
  exact apart spelling (List.mem_of_find?_eq_some found)
    (letters.trans (Text.sameLetters_iff.1 isKeyword).symm)

/-- A keyword is the connective of which it is the keyword. -/
theorem connective?_eq_some_iff {keyword : Keyword} {connective : Connective} :
    keyword.connective? = some connective ↔ keyword = connectiveKeyword connective := by
  cases keyword <;> cases connective <;> decide

end Keywords

section FieldNames

/-- A dot stands in no segment. -/
theorem ne_dot_of_isFieldPart {c : Char} (part : isFieldPart c = true) : c ≠ '.' := by
  rintro rfl
  exact absurd part (by decide)

/-- What can start a segment can stand in one. -/
theorem isFieldPart_of_isFieldStart {c : Char} (start : isFieldStart c = true) :
    isFieldPart c = true := by
  simp only [isFieldStart, isFieldPart, Char.isAlphanum, Bool.or_eq_true] at start ⊢
  rcases start with letter | underscore
  · exact .inl (.inl letter)
  · exact .inr underscore

/-- What the text up to the next dot has to be: a whole segment, or the rest of one. -/
def ContinuesSegment (starting : Bool) (part : List Char) : Prop :=
  if starting then IsSegment part else ∀ c ∈ part, isFieldPart c = true

/-- The text goes on with its segment and then with any number of further ones. -/
def ContinuesField (starting : Bool) (text : List Char) : Prop :=
  ∃ (part : List Char) (others : List (List Char)), ContinuesSegment starting part ∧
    (∀ segment ∈ others, IsSegment segment) ∧ text = part ++ others.flatMap ('.' :: ·)

variable {c : Char} {rest : List Char}

/-- A segment starts with what can start it. -/
theorem continuesField_start :
    ContinuesField true (c :: rest) ↔ isFieldStart c = true ∧ ContinuesField false rest := by
  constructor
  · rintro ⟨part, others, ⟨first, more, rfl, start, parts⟩, segments, same⟩
    obtain ⟨rfl, rfl⟩ := List.cons.inj same
    exact ⟨start, more, others, parts, segments, rfl⟩
  · rintro ⟨start, part, others, parts, segments, rfl⟩
    exact ⟨c :: part, others, ⟨c, part, rfl, start, parts⟩, segments, rfl⟩

/-- After a dot the next segment starts. -/
theorem continuesField_dot : ContinuesField false ('.' :: rest) ↔ ContinuesField true rest := by
  constructor
  · rintro ⟨part, others, parts, segments, same⟩
    match part, others with
    | d :: more, _ =>
      obtain ⟨rfl, -⟩ := List.cons.inj same
      exact absurd rfl (ne_dot_of_isFieldPart (parts '.' (by simp)))
    | [], [] => simp at same
    | [], segment :: others =>
      obtain ⟨-, rfl⟩ := List.cons.inj same
      obtain ⟨isSegment, areSegments⟩ := List.forall_mem_cons.1 segments
      exact ⟨segment, others, isSegment, areSegments, rfl⟩
  · rintro ⟨part, others, isSegment, segments, rfl⟩
    have none : ContinuesSegment false [] := by simp [ContinuesSegment]
    exact ⟨[], part :: others, none, List.forall_mem_cons.2 ⟨isSegment, segments⟩, rfl⟩

/-- Anything but a dot goes on with the segment. -/
theorem continuesField_part (notDot : c ≠ '.') :
    ContinuesField false (c :: rest) ↔ isFieldPart c = true ∧ ContinuesField false rest := by
  constructor
  · rintro ⟨part, others, parts, segments, same⟩
    match part, others with
    | [], [] => simp at same
    | [], segment :: others => exact absurd (List.cons.inj same).1 notDot
    | d :: more, others =>
      obtain ⟨rfl, rfl⟩ := List.cons.inj same
      obtain ⟨isPart, areParts⟩ := List.forall_mem_cons.1 parts
      exact ⟨isPart, more, others, areParts, segments, rfl⟩
  · rintro ⟨isPart, part, others, parts, segments, rfl⟩
    exact ⟨c :: part, others, List.forall_mem_cons.2 ⟨isPart, parts⟩, segments, rfl⟩

/-- A text is accepted as the rest of a field name when it goes on as one. -/
theorem isFieldFrom_iff {starting : Bool} {text : List Char} :
    isFieldFrom starting text = true ↔ ContinuesField starting text := by
  induction text generalizing starting with
  | nil =>
    cases starting with
    | true =>
      refine iff_of_false (by simp [isFieldFrom]) ?_
      rintro ⟨part, others, ⟨first, more, rfl, -⟩, -, same⟩
      simp at same
    | false =>
      have none : ContinuesSegment false [] := by simp [ContinuesSegment]
      exact iff_of_true rfl ⟨[], [], none, by simp, rfl⟩
  | cons c rest ih =>
    cases starting with
    | true => rw [continuesField_start, ← ih, isFieldFrom, if_pos rfl, Bool.and_eq_true]
    | false =>
      by_cases dot : c = '.'
      · rw [dot, continuesField_dot, ← ih, isFieldFrom, if_neg Bool.false_ne_true, if_pos rfl]
      · rw [continuesField_part dot, ← ih, isFieldFrom, if_neg Bool.false_ne_true, if_neg dot,
          Bool.and_eq_true]

/-- The words that are accepted as field names are the dotted identifiers. -/
theorem isFieldName_iff {word : String} : isFieldName word = true ↔ IsDottedIdentifier word := by
  unfold isFieldName IsDottedIdentifier
  rw [isFieldFrom_iff]
  simp only [ContinuesField, ContinuesSegment, if_true]

end FieldNames

section Tokens

variable {token : Token}

/-- A token is a keyword where its word spells it. -/
theorem Token.keyword?_eq_some_iff {keyword : Keyword} :
    token.keyword? = some keyword ↔ ∃ word, token.lexeme = .word word ∧ keyword.Spells word := by
  unfold Token.keyword?
  cases token.lexeme <;> simp [Filter.keyword?_eq_some_iff]

/-- A token is a connective where its word spells the keyword. -/
theorem Token.connective?_eq_some_iff {connective : Connective} :
    token.connective? = some connective ↔
      ∃ word, token.lexeme = .word word ∧ (connectiveKeyword connective).Spells word := by
  unfold Token.connective?
  rw [Option.bind_eq_some_iff]
  constructor
  · rintro ⟨keyword, isKeyword, joins⟩
    rw [Filter.connective?_eq_some_iff.1 joins] at isKeyword
    exact Token.keyword?_eq_some_iff.1 isKeyword
  · intro spelled
    exact ⟨_, Token.keyword?_eq_some_iff.2 spelled, Filter.connective?_eq_some_iff.2 rfl⟩

/-- A token names the field that its word is. -/
theorem Token.field?_eq_some_iff {name : String} :
    token.field? = some name ↔ token.lexeme = .word name ∧ IsField name := by
  unfold Token.field? IsField
  cases token.lexeme with
  | word text =>
    simp only [← isFieldName_iff, ← keyword?_eq_none_iff, Lexeme.word.injEq]
    split
    · next accepted =>
      simp only [Option.some.injEq]
      constructor
      · rintro rfl
        exact ⟨rfl, accepted⟩
      · exact And.left
    · next refused =>
      simp only [reduceCtorEq, false_iff]
      rintro ⟨rfl, accepted⟩
      exact refused accepted
  | opening => simp
  | closing => simp
  | quoted text => simp

/-- A token spells the operator that its word is. -/
theorem Token.operator?_eq_some_iff {operator : Operator} :
    token.operator? = some operator ↔
      ∃ word, token.lexeme = .word word ∧ Operator.ofWord? word = some operator := by
  unfold Token.operator?
  cases token.lexeme <;> simp

end Tokens

end RecordSearch.Filter
