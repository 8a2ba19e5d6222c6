import RecordSearch.Filter.Rendering
import RecordSearch.Proofs.Filter.Grammar

/-!
# Pieces of text as lexemes

A piece of a text is cut into some lexemes in front of the text that follows it, wherever it starts;
`Lexes` says so, and pieces that follow each other are cut one after the other. Blanks, parentheses
and quoted strings need nothing of the text that follows, words need it to start with a character
that stands in no word.
-/

namespace RecordSearch.Filter

/-- In front of `rest` the piece is cut into the lexemes, and then the rest is cut. -/
def Lexes (piece : List Char) (written : List Lexeme) (rest : List Char) : Prop :=
  ∀ position, ∃ tokens next, lexemes tokens = written ∧
    tokensFrom position (piece ++ rest) = (tokensFrom next rest).map (tokens ++ ·)

/-- The text starts with no character of a word. -/
def StartsNoWord (text : List Char) : Prop := ∀ c ∈ text.head?, isWordChar c = false

/-- What satisfies a test at the start of a list is taken up to the first element that does not. -/
theorem span_of_boundary {α : Type} {test : α → Bool} {before : List α}
    (all : ∀ a ∈ before, test a = true) {after : List α}
    (ends : ∀ a ∈ after.head?, test a = false) :
    (before ++ after).takeWhile test = before ∧ (before ++ after).dropWhile test = after := by
  rw [List.takeWhile_append_of_pos all, List.dropWhile_append_of_pos all]
  cases after with
  | nil => simp
  | cons a more => simp [ends a rfl]

section Cutting

variable {position : Nat} {c : Char} {rest : List Char}

/-- Blanks are passed over. -/
theorem tokensFrom_blank (blank : Text.isBlank c = true) :
    tokensFrom position (c :: rest) = tokensFrom (position + c.utf8Size) rest := by
  rw [tokensFrom, if_pos blank]

/-- An opening parenthesis stands alone. -/
theorem tokensFrom_opening :
    tokensFrom position ('(' :: rest) =
      (tokensFrom (position + '('.utf8Size) rest).map (⟨.opening, position⟩ :: ·) := by
  rw [tokensFrom, if_neg (by decide), if_pos rfl]

/-- A closing parenthesis stands alone. -/
theorem tokensFrom_closing :
    tokensFrom position (')' :: rest) =
      (tokensFrom (position + ')'.utf8Size) rest).map (⟨.closing, position⟩ :: ·) := by
  rw [tokensFrom, if_neg (by decide), if_neg (by decide), if_pos rfl]

/-- A quote is no blank and no parenthesis. -/
theorem not_blank_of_quote (quote : c = '"' ∨ c = '\'') :
    ¬Text.isBlank c = true ∧ c ≠ '(' ∧ c ≠ ')' := by
  rcases quote with rfl | rfl <;> decide

/-- What follows a quote decides what is read there: a token, or one of two errors. -/
theorem tokensFrom_quote (quote : c = '"' ∨ c = '\'') :
    tokensFrom position (c :: rest) =
      match quotedRest c rest with
      | .closed content bytes after =>
        (tokensFrom (position + c.utf8Size + bytes) after).map
          (⟨.quoted (String.ofList content), position⟩ :: ·)
      | .badEscape bytes letter =>
        .error ⟨position + c.utf8Size + bytes, .escapeSequence, .escape letter⟩
      | .unclosed =>
        .error ⟨position + Text.byteCount (c :: rest), .closingQuote c position, .endOfInput⟩ := by
  obtain ⟨notBlank, notOpening, notClosing⟩ := not_blank_of_quote quote
  rw [tokensFrom, if_neg notBlank, if_neg notOpening, if_neg notClosing, if_pos quote]
  split
  · next closed => simp only [closed]
  · next badEscape => simp only [badEscape]
  · next unclosed => simp only [unclosed]

/-- A string that ends is one token. -/
theorem tokensFrom_quoted {content after : List Char} {bytes : Nat} (quote : c = '"' ∨ c = '\'')
    (closed : quotedRest c rest = .closed content bytes after) :
    tokensFrom position (c :: rest) =
      (tokensFrom (position + c.utf8Size + bytes) after).map
        (⟨.quoted (String.ofList content), position⟩ :: ·) := by
  rw [tokensFrom_quote quote, closed]

/-- A character of a word is no blank, no parenthesis and no quote. -/
theorem isWordChar_iff :
    isWordChar c = true ↔
      ¬Text.isBlank c = true ∧ c ≠ '(' ∧ c ≠ ')' ∧ ¬(c = '"' ∨ c = '\'') := by
  simp [isWordChar, not_or, and_assoc]

/-- A text that starts with a character that stands in no word starts no word. -/
theorem startsNoWord_cons (notInWord : isWordChar c = false) : StartsNoWord (c :: rest) := by
  intro d starts
  cases starts
  exact notInWord

/-- A blank stands in no word. -/
theorem startsNoWord_of_blank (blank : Text.isBlank c = true) : StartsNoWord (c :: rest) :=
  startsNoWord_cons (by simp [isWordChar, blank])

/-- A word goes on for as long as its characters do. -/
theorem tokensFrom_word (inWord : isWordChar c = true) :
    tokensFrom position (c :: rest) =
      (tokensFrom (position + Text.byteCount (c :: rest.takeWhile isWordChar))
        (rest.dropWhile isWordChar)).map
          (⟨.word (String.ofList (c :: rest.takeWhile isWordChar)), position⟩ :: ·) := by
  obtain ⟨notBlank, notOpening, notClosing, notQuote⟩ := isWordChar_iff.1 inWord
  rw [tokensFrom, if_neg notBlank, if_neg notOpening, if_neg notClosing, if_neg notQuote]

end Cutting

section Pieces

variable {rest : List Char}

/-- Nothing is cut into nothing. -/
theorem lexes_nil : Lexes [] [] rest := fun position => ⟨[], position, rfl, by
  rw [List.nil_append]
  cases tokensFrom position rest <;> rfl⟩

/-- Pieces that follow each other are cut one after the other. -/
theorem Lexes.append {left right : List Char} {before after : List Lexeme}
    (first : Lexes left before (right ++ rest)) (second : Lexes right after rest) :
    Lexes (left ++ right) (before ++ after) rest := by
  intro position
  obtain ⟨tokens, next, sameFirst, cutFirst⟩ := first position
  obtain ⟨more, last, sameSecond, cutSecond⟩ := second next
  refine ⟨tokens ++ more, last, by rw [lexemes_append, sameFirst, sameSecond], ?_⟩
  rw [List.append_assoc, cutFirst, cutSecond]
  cases tokensFrom last rest with
  | error refused => rfl
  | ok left => simp [Except.map]

/-- A blank is cut into nothing. -/
theorem lexes_blank {c : Char} (blank : Text.isBlank c = true) : Lexes [c] [] rest :=
  fun position => ⟨[], position + c.utf8Size, rfl, by
    rw [List.singleton_append, tokensFrom_blank blank]
    cases tokensFrom (position + c.utf8Size) rest <;> rfl⟩

/-- An opening parenthesis is cut alone. -/
theorem lexes_opening : Lexes ['('] [.opening] rest :=
  fun position => ⟨[⟨.opening, position⟩], _, rfl, tokensFrom_opening⟩

/-- A closing parenthesis is cut alone. -/
theorem lexes_closing : Lexes [')'] [.closing] rest :=
  fun position => ⟨[⟨.closing, position⟩], _, rfl, tokensFrom_closing⟩

/-- A word is cut in front of a text that does not continue it. -/
theorem lexes_word {word : String} (nonempty : word.toList ≠ [])
    (wordChars : ∀ c ∈ word.toList, isWordChar c = true) (ends : StartsNoWord rest) :
    Lexes word.toList [.word word] rest := by
  obtain ⟨c, more, split⟩ := List.exists_cons_of_ne_nil nonempty
  have inWord : isWordChar c = true := wordChars c (by simp [split])
  have inMore : ∀ d ∈ more, isWordChar d = true := fun d inRest => wordChars d (by
    simp [split, inRest])
  obtain ⟨taken, left⟩ := span_of_boundary inMore ends
  have same : String.ofList (c :: more) = word := by rw [← split, String.ofList_toList]
  intro position
  refine ⟨[⟨.word word, position⟩], position + Text.byteCount (c :: more), rfl, ?_⟩
  rw [split, List.cons_append, tokensFrom_word inWord, taken, left, same]
  rfl

end Pieces

section Strings

/-- The quote of a string closes it. -/
theorem quotedRest_close (quote : Char) (rest : List Char) :
    quotedRest quote (quote :: rest) = .closed [] quote.utf8Size rest := by
  rw [quotedRest.eq_def]
  exact if_pos rfl

/-- A character other than the quote and the backslash stands for itself. -/
theorem quotedRest_plain {quote c : Char} {rest : List Char} (notQuote : c ≠ quote)
    (notBackslash : c ≠ '\\') :
    quotedRest quote (c :: rest) = (quotedRest quote rest).prepend c c.utf8Size := by
  rw [quotedRest.eq_def]
  dsimp only
  rw [if_neg notQuote, if_neg notBackslash]

/-- A character of a string literal is read back as itself. -/
theorem quotedRest_stringChar (c : Char) (rest : List Char) :
    ∃ bytes, quotedRest '"' (Literal.stringChar c ++ rest) =
      (quotedRest '"' rest).prepend c bytes := by
  unfold Literal.stringChar
  split
  · next same => exact ⟨_, by subst same; rfl⟩
  split
  · next same => exact ⟨_, by subst same; rfl⟩
  split
  · next same => exact ⟨_, by subst same; rfl⟩
  split
  · next same => exact ⟨_, by subst same; rfl⟩
  · next notQuote notBackslash _ _ =>
    refine ⟨c.utf8Size, ?_⟩
    exact quotedRest_plain notQuote notBackslash

/-- A string literal is read back as its string. -/
theorem quotedRest_flatMap (content rest : List Char) :
    ∃ bytes, quotedRest '"' (content.flatMap Literal.stringChar ++ '"' :: rest) =
      .closed content bytes rest := by
  induction content with
  | nil => exact ⟨_, quotedRest_close '"' rest⟩
  | cons c content ih =>
    obtain ⟨bytes, read⟩ := ih
    obtain ⟨more, readChar⟩ :=
      quotedRest_stringChar c (content.flatMap Literal.stringChar ++ '"' :: rest)
    refine ⟨more + bytes, ?_⟩
    rw [List.flatMap_cons, List.append_assoc, readChar, read]
    rfl

/-- A string literal is cut into its string. -/
theorem lexes_string (text : String) (rest : List Char) :
    Lexes (Literal.string text).chars [.quoted text] rest := by
  intro position
  obtain ⟨bytes, closed⟩ := quotedRest_flatMap text.toList rest
  refine ⟨[⟨.quoted text, position⟩], position + '"'.utf8Size + bytes, rfl, ?_⟩
  unfold Literal.chars
  rw [List.append_assoc, List.singleton_append, List.cons_append,
    tokensFrom_quoted (.inl rfl) closed, String.ofList_toList]
  rfl

end Strings

/-- The tokens of a text are the lexemes that it is cut into. -/
theorem tokenize_of_lexes {text : String} {written : List Lexeme}
    (cut : Lexes text.toList written []) :
    ∃ tokens, tokenize text = .ok tokens ∧ lexemes tokens = written := by
  obtain ⟨tokens, next, same, cutFromStart⟩ := cut 0
  refine ⟨tokens, ?_, same⟩
  rw [List.append_nil] at cutFromStart
  unfold tokenize
  rw [cutFromStart, tokensFrom]
  simp [Except.map]

end RecordSearch.Filter
