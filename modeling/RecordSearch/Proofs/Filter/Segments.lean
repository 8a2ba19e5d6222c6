import Mathlib.Data.List.TakeWhile
import RecordSearch.Proofs.Filter.Lexing

/-!
# Texts as segments

A text that has tokens is a row of blanks and lexemes; `Segmented` says which, apart from how they
are found. A lexeme is one parenthesis, a word that nothing continues, or a string whose body holds
its own quote only behind a backslash. A text that is no such row has a first defect: a string with
an escape that stands for nothing, or one that is open at the end. Every text is one or the other,
and the lexer tells which.
-/

namespace RecordSearch.Filter

open RecordSearch.Text (byteCount byteCount_append)

/-- The character that a letter stands for behind a backslash. -/
inductive Escape : Char → Char → Prop where
  | newline : Escape 'n' '\n'
  | tab : Escape 't' '\t'
  | backslash : Escape '\\' '\\'
  | double : Escape '"' '"'
  | single : Escape '\'' '\''

/-- What can stand between the quotes of a string, and the characters that it denotes. -/
inductive IsBody (quote : Char) : List Char → List Char → Prop where
  | nil : IsBody quote [] []
  | plain {c : Char} {body content : List Char} (notQuote : c ≠ quote) (notBackslash : c ≠ '\\')
    (more : IsBody quote body content) : IsBody quote (c :: body) (c :: content)
  | escape {letter c : Char} {body content : List Char} (escapes : Escape letter c)
    (more : IsBody quote body content) : IsBody quote ('\\' :: letter :: body) (c :: content)

/-- The text of a lexeme. -/
inductive IsLexeme : List Char → Lexeme → Prop where
  | opening : IsLexeme ['('] .opening
  | closing : IsLexeme [')'] .closing
  | word {piece : List Char} (nonempty : piece ≠ [])
    (wordChars : ∀ c ∈ piece, isWordChar c = true) : IsLexeme piece (.word (String.ofList piece))
  | quoted {quote : Char} {body content : List Char} (isQuote : quote = '"' ∨ quote = '\'')
    (isBody : IsBody quote body content) :
    IsLexeme (quote :: body ++ [quote]) (.quoted (String.ofList content))

/-- Whether the lexeme ends in front of the text: no character there continues a word. -/
def Lexeme.EndsBefore (rest : List Char) : Lexeme → Prop
  | word _ => StartsNoWord rest
  | _ => True

/-- The text, which starts after so many bytes, is a row of blanks and of the lexemes of the tokens,
each of them where its token says. -/
inductive Segmented : Nat → List Char → List Token → Prop where
  | nil {position : Nat} : Segmented position [] []
  | blank {position : Nat} {c : Char} {rest : List Char} {tokens : List Token}
    (blank : Text.isBlank c = true) (more : Segmented (position + c.utf8Size) rest tokens) :
    Segmented position (c :: rest) tokens
  | lexeme {position : Nat} {piece rest : List Char} {lexeme : Lexeme} {tokens : List Token}
    (isLexeme : IsLexeme piece lexeme) (ends : lexeme.EndsBefore rest)
    (more : Segmented (position + byteCount piece) rest tokens) :
    Segmented position (piece ++ rest) (⟨lexeme, position⟩ :: tokens)

/-- A string that starts after so many bytes is not closed: in it a backslash stands before a letter
that it does not escape, or the text ends, perhaps after a backslash. -/
inductive OpenString (start : Nat) : List Char → SyntaxError → Prop where
  | unknownEscape {quote letter : Char} {body content rest : List Char}
    (isQuote : quote = '"' ∨ quote = '\'') (isBody : IsBody quote body content)
    (unknown : ∀ c, ¬Escape letter c) :
    OpenString start (quote :: body ++ '\\' :: letter :: rest)
      ⟨start + byteCount (quote :: body), .escapeSequence, .escape letter⟩
  | unclosed {quote : Char} {body content ending : List Char}
    (isQuote : quote = '"' ∨ quote = '\'') (isBody : IsBody quote body content)
    (ended : ending = [] ∨ ending = ['\\']) :
    OpenString start (quote :: body ++ ending)
      ⟨start + byteCount (quote :: body ++ ending), .closingQuote quote start, .endOfInput⟩

/-- The first defect of a text: behind a row of segments a string is not closed. -/
def Defect (text : List Char) (e : SyntaxError) : Prop :=
  ∃ before tokens ending, text = before ++ ending ∧ Segmented 0 before tokens ∧
    OpenString (byteCount before) ending e

/-- A row of segments that starts with a word. -/
theorem Segmented.word {position : Nat} {word : String} {rest : List Char} {tokens : List Token}
    (nonempty : word.toList ≠ []) (wordChars : ∀ c ∈ word.toList, isWordChar c = true)
    (ends : StartsNoWord rest)
    (more : Segmented (position + byteCount word.toList) rest tokens) :
    Segmented position (word.toList ++ rest) (⟨.word word, position⟩ :: tokens) := by
  have isLexeme := IsLexeme.word nonempty wordChars
  rw [String.ofList_toList] at isLexeme
  exact .lexeme isLexeme ends more

section Bodies

/-- The escapes are the ones that are read. -/
theorem escapedChar?_eq_some_iff {letter c : Char} :
    escapedChar? letter = some c ↔ Escape letter c := by
  constructor
  · intro escaped
    unfold escapedChar? at escaped
    split at escaped
    · next same => cases same; cases escaped; exact .newline
    split at escaped
    · next same => cases same; cases escaped; exact .tab
    split at escaped
    · next same =>
      cases escaped
      rcases same with rfl | rfl | rfl
      · exact .backslash
      · exact .double
      · exact .single
    · cases escaped
  · rintro (_ | _ | _ | _ | _) <;> rfl

/-- What is read after characters that were read before it. -/
def QuotedRest.after (content : List Char) (bytes : Nat) : QuotedRest → QuotedRest
  | closed more count rest => closed (content ++ more) (bytes + count) rest
  | badEscape count letter => badEscape (bytes + count) letter
  | unclosed => unclosed

@[simp]
theorem QuotedRest.after_nil (found : QuotedRest) : found.after [] 0 = found := by
  cases found <;> simp [after]

/-- One more character before those that were read before. -/
theorem QuotedRest.prepend_after (c : Char) (bytes count : Nat) (content : List Char)
    (found : QuotedRest) :
    (found.after content count).prepend c bytes = found.after (c :: content) (bytes + count) := by
  cases found <;> simp [after, prepend, Nat.add_assoc]

variable {quote : Char}

/-- An escape is read as its character; neither quote is a backslash. -/
theorem quotedRest_escape (isQuote : quote = '"' ∨ quote = '\'') {letter c : Char}
    (escapes : Escape letter c) (rest : List Char) :
    quotedRest quote ('\\' :: letter :: rest) =
      (quotedRest quote rest).prepend c ('\\'.utf8Size + letter.utf8Size) := by
  have notQuote : '\\' ≠ quote := by rcases isQuote with rfl | rfl <;> decide
  rw [quotedRest.eq_def]
  simp only [if_neg notQuote, if_true, escapedChar?_eq_some_iff.2 escapes]

/-- The body of a string is read as what it denotes. -/
theorem quotedRest_body (isQuote : quote = '"' ∨ quote = '\'') {body content : List Char}
    (isBody : IsBody quote body content) (rest : List Char) :
    quotedRest quote (body ++ rest) =
      (quotedRest quote rest).after content (byteCount body) := by
  induction isBody with
  | nil => rw [List.nil_append, byteCount, QuotedRest.after_nil]
  | plain notQuote notBackslash _ ih =>
    rw [List.cons_append, quotedRest_plain notQuote notBackslash, ih, QuotedRest.prepend_after]
    rfl
  | escape escapes _ ih =>
    rw [List.cons_append, List.cons_append, quotedRest_escape isQuote escapes, ih,
      QuotedRest.prepend_after, Nat.add_assoc]
    rfl

/-- A letter that escapes nothing ends the reading of a string. -/
theorem quotedRest_unknown (isQuote : quote = '"' ∨ quote = '\'') {letter : Char}
    (unknown : ∀ c, ¬Escape letter c) (rest : List Char) :
    quotedRest quote ('\\' :: letter :: rest) = .badEscape 0 letter := by
  have notQuote : '\\' ≠ quote := by rcases isQuote with rfl | rfl <;> decide
  have none : escapedChar? letter = none :=
    Option.eq_none_iff_forall_ne_some.2 fun c escaped =>
      unknown c (escapedChar?_eq_some_iff.1 escaped)
  rw [quotedRest.eq_def]
  simp only [if_neg notQuote, if_true, none]

/-- A string is open where the text ends, also after a backslash. -/
theorem quotedRest_ended (isQuote : quote = '"' ∨ quote = '\'') {ending : List Char}
    (ended : ending = [] ∨ ending = ['\\']) : quotedRest quote ending = .unclosed := by
  rcases ended with rfl | rfl
  · rw [quotedRest]
  · rcases isQuote with rfl | rfl <;> rfl

/-- Every text is the body of a string up to its quote, up to a letter that escapes nothing, or up
to the end. -/
theorem exists_body (quote : Char) (text : List Char) :
    ∃ body content ending, text = body ++ ending ∧ IsBody quote body content ∧
      ((∃ rest, ending = quote :: rest) ∨
        (∃ letter rest, ending = '\\' :: letter :: rest ∧ ∀ c, ¬Escape letter c) ∨
          ending = [] ∨ ending = ['\\']) := by
  match text with
  | [] => exact ⟨[], [], [], rfl, .nil, .inr (.inr (.inl rfl))⟩
  | c :: rest =>
    by_cases closes : c = quote
    · exact ⟨[], [], c :: rest, rfl, .nil, .inl ⟨rest, by rw [closes]⟩⟩
    by_cases backslash : c = '\\'
    · subst backslash
      match rest with
      | [] => exact ⟨[], [], ['\\'], rfl, .nil, .inr (.inr (.inr rfl))⟩
      | letter :: rest =>
        by_cases escapes : ∃ c, Escape letter c
        · obtain ⟨c, escapes⟩ := escapes
          obtain ⟨body, content, ending, split, isBody, ends⟩ := exists_body quote rest
          exact ⟨'\\' :: letter :: body, c :: content, ending, by rw [split]; rfl,
            .escape escapes isBody, ends⟩
        · exact ⟨[], [], '\\' :: letter :: rest, rfl, .nil,
            .inr (.inl ⟨letter, rest, rfl, not_exists.1 escapes⟩)⟩
    · obtain ⟨body, content, ending, split, isBody, ends⟩ := exists_body quote rest
      exact ⟨c :: body, c :: content, ending, by rw [split]; rfl,
        .plain closes backslash isBody, ends⟩

end Bodies

section Ends

variable {lexeme : Lexeme} {before rest : List Char}

/-- A lexeme that ends in front of a text ends in front of what the text starts with. -/
theorem Lexeme.EndsBefore.of_append (ends : lexeme.EndsBefore (before ++ rest)) :
    lexeme.EndsBefore before := by
  cases lexeme with
  | word text =>
    cases before with
    | nil => rintro _ ⟨⟩
    | cons c more => exact ends
  | _ => trivial

/-- A lexeme that ends in front of a text still does with another one behind, unless that one
continues a word and nothing is between. -/
theorem Lexeme.EndsBefore.append (ends : lexeme.EndsBefore before) (restEnds : StartsNoWord rest) :
    lexeme.EndsBefore (before ++ rest) := by
  cases lexeme with
  | word text =>
    cases before with
    | nil => exact restEnds
    | cons c more => exact ends
  | _ => trivial

end Ends

section Cutting

variable {position : Nat} {before piece rest : List Char} {tokens : List Token} {lexeme : Lexeme}

/-- The lexeme that a text starts with is its first token. -/
theorem tokensFrom_lexeme (isLexeme : IsLexeme piece lexeme) (ends : lexeme.EndsBefore rest) :
    tokensFrom position (piece ++ rest) =
      (tokensFrom (position + byteCount piece) rest).map (⟨lexeme, position⟩ :: ·) := by
  cases isLexeme with
  | opening => exact tokensFrom_opening
  | closing => exact tokensFrom_closing
  | word nonempty wordChars =>
    obtain ⟨c, more, rfl⟩ := List.exists_cons_of_ne_nil nonempty
    obtain ⟨inWord, inMore⟩ := List.forall_mem_cons.1 wordChars
    obtain ⟨taken, left⟩ := span_of_boundary inMore ends
    rw [List.cons_append, tokensFrom_word inWord, taken, left]
  | @quoted quote body content isQuote isBody =>
    have closed : quotedRest quote (body ++ quote :: rest) =
        .closed content (byteCount body + quote.utf8Size) rest := by
      rw [quotedRest_body isQuote isBody, quotedRest_close, QuotedRest.after, List.append_nil]
    have bytes : byteCount (quote :: body ++ [quote]) =
        quote.utf8Size + (byteCount body + quote.utf8Size) := by
      simp [byteCount, byteCount_append]
    rw [List.append_assoc, List.singleton_append, List.cons_append,
      tokensFrom_quoted isQuote closed, bytes, Nat.add_assoc]

/-- A row of segments is cut into its tokens, in front of a text that does not continue it. -/
theorem tokensFrom_append (segmented : Segmented position before tokens)
    (ends : StartsNoWord rest) :
    tokensFrom position (before ++ rest) =
      (tokensFrom (position + byteCount before) rest).map (tokens ++ ·) := by
  induction segmented with
  | @nil position =>
    rw [List.nil_append, byteCount, Nat.add_zero]
    cases tokensFrom position rest <;> rfl
  | blank blank more ih =>
    rw [List.cons_append, tokensFrom_blank blank, ih, byteCount, Nat.add_assoc]
  | @lexeme position piece after lexeme tokens isLexeme endsPiece more ih =>
    rw [List.append_assoc, tokensFrom_lexeme isLexeme (endsPiece.append ends), ih, byteCount_append,
      Nat.add_assoc]
    cases tokensFrom (position + (byteCount piece + byteCount after)) rest <;> rfl

/-- A quote starts no word. -/
theorem startsNoWord_quote {quote : Char} (isQuote : quote = '"' ∨ quote = '\'')
    (rest : List Char) : StartsNoWord (quote :: rest) := by
  apply startsNoWord_cons
  rcases isQuote with rfl | rfl <;> decide

/-- A row of segments has its tokens. -/
theorem tokensFrom_of_segmented (segmented : Segmented position before tokens) :
    tokensFrom position before = .ok tokens := by
  have ends : StartsNoWord [] := by simp [StartsNoWord]
  have cut := tokensFrom_append segmented ends
  rw [List.append_nil, tokensFrom] at cut
  simpa [Except.map] using cut

/-- A string that is not closed is an error. -/
theorem tokensFrom_of_openString {text : List Char} {e : SyntaxError}
    (isOpen : OpenString position text e) : tokensFrom position text = .error e := by
  cases isOpen with
  | @unknownEscape quote letter body content after isQuote isBody unknown =>
    have refused : quotedRest quote (body ++ '\\' :: letter :: after) =
        .badEscape (byteCount body) letter := by
      rw [quotedRest_body isQuote isBody, quotedRest_unknown isQuote unknown]
      rfl
    have place : position + byteCount (quote :: body) =
        position + quote.utf8Size + byteCount body := (Nat.add_assoc _ _ _).symm
    rw [List.cons_append, tokensFrom_quote isQuote, refused, place]
  | @unclosed quote body content ending isQuote isBody ended =>
    have refused : quotedRest quote (body ++ ending) = .unclosed := by
      rw [quotedRest_body isQuote isBody, quotedRest_ended isQuote ended]
      rfl
    rw [List.cons_append, tokensFrom_quote isQuote, refused]

/-- A string that is not closed starts with a quote, which starts no word. -/
theorem startsNoWord_of_openString {text : List Char} {e : SyntaxError}
    (isOpen : OpenString position text e) : StartsNoWord text := by
  cases isOpen with
  | unknownEscape isQuote _ _ => exact startsNoWord_quote isQuote _
  | unclosed isQuote _ _ => exact startsNoWord_quote isQuote _

/-- What starts with neither a blank nor an open string starts with a lexeme. -/
theorem exists_lexeme (position : Nat) {c : Char} (notBlank : ¬Text.isBlank c = true)
    (rest : List Char) :
    (∃ piece lexeme after, c :: rest = piece ++ after ∧ IsLexeme piece lexeme ∧
      lexeme.EndsBefore after) ∨ ∃ e, OpenString position (c :: rest) e := by
  by_cases isOpening : c = '('
  · exact .inl ⟨['('], .opening, rest, by rw [isOpening]; rfl, .opening, trivial⟩
  by_cases isClosing : c = ')'
  · exact .inl ⟨[')'], .closing, rest, by rw [isClosing]; rfl, .closing, trivial⟩
  by_cases isQuote : c = '"' ∨ c = '\''
  · obtain ⟨body, content, unread, rfl, isBody, stops⟩ := exists_body c rest
    rcases stops with ⟨after, rfl⟩ | ⟨letter, after, rfl, unknown⟩ | ended
    · exact .inl ⟨c :: body ++ [c], .quoted (String.ofList content), after, by simp,
        .quoted isQuote isBody, trivial⟩
    · exact .inr ⟨_, .unknownEscape isQuote isBody unknown⟩
    · exact .inr ⟨_, .unclosed isQuote isBody ended⟩
  have inWord : isWordChar c = true :=
    isWordChar_iff.2 ⟨notBlank, isOpening, isClosing, isQuote⟩
  refine .inl ⟨c :: rest.takeWhile isWordChar,
    .word (String.ofList (c :: rest.takeWhile isWordChar)), rest.dropWhile isWordChar, ?_,
    .word (List.cons_ne_nil _ _) ?_, ?_⟩
  · rw [List.cons_append, List.takeWhile_append_dropWhile]
  · exact List.forall_mem_cons.2 ⟨inWord, fun d taken => List.mem_takeWhile_imp taken⟩
  · intro d starts
    have kept := List.head?_dropWhile_not isWordChar rest
    rw [Option.mem_def.1 starts] at kept
    simpa using kept

/-- A lexeme has at least one character. -/
theorem IsLexeme.ne_nil (isLexeme : IsLexeme piece lexeme) : piece ≠ [] := by
  cases isLexeme with
  | word nonempty _ => exact nonempty
  | opening => simp
  | closing => simp
  | quoted _ _ => simp

/-- Every text is a row of segments up to its end, or up to a string that is not closed. -/
theorem exists_segmented (position : Nat) (text : List Char) :
    ∃ before tokens ending, text = before ++ ending ∧ Segmented position before tokens ∧
      (ending = [] ∨ ∃ e, OpenString (position + byteCount before) ending e) := by
  match text with
  | [] => exact ⟨[], [], [], rfl, .nil, .inl rfl⟩
  | c :: rest =>
    by_cases blank : Text.isBlank c = true
    · obtain ⟨before, tokens, ending, split, segmented, ends⟩ :=
        exists_segmented (position + c.utf8Size) rest
      refine ⟨c :: before, tokens, ending, by rw [split]; rfl, .blank blank segmented, ?_⟩
      rwa [byteCount, ← Nat.add_assoc]
    rcases exists_lexeme position blank rest with
      ⟨piece, lexeme, after, starts, isLexeme, endsPiece⟩ | ⟨e, isOpen⟩
    · have shorter : after.length < (c :: rest).length := by
        have positive := List.length_pos_iff.2 isLexeme.ne_nil
        rw [starts, List.length_append]
        omega
      obtain ⟨before, tokens, ending, split, segmented, ends⟩ :=
        exists_segmented (position + byteCount piece) after
      rw [split] at endsPiece
      refine ⟨piece ++ before, ⟨lexeme, position⟩ :: tokens, ending, ?_,
        .lexeme isLexeme endsPiece.of_append segmented, ?_⟩
      · rw [starts, split, List.append_assoc]
      · rwa [byteCount_append, ← Nat.add_assoc]
    · exact ⟨[], [], c :: rest, rfl, .nil, .inr ⟨e, isOpen⟩⟩
termination_by text.length
decreasing_by
  · exact Nat.lt_succ_self _
  · exact shorter

end Cutting

section Places

variable {position : Nat} {text : List Char} {tokens : List Token}

/-- Every token says where its lexeme stands in a row of segments. -/
theorem Segmented.exists_piece (segmented : Segmented position text tokens) :
    ∀ token ∈ tokens, ∃ before piece after, text = before ++ piece ++ after ∧
      IsLexeme piece token.lexeme ∧ token.position = position + byteCount before := by
  induction segmented with
  | nil =>
    intro token isToken
    cases isToken
  | @blank position c rest tokens _ _ ih =>
    intro token isToken
    obtain ⟨before, piece, after, rfl, isLexeme, place⟩ := ih token isToken
    refine ⟨c :: before, piece, after, rfl, isLexeme, ?_⟩
    rw [place, byteCount, Nat.add_assoc]
  | @lexeme position first rest lexeme tokens isFirst _ _ ih =>
    intro token isToken
    rcases List.mem_cons.1 isToken with rfl | isLater
    · exact ⟨[], first, rest, rfl, isFirst, rfl⟩
    · obtain ⟨before, piece, after, rfl, isLexeme, place⟩ := ih token isLater
      refine ⟨first ++ before, piece, after, by simp, isLexeme, ?_⟩
      rw [place, byteCount_append, Nat.add_assoc]

/-- The tokens of a row of segments stand one after another. -/
theorem Segmented.increasing (segmented : Segmented position text tokens) :
    tokens.Pairwise fun first second => first.position < second.position := by
  induction segmented with
  | nil => exact .nil
  | blank _ _ ih => exact ih
  | @lexeme position piece rest lexeme tokens isLexeme _ more ih =>
    refine List.pairwise_cons.2 ⟨?_, ih⟩
    intro token isToken
    obtain ⟨before, -, -, -, -, place⟩ := more.exists_piece token isToken
    obtain ⟨c, others, rfl⟩ := List.exists_cons_of_ne_nil isLexeme.ne_nil
    have positive : 0 < c.utf8Size := c.utf8Size_pos
    have bytes : byteCount (c :: others) = c.utf8Size + byteCount others := rfl
    dsimp only
    omega

end Places

section Moved

/-- The token so many bytes further on. -/
def Token.moved (bytes : Nat) (token : Token) : Token :=
  ⟨token.lexeme, bytes + token.position⟩

/-- A token is the same wherever it stands. -/
theorem lexemes_moved (bytes : Nat) (tokens : List Token) :
    lexemes (tokens.map (Token.moved bytes)) = lexemes tokens := by
  unfold lexemes
  rw [List.map_map]
  rfl

/-- A row of segments stays one wherever it starts, with its tokens so much further on. -/
theorem Segmented.moved {position : Nat} {text : List Char} {tokens : List Token}
    (segmented : Segmented position text tokens) (bytes : Nat) :
    Segmented (bytes + position) text (tokens.map (Token.moved bytes)) := by
  induction segmented with
  | nil => exact .nil
  | blank blank _ ih =>
    rw [← Nat.add_assoc] at ih
    exact .blank blank ih
  | lexeme isLexeme ends _ ih =>
    rw [← Nat.add_assoc] at ih
    exact .lexeme isLexeme ends ih

end Moved

/-- A text is a row of segments, or it has a first defect. -/
theorem segmented_or_defect (text : List Char) :
    (∃ tokens, Segmented 0 text tokens) ∨ ∃ e, Defect text e := by
  obtain ⟨before, tokens, ending, rfl, segmented, rfl | ⟨e, isOpen⟩⟩ := exists_segmented 0 text
  · exact .inl ⟨tokens, by rwa [List.append_nil]⟩
  · rw [Nat.zero_add] at isOpen
    exact .inr ⟨e, before, tokens, ending, rfl, segmented, isOpen⟩

/-- The first defect of a text is its error. -/
theorem tokensFrom_of_defect {text : List Char} {e : SyntaxError} (defect : Defect text e) :
    tokensFrom 0 text = .error e := by
  obtain ⟨before, tokens, ending, rfl, segmented, isOpen⟩ := defect
  rw [tokensFrom_append segmented (startsNoWord_of_openString isOpen), Nat.zero_add,
    tokensFrom_of_openString isOpen]
  rfl

/-- The tokens of a text are those of which it is a row. -/
theorem tokenize_eq_ok_iff {text : String} {tokens : List Token} :
    tokenize text = .ok tokens ↔ Segmented 0 text.toList tokens := by
  refine ⟨?_, tokensFrom_of_segmented⟩
  intro cut
  rcases segmented_or_defect text.toList with ⟨others, segmented⟩ | ⟨e, defect⟩
  · have same := (tokensFrom_of_segmented segmented).symm.trans cut
    cases same
    exact segmented
  · have same := (tokensFrom_of_defect defect).symm.trans cut
    cases same

/-- A text that has tokens is cut into their lexemes wherever it stands, in front of a text that
does not continue it. -/
theorem lexes_of_tokenize {text : String} {tokens : List Token} {rest : List Char}
    (cut : tokenize text = .ok tokens) (ends : StartsNoWord rest) :
    Lexes text.toList (lexemes tokens) rest := by
  intro position
  have segmented := (tokenize_eq_ok_iff.1 cut).moved position
  exact ⟨_, _, lexemes_moved position tokens, tokensFrom_append segmented ends⟩

/-- The lexical error of a text is its first defect. -/
theorem tokenize_eq_error_iff {text : String} {e : SyntaxError} :
    tokenize text = .error e ↔ Defect text.toList e := by
  refine ⟨?_, tokensFrom_of_defect⟩
  intro refused
  rcases segmented_or_defect text.toList with ⟨tokens, segmented⟩ | ⟨other, defect⟩
  · have same := (tokensFrom_of_segmented segmented).symm.trans refused
    cases same
  · have same := (tokensFrom_of_defect defect).symm.trans refused
    cases same
    exact defect

/-- An error at the end of the input is as far in as the text is long. -/
theorem position_of_defect {text : String} {e : SyntaxError} (defect : Defect text.toList e)
    (atEnd : e.found = .endOfInput) : e.position = text.utf8ByteSize := by
  obtain ⟨before, tokens, ending, split, -, isOpen⟩ := defect
  rw [← Text.byteCount_toList, split, byteCount_append]
  cases isOpen with
  | unknownEscape _ _ _ => cases atEnd
  | unclosed _ _ _ => rfl

/-- The lexer is lossless and exact. Its tokens are those of which the text is a row of segments, at
increasing places where a character of the text starts. It fails with the first defect of the text,
which is at its end where a string is open there. -/
theorem tokenize_exact (text : String) :
    (∀ tokens, tokenize text = .ok tokens ↔ Segmented 0 text.toList tokens) ∧
      (∀ tokens, tokenize text = .ok tokens →
        (tokens.Pairwise fun first second => first.position < second.position) ∧
          ∀ token ∈ tokens, ∃ before piece after, text.toList = before ++ piece ++ after ∧
            IsLexeme piece token.lexeme ∧ token.position = byteCount before) ∧
      (∀ e, tokenize text = .error e ↔ Defect text.toList e) ∧
      ∀ e, tokenize text = .error e → e.found = .endOfInput → e.position = text.utf8ByteSize := by
  refine ⟨fun _ => tokenize_eq_ok_iff, ?_, fun _ => tokenize_eq_error_iff, ?_⟩
  · intro tokens cut
    have segmented := tokenize_eq_ok_iff.1 cut
    refine ⟨segmented.increasing, ?_⟩
    intro token isToken
    obtain ⟨before, piece, after, split, isLexeme, place⟩ := segmented.exists_piece token isToken
    rw [Nat.zero_add] at place
    exact ⟨before, piece, after, split, isLexeme, place⟩
  · intro e refused atEnd
    exact position_of_defect (tokenize_eq_error_iff.1 refused) atEnd

end RecordSearch.Filter
