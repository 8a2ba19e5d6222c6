import RecordSearch.Proofs.Filter.Segments

/-!
# Texts behind a blank

Behind a text that has tokens the lexer is in no string, and behind a blank it is in no word either.
A text that follows there is cut as it is alone: into the same tokens, or up to the same error. Only
the byte offsets are further on, by the bytes in front of it; the place of an error and the start
that the error of an open string names are such offsets too.
-/

namespace RecordSearch.Filter

open RecordSearch.Text (byteCount)

section Moved

/-- What was expected, with the offset that it names so many bytes further on. -/
def Expected.moved (bytes : Nat) : Expected → Expected
  | .closingQuote quote start => .closingQuote quote (bytes + start)
  | other => other

/-- The syntax error so many bytes further on. -/
def SyntaxError.moved (bytes : Nat) (e : SyntaxError) : SyntaxError :=
  ⟨bytes + e.position, e.expected.moved bytes, e.found⟩

/-- What a text is cut into, or why it is not, so many bytes further on. -/
def movedTokens (bytes : Nat) : Except SyntaxError (List Token) → Except SyntaxError (List Token)
  | .ok tokens => .ok (tokens.map (Token.moved bytes))
  | .error e => .error (e.moved bytes)

variable {start : Nat} {text : List Char}

/-- A string that is not closed has its error wherever it starts, so much further on. -/
theorem OpenString.moved {e : SyntaxError} (isOpen : OpenString start text e) (bytes : Nat) :
    OpenString (bytes + start) text (e.moved bytes) := by
  cases isOpen with
  | @unknownEscape quote letter body content rest isQuote isBody unknown =>
    show OpenString (bytes + start) _
      ⟨bytes + (start + byteCount (quote :: body)), .escapeSequence, .escape letter⟩
    rw [← Nat.add_assoc]
    exact .unknownEscape isQuote isBody unknown
  | @unclosed quote body content ending isQuote isBody ended =>
    show OpenString (bytes + start) _
      ⟨bytes + (start + byteCount (quote :: body ++ ending)), .closingQuote quote (bytes + start),
        .endOfInput⟩
    rw [← Nat.add_assoc]
    exact .unclosed isQuote isBody ended

/-- Where a text starts shows in the offsets that the lexer reports and in nothing else. -/
theorem tokensFrom_moved (bytes position : Nat) (text : List Char) :
    tokensFrom (bytes + position) text = movedTokens bytes (tokensFrom position text) := by
  -- Every text is a row of segments up to its end or to an open string, and both can be moved.
  obtain ⟨before, tokens, ending, rfl, segmented, stops⟩ := exists_segmented position text
  have moved := segmented.moved bytes
  rcases stops with rfl | ⟨e, isOpen⟩
  · rw [List.append_nil, tokensFrom_of_segmented segmented, tokensFrom_of_segmented moved]
    rfl
  · have ends := startsNoWord_of_openString isOpen
    rw [tokensFrom_append segmented ends, tokensFrom_of_openString isOpen,
      tokensFrom_append moved ends, Nat.add_assoc,
      tokensFrom_of_openString (isOpen.moved bytes)]
    rfl

end Moved

/-- Behind a text that has tokens and a blank, any text is cut into the tokens that it has alone, or
refused for the error that it has alone, as many bytes further on as stand in front of it. -/
theorem tokenize_separated {left : String} {tokens : List Token} {separator : Char}
    (cut : tokenize left = .ok tokens) (blank : Text.isBlank separator = true) (right : String) :
    tokenize (left ++ String.singleton separator ++ right) =
      match tokenize right with
      | .ok more =>
        .ok (tokens ++
          more.map (Token.moved (left ++ String.singleton separator).utf8ByteSize))
      | .error e => .error (e.moved (left ++ String.singleton separator).utf8ByteSize) := by
  have segmented := tokenize_eq_ok_iff.1 cut
  have ends : StartsNoWord (separator :: right.toList) := startsNoWord_of_blank blank
  have bytes : (left ++ String.singleton separator).utf8ByteSize =
      0 + byteCount left.toList + separator.utf8Size := by
    rw [String.utf8ByteSize_append, String.utf8ByteSize_singleton, Text.byteCount_toList,
      Nat.zero_add]
  have split : (left ++ String.singleton separator ++ right).toList =
      left.toList ++ separator :: right.toList := by
    simp
  unfold tokenize
  rw [split, tokensFrom_append segmented ends, tokensFrom_blank blank, ← bytes]
  have moved := tokensFrom_moved (left ++ String.singleton separator).utf8ByteSize 0 right.toList
  rw [Nat.add_zero] at moved
  rw [moved]
  cases tokensFrom 0 right.toList <;> rfl

/-- Behind two characters of five bytes an open string has its end and its start five bytes further
on. -/
theorem tokenize_separated_openString :
    tokenize "é" = .ok [⟨.word "é", 0⟩] ∧ Text.isBlank '\u3000' = true ∧
      tokenize "\"x" = .error ⟨2, .closingQuote '"' 0, .endOfInput⟩ ∧
      tokenize "é\u3000\"x" = .error ⟨7, .closingQuote '"' 5, .endOfInput⟩ := by
  have word : Segmented 0 ("é".toList ++ []) [⟨.word "é", 0⟩] :=
    .word (by decide) (List.all_eq_true.1 (by decide)) (by simp [StartsNoWord]) .nil
  have cut : tokenize "é" = .ok [⟨.word "é", 0⟩] := tokenize_eq_ok_iff.2 word
  have blank : Text.isBlank '\u3000' = true := by decide
  have isOpen : OpenString 0 ['"', 'x'] ⟨2, .closingQuote '"' 0, .endOfInput⟩ :=
    .unclosed (.inl rfl) (.plain (by decide) (by decide) .nil) (.inl rfl)
  have alone : tokenize "\"x" = .error ⟨2, .closingQuote '"' 0, .endOfInput⟩ :=
    tokenize_eq_error_iff.2 ⟨[], [], ['"', 'x'], rfl, .nil, isOpen⟩
  have behind := tokenize_separated cut blank "\"x"
  rw [alone] at behind
  have bytes : ("é" ++ String.singleton '\u3000').utf8ByteSize = 5 := by decide
  simp only [bytes] at behind
  exact ⟨cut, blank, alone, behind⟩

end RecordSearch.Filter
