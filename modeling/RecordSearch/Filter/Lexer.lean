import RecordSearch.Filter.Token
import RecordSearch.Text.Utf8

/-!
# From text to tokens

Blanks separate tokens, parentheses and quoted strings also end the word before them. Strings stand
in either kind of quotes and know five escapes.
-/

namespace RecordSearch.Filter

open RecordSearch.Text (byteCount)

/-- Whether a character can stand in a bare word. -/
def isWordChar (c : Char) : Bool :=
  !(Text.isBlank c || c == '(' || c == ')' || c == '"' || c == '\'')

/-- The character that an escape letter stands for. -/
def escapedChar? (letter : Char) : Option Char :=
  if letter = 'n' then some '\n'
  else if letter = 't' then some '\t'
  else if letter = '\\' ∨ letter = '"' ∨ letter = '\'' then some letter
  else none

/-- What follows an opening quote. -/
inductive QuotedRest where
  /-- The string, the number of bytes it takes with its closing quote, and the text after it. -/
  | closed (content : List Char) (bytes : Nat) (rest : List Char)
  /-- An unknown escape after so many bytes. -/
  | badEscape (bytes : Nat) (letter : Char)
  /-- The text ends before the closing quote. -/
  | unclosed

/-- The rest one character earlier, which takes so many bytes and stands for `c`. -/
def QuotedRest.prepend (c : Char) (bytes : Nat) : QuotedRest → QuotedRest
  | closed content more rest => closed (c :: content) (bytes + more) rest
  | badEscape more letter => badEscape (bytes + more) letter
  | unclosed => unclosed

/-- Reads a string up to its closing quote. -/
def quotedRest (quote : Char) : List Char → QuotedRest
  | [] => .unclosed
  | c :: rest =>
    if c = quote then .closed [] c.utf8Size rest
    else if c = '\\' then
      match rest with
      | [] => .unclosed
      | letter :: rest =>
        match escapedChar? letter with
        | some escaped =>
          (quotedRest quote rest).prepend escaped (c.utf8Size + letter.utf8Size)
        | none => .badEscape 0 letter
    else (quotedRest quote rest).prepend c c.utf8Size

theorem QuotedRest.prepend_eq_closed {c : Char} {bytes total : Nat} {found : QuotedRest}
    {content rest : List Char} (same : found.prepend c bytes = closed content total rest) :
    ∃ inner more, found = closed inner more rest := by
  cases found with
  | closed inner more after =>
    simp only [prepend, closed.injEq] at same
    exact ⟨inner, more, by rw [same.2.2]⟩
  | badEscape _ _ => simp [prepend] at same
  | unclosed => simp [prepend] at same

/-- The text after a string is shorter than the text from its first character. -/
theorem length_of_quotedRest {quote : Char} {text content rest : List Char} {bytes : Nat}
    (closed : quotedRest quote text = .closed content bytes rest) : rest.length < text.length := by
  fun_induction quotedRest quote text generalizing content bytes with
  | case1 => simp at closed
  | case2 after =>
    simp only [QuotedRest.closed.injEq] at closed
    simp [closed.2.2]
  | case3 => simp at closed
  | case4 _ letter after escaped _ ih =>
    obtain ⟨inner, more, found⟩ := QuotedRest.prepend_eq_closed closed
    have shorter := ih found
    simp only [List.length_cons]
    omega
  | case5 => simp at closed
  | case6 c after _ _ ih =>
    obtain ⟨inner, more, found⟩ := QuotedRest.prepend_eq_closed closed
    have shorter := ih found
    simp only [List.length_cons]
    omega

/-- The loop of `tokenize`: the tokens of a text that starts after `position` bytes. -/
def tokensFrom (position : Nat) : List Char → Except SyntaxError (List Token)
  | [] => .ok []
  | c :: rest =>
    if Text.isBlank c then tokensFrom (position + c.utf8Size) rest
    else if c = '(' then
      (tokensFrom (position + c.utf8Size) rest).map (⟨.opening, position⟩ :: ·)
    else if c = ')' then
      (tokensFrom (position + c.utf8Size) rest).map (⟨.closing, position⟩ :: ·)
    else if c = '"' ∨ c = '\'' then
      match found : quotedRest c rest with
      | .closed content bytes after =>
        have : after.length < rest.length := length_of_quotedRest found
        (tokensFrom (position + c.utf8Size + bytes) after).map
          (⟨.quoted (String.ofList content), position⟩ :: ·)
      | .badEscape bytes letter =>
        .error ⟨position + c.utf8Size + bytes, .escapeSequence, .escape letter⟩
      | .unclosed =>
        .error ⟨position + byteCount (c :: rest), .closingQuote c position, .endOfInput⟩
    else
      let word := c :: rest.takeWhile isWordChar
      have : (rest.dropWhile isWordChar).length ≤ rest.length :=
        (List.dropWhile_sublist _).length_le
      (tokensFrom (position + byteCount word) (rest.dropWhile isWordChar)).map
        (⟨.word (String.ofList word), position⟩ :: ·)
termination_by text => text.length
decreasing_by all_goals simp only [List.length_cons]; omega

/-- `tokenize` — the tokens of a text, or its first lexical error. -/
def tokenize (text : String) : Except SyntaxError (List Token) := tokensFrom 0 text.toList

end RecordSearch.Filter
