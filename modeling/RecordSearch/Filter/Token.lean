import RecordSearch.Text.Described

/-!
# Tokens of a filter text

A token is a parenthesis, a bare word or a quoted string, with the byte offset of its first
character. A syntax error names a place in the same way, with what was expected there and what was
found.
-/

namespace RecordSearch.Filter

/-- `TokenKind` — what a token is. -/
inductive Lexeme where
  | opening
  | closing
  /-- A run of characters other than blanks, parentheses and quotes. -/
  | word (text : String)
  /-- A quoted string with its escapes resolved. -/
  | quoted (text : String)
  deriving DecidableEq

/-- `Token` — a lexeme and where it starts. -/
structure Token where
  lexeme : Lexeme
  /-- The UTF-8 bytes before the token. -/
  position : Nat
  deriving DecidableEq

/-- `Token::describe` — the lexeme as a message shows it. -/
def Lexeme.description : Lexeme → String
  | opening => "`(`"
  | closing => "`)`"
  | word text => "`" ++ text ++ "`"
  | quoted text => "string " ++ Text.described text

/-- What would have let the text go on. -/
inductive Expected where
  | escapeSequence
  /-- The quote that closes the string that starts at a byte offset. -/
  | closingQuote (quote : Char) (start : Nat)
  | fieldName
  | operator
  | literal
  /-- A closing parenthesis, or more operands before it. -/
  | closingOrConnective
  | connectiveOrEnd
  /-- Fewer levels of nesting. -/
  | shallower
  deriving DecidableEq

/-- What stands where a syntax error is. -/
inductive Found where
  | lexeme (lexeme : Lexeme)
  /-- A backslash and the character after it. -/
  | escape (letter : Char)
  | endOfInput
  deriving DecidableEq

/-- `SyntaxError` — the first place where a text is not a filter. -/
structure SyntaxError where
  /-- The UTF-8 bytes before the place. -/
  position : Nat
  expected : Expected
  found : Found
  deriving DecidableEq

/-- `MAX_DEPTH` — the most levels of parentheses, `not` and changes of connective. -/
def maxDepth : Nat := 64

/-- The wording of what was expected. -/
def Expected.text : Expected → String
  | escapeSequence => "escape sequence (\\\\, \\\", \\', \\n, \\t)"
  | closingQuote quote start =>
    "closing " ++ quote.toString ++ " for string starting at " ++ toString start
  | fieldName => "field name"
  | operator => "operator (eq, ne, gt, gte, lt, lte)"
  | literal => "literal (number, string, true, false or null)"
  | closingOrConnective => "`)`, `and` or `or`"
  | connectiveOrEnd => "`and`, `or` or end of input"
  | shallower => "at most " ++ toString maxDepth ++ " levels of nesting"

/-- The wording of what was found. -/
def Found.text : Found → String
  | .lexeme token => token.description
  | .escape letter => "`\\" ++ letter.toString ++ "`"
  | .endOfInput => "end of input"

/-- The message of a syntax error. -/
def SyntaxError.message (e : SyntaxError) : String :=
  "syntax error at position " ++ toString e.position ++ ": expected " ++ e.expected.text ++
    ", found " ++ e.found.text

end RecordSearch.Filter
