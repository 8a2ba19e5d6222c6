import RecordSearch.Toml.Scalar

/-!
# Quoted TOML strings

A string stands between quotes or apostrophes, one of them on each side for a single line and three
for several lines. Only quotes let a backslash escape.
-/

namespace RecordSearch.Toml

/-- The contents of a string and the text after its closing mark. -/
abbrev Contents := List Char × List Char

/-- The contents with one more character in front. -/
def Contents.cons (c : Char) (contents : Contents) : Contents := (c :: contents.1, contents.2)

/-- Whether a character stands for itself within a line: a tab, or no control character. -/
def isPlain (c : Char) : Bool := c == '\t' || (' ' ≤ c && c != '\x7f')

/-- Whether a character separates words within a line. -/
def isBlank (c : Char) : Bool := c == ' ' || c == '\t'

/-- The text after the blanks at its start. -/
def skipBlanks (text : List Char) : List Char := text.dropWhile isBlank

/-- The text after the line break at its start. -/
def newline? : List Char → Option (List Char)
  | '\n' :: rest => some rest
  | '\r' :: '\n' :: rest => some rest
  | _ => none

/-- The character whose code point the next hexadecimal digits give, and the text after them. -/
def codePoint? (count : Nat) (text : List Char) : Option (Char × List Char) :=
  let digits := text.take count
  let value := Text.numeralValue 16 digits
  if digits.length = count ∧ digits.all Text.isHexDigit ∧ value.isValidChar then
    some (Char.ofNat value, text.drop count)
  else none

/-- The character that an escape stands for, and the text after it. -/
def escape? : List Char → Option (Char × List Char)
  | 'b' :: rest => some ('\x08', rest)
  | 't' :: rest => some ('\t', rest)
  | 'n' :: rest => some ('\n', rest)
  | 'f' :: rest => some ('\x0c', rest)
  | 'r' :: rest => some ('\r', rest)
  | 'e' :: rest => some ('\x1b', rest)
  | '"' :: rest => some ('"', rest)
  | '\\' :: rest => some ('\\', rest)
  | 'x' :: rest => codePoint? 2 rest
  | 'u' :: rest => codePoint? 4 rest
  | 'U' :: rest => codePoint? 8 rest
  | _ => none

/-- The text after the blanks and line breaks at its start. -/
def skipSpace : List Char → List Char
  | '\r' :: '\n' :: rest => skipSpace rest
  | c :: rest => if isBlank c || c == '\n' then skipSpace rest else c :: rest
  | [] => []

/-- The text after three closing marks; two more of them can end the contents. -/
def closeLines (mark : Char) (rest : List Char) : Contents :=
  let inside := (rest.take 2).takeWhile (· == mark)
  (inside, rest.drop inside.length)

/-- The contents of a string in quotes on a single line. -/
def quotedLine? : Nat → List Char → Option Contents
  | 0, _ => none
  | _, [] => none
  | _, '"' :: rest => some ([], rest)
  | fuel + 1, '\\' :: rest => do
    let (c, rest) ← escape? rest
    return (← quotedLine? fuel rest).cons c
  | fuel + 1, c :: rest => do
    let contents ← quotedLine? fuel rest
    if isPlain c then return contents.cons c else none

/-- The contents of a string in quotes on several lines. A backslash at the end of a line hides the
space up to the next visible character. -/
def quotedLines? : Nat → List Char → Option Contents
  | 0, _ => none
  | _, [] => none
  | _, '"' :: '"' :: '"' :: rest => some (closeLines '"' rest)
  | fuel + 1, '\\' :: rest =>
    match newline? (skipBlanks rest) with
    | some rest => quotedLines? fuel (skipSpace rest)
    | none => do
      let (c, rest) ← escape? rest
      return (← quotedLines? fuel rest).cons c
  | fuel + 1, c :: rest => do
    let contents ← quotedLines? fuel rest
    if isPlain c || (newline? (c :: rest)).isSome then return contents.cons c else none

/-- The contents of a string in apostrophes on a single line. -/
def literalLine? : List Char → Option Contents
  | [] => none
  | '\x27' :: rest => some ([], rest)
  | c :: rest => do
    let contents ← literalLine? rest
    if isPlain c then return contents.cons c else none

/-- The contents of a string in apostrophes on several lines. -/
def literalLines? : List Char → Option Contents
  | [] => none
  | '\x27' :: '\x27' :: '\x27' :: rest => some (closeLines '\x27' rest)
  | c :: rest => do
    let contents ← literalLines? rest
    if isPlain c || (newline? (c :: rest)).isSome then return contents.cons c else none

/-- The text after the line break that may follow the marks of a string on several lines. -/
def skipFirstBreak (text : List Char) : List Char := (newline? text).getD text

/-- The string on a single line at the start of a text. -/
def line? : List Char → Option Contents
  | '"' :: rest => quotedLine? (rest.length + 1) rest
  | '\x27' :: rest => literalLine? rest
  | _ => none

/-- The string at the start of a text. -/
def quoted? : List Char → Option Contents
  | '"' :: '"' :: '"' :: rest => quotedLines? (rest.length + 1) (skipFirstBreak rest)
  | '\x27' :: '\x27' :: '\x27' :: rest => literalLines? (skipFirstBreak rest)
  | text => line? text

end RecordSearch.Toml
