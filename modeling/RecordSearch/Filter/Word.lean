import RecordSearch.Filter.Tree
import RecordSearch.Number.Decimal
import RecordSearch.Text.Digits

/-!
# What bare words mean

The three keywords, the dotted names that can be fields, and the literal that a word denotes: a
number, a truth value, null, or else the word itself as a string.
-/

namespace RecordSearch.Filter

/-- A word with a meaning of its own in a filter text. -/
inductive Keyword where
  | and | or | not
  deriving DecidableEq

/-- The spelling of a keyword. -/
def Keyword.word : Keyword → String
  | and => "and"
  | or => "or"
  | not => "not"

/-- `is_keyword` — the keyword that a word is, in any letter case. -/
def keyword? (word : String) : Option Keyword :=
  [Keyword.and, .or, .not].find? fun keyword => Text.sameLetters keyword.word word

/-- The connective that a keyword is. -/
def Keyword.connective? : Keyword → Option Connective
  | and => some .and
  | or => some .or
  | not => none

section Fields

/-- Whether a character can start a segment of a field name. -/
def isFieldStart (c : Char) : Bool := c.isAlpha || c == '_'

/-- Whether a character can stand inside a segment of a field name. -/
def isFieldPart (c : Char) : Bool := c.isAlphanum || c == '_'

/-- Whether the text goes on as a field name; `starting` where a segment has to start. -/
def isFieldFrom (starting : Bool) : List Char → Bool
  | [] => !starting
  | c :: rest =>
    if starting then isFieldStart c && isFieldFrom false rest
    else if c = '.' then isFieldFrom true rest
    else isFieldPart c && isFieldFrom false rest

/-- `is_field` — whether a word is a dotted identifier of ASCII letters, digits and underscores. -/
def isFieldName (word : String) : Bool := isFieldFrom true word.toList

end Fields

section Numbers

/-- The exponent that the end of a number gives: nothing, or a letter, a sign and digits. -/
def exponent? : List Char → Option Int
  | [] => some 0
  | c :: rest =>
    let (negative, ds) := Text.signed rest
    if (c = 'e' ∨ c = 'E') ∧ ds ≠ [] ∧ ds.all Char.isDigit then
      some (Text.withSign negative (Text.numeralValue 10 ds))
    else none

/-- The digits of the fraction and the text after them; no point is no fraction. -/
def fraction : List Char → List Char × List Char
  | '.' :: rest => (rest.takeWhile Char.isDigit, rest.dropWhile Char.isDigit)
  | text => ([], text)

/-- The sign and the value of a decimal number: digits with an optional point among, before or after
them, and an optional exponent. -/
def decimal? (text : List Char) : Option (Bool × Decimal) := do
  let (negative, unsigned) := Text.signed text
  let whole := unsigned.takeWhile Char.isDigit
  let (decimals, rest) := fraction (unsigned.dropWhile Char.isDigit)
  if whole = [] ∧ decimals = [] then none
  let exponent ← exponent? rest
  return (negative, ⟨Text.numeralValue 10 (whole ++ decimals), exponent - decimals.length⟩)

/-- What a text denotes as a floating-point number. -/
inductive FloatValue where
  | finite (value : Double)
  | infinite (negative : Bool)
  | notANumber
  deriving DecidableEq

/-- The double nearest to a decimal, or infinity where that is out of range. -/
def FloatValue.ofDecimal (negative : Bool) (d : Decimal) : FloatValue :=
  match d.nearest? negative with
  | some value => finite value
  | none => infinite negative

/-- What a name without digits denotes, in any letter case. -/
def namedFloat? (negative : Bool) (name : String) : Option FloatValue :=
  if Text.sameLetters name "inf" ∨ Text.sameLetters name "infinity" then some (.infinite negative)
  else if Text.sameLetters name "nan" then some .notANumber
  else none

/-- What a text denotes in the standard notation: a decimal number, or a name for infinity or for
what is not a number, with an optional sign. -/
def float? (text : List Char) : Option FloatValue :=
  match decimal? text with
  | some (negative, d) => some (.ofDecimal negative d)
  | none => namedFloat? (Text.signed text).1 (String.ofList (Text.signed text).2)

/-- Whether a character can stand in a decimal number. -/
def isNumericChar (c : Char) : Bool := c.isDigit || ['.', 'e', 'E', '-', '+'].contains c

/-- Whether a text can be a decimal number by its characters; after a sign there has to be a digit
or a point. -/
def looksNumeric (text : List Char) : Bool :=
  let unsigned := (Text.signed text).2
  unsigned.head?.any (fun c => c.isDigit || c == '.') && unsigned.all isNumericChar

/-- `parse_number` — the finite number that a word denotes. Names of numbers denote none. -/
def number? (word : String) : Option Double :=
  if looksNumeric word.toList then
    match float? word.toList with
    | some (.finite value) => some value
    | _ => none
  else none

end Numbers

/-- `word_literal` — the literal that a word denotes. -/
def wordLiteral (word : String) : Literal :=
  match number? word with
  | some value => .number value
  | none =>
    if Text.sameLetters word "true" then .bool true
    else if Text.sameLetters word "false" then .bool false
    else if Text.sameLetters word "null" then .null
    else .string word

end RecordSearch.Filter
