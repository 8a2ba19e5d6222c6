import RecordSearch.Toml.Quoted
import RecordSearch.Toml.Table

/-!
# Reading TOML text

A document is a list of statements, each on lines of its own, and comments. Arrays and inline tables
can go over several lines, and `maxLevels` of them can stand inside each other.
-/

namespace RecordSearch.Toml

/-- The most arrays and inline tables inside each other. -/
def maxLevels : Nat := 80

/-- Whether a character can stand in a name without quotes. -/
def isNameChar (c : Char) : Bool := c.isAlphanum || c == '_' || c == '-'

/-- The text after the blanks and the comment at its start, up to the end of the line. -/
def skipComment? (text : List Char) : Option (List Char) :=
  match skipBlanks text with
  | '#' :: rest =>
    let comment := rest.takeWhile fun c => c != '\n' && c != '\r'
    if comment.all isPlain then some (rest.drop comment.length) else none
  | rest => some rest

/-- The text after the blanks, comments and line breaks at its start. -/
def skipLines? (text : List Char) : Option (List Char) := go text.length text
where
  /-- The text after so many lines at most. -/
  go : Nat → List Char → Option (List Char)
    | 0, text => skipComment? text
    | fuel + 1, text => do
      let rest ← skipComment? text
      match newline? rest with
      | some rest => go fuel rest
      | none => return rest

/-- The name at the start of a text. -/
def name? (text : List Char) : Option Contents :=
  match text with
  | '"' :: _ | '\x27' :: _ => line? text
  | _ =>
    let name := text.takeWhile isNameChar
    if name.isEmpty then none else some (name, text.drop name.length)

/-- The dotted key at the start of a text, and the text after it and the blanks there. -/
def key? : Nat → List Char → Option (Key × List Char)
  | 0, _ => none
  | fuel + 1, text => do
    let (name, rest) ← name? (skipBlanks text)
    match skipBlanks rest with
    | '.' :: more => do
      let (names, rest) ← key? fuel more
      return (String.ofList name :: names, rest)
    | rest => return ([String.ofList name], rest)

mutual

/-- The value at the start of a text; `levels` more arrays and tables can open. -/
def value? : Nat → Nat → List Char → Option (Toml × List Char)
  | 0, _, _ => none
  | fuel + 1, levels, text =>
    match levels, text with
    | 0, '[' :: _ => none
    | 0, '{' :: _ => none
    | levels + 1, '[' :: rest => do
      let (items, rest) ← items? fuel levels (← skipLines? rest)
      return (.array items, rest)
    | levels + 1, '{' :: rest => do
      let (members, rest) ← members? fuel levels (← skipLines? rest)
      return (← ofStatements? (members.map fun member => .assign member.1 member.2), rest)
    | _, '"' :: _ | _, '\x27' :: _ =>
      (quoted? text).map fun contents => (.string (String.ofList contents.1), contents.2)
    | _, _ => scalar? text

/-- The items of an array up to its bracket; a comma may end them. -/
def items? : Nat → Nat → List Char → Option (List Toml × List Char)
  | 0, _, _ => none
  | _, _, ']' :: rest => some ([], rest)
  | fuel + 1, levels, text => do
    let (item, rest) ← value? fuel levels text
    match ← skipLines? rest with
    | ']' :: rest => return ([item], rest)
    | ',' :: rest => do
      let (items, rest) ← items? fuel levels (← skipLines? rest)
      return (item :: items, rest)
    | _ => none

/-- The members of an inline table up to its brace; a comma may end them. -/
def members? : Nat → Nat → List Char → Option (List (Key × Toml) × List Char)
  | 0, _, _ => none
  | _, _, '}' :: rest => some ([], rest)
  | fuel + 1, levels, text => do
    let (member, rest) ← member? fuel levels text
    match ← skipLines? rest with
    | '}' :: rest => return ([member], rest)
    | ',' :: rest => do
      let (members, rest) ← members? fuel levels (← skipLines? rest)
      return (member :: members, rest)
    | _ => none

/-- The key and the value at the start of a text. -/
def member? : Nat → Nat → List Char → Option ((Key × Toml) × List Char)
  | 0, _, _ => none
  | fuel + 1, levels, text =>
    match key? text.length text with
    | some (key, '=' :: rest) => do
      let (value, rest) ← value? fuel levels (skipBlanks rest)
      return ((key, value), rest)
    | _ => none

end

/-- The statement at the start of a text. -/
def statement? (text : List Char) : Option (Statement × List Char) :=
  match text with
  | '[' :: '[' :: rest =>
    match key? rest.length rest with
    | some (key, ']' :: ']' :: rest) => some (.openItem key, rest)
    | _ => none
  | '[' :: rest =>
    match key? rest.length rest with
    | some (key, ']' :: rest) => some (.openTable key, rest)
    | _ => none
  | _ =>
    (member? (2 * text.length + 2) maxLevels text).map fun (member, rest) =>
      (.assign member.1 member.2, rest)

/-- The statements of a text, of which there are at most so many. -/
def statements? : Nat → List Char → Option (List Statement)
  | 0, _ => none
  | fuel + 1, text => do
    match ← skipLines? text with
    | [] => return []
    | text => do
      let (statement, rest) ← statement? text
      match ← skipComment? rest with
      | [] => return [statement]
      | rest => return statement :: (← statements? fuel (← newline? rest))

/-- The table that a text denotes. A byte order mark at its start is passed over. -/
def ofText? (text : List Char) : Option Toml := do
  let text := if text.head? = some '\ufeff' then text.drop 1 else text
  ofStatements? (← statements? (text.length + 1) text)

end RecordSearch.Toml
