import RecordSearch.Json.Reader
import RecordSearch.Json.Writer
import RecordSearch.Query.Execution
import RecordSearch.Text.Described

/-!
# Bodies of search requests

A query is an object with the members `projection` and `filters`, or the list of their values; the
filter text can be left out. The body is judged in reading order: a value of the wrong shape counts
before a break in the text after it, and the other way round.
-/

namespace RecordSearch

open Json (Outline)

/-- A step from a value to a value inside it. -/
inductive BodyStep where
  | key (key : String)
  | index (index : Nat)
  deriving DecidableEq

/-- What a value turned out to be. -/
inductive BodyValue where
  | null
  | bool (value : Bool)
  | number (value : Json.Number)
  | string (value : String)
  | array
  | object
  deriving DecidableEq

/-- What a value should have been. -/
inductive BodyShape where
  | query | strings | string
  deriving DecidableEq

/-- What is wrong with a value in a body. -/
inductive BodyProblem where
  | wrongType (found : BodyValue) (wanted : BodyShape)
  | missing (field : String)
  | duplicate (field : String)
  /-- The list of field values is empty. -/
  | noFields
  deriving DecidableEq

/-- Why a request has no query. -/
inductive BodyFault where
  /-- The content type is not one of JSON. -/
  | mediaType
  /-- The body is longer than `maxBodyBytes`. -/
  | tooLong
  /-- The body is not JSON. -/
  | malformed
  /-- A value in the body has not the shape of a query. -/
  | unsuitable (path : List BodyStep) (problem : BodyProblem)
  deriving DecidableEq

/-- The most bytes of a request body. -/
def maxBodyBytes : Nat := 2097152

section Messages

/-- How a message names a value. -/
def BodyValue.description : BodyValue → String
  | null => "null"
  | bool true => "boolean `true`"
  | bool false => "boolean `false`"
  | number (.integer value low high) =>
    "integer `" ++ String.ofList (Json.Number.integer value low high).chars ++ "`"
  | number (.double value) =>
    "floating point `" ++ String.ofList (Json.Number.double value).chars ++ "`"
  | string value => "string " ++ Text.described value
  | array => "sequence"
  | object => "map"

/-- How a message names a shape. -/
def BodyShape.description : BodyShape → String
  | query => "struct QueryRequest"
  | strings => "a sequence"
  | string => "a string"

/-- The wording of a problem. -/
def BodyProblem.message : BodyProblem → String
  | wrongType found wanted =>
    "invalid type: " ++ found.description ++ ", expected " ++ wanted.description
  | missing field => "missing field `" ++ field ++ "`"
  | duplicate field => "duplicate field `" ++ field ++ "`"
  | noFields =>
    "invalid length 0, expected " ++ BodyShape.query.description ++ " with 2 elements"

/-- The steps of a path: keys after dots, indices in brackets. -/
def bodyPathText : List BodyStep → String
  | [] => ""
  | .key key :: rest => key ++ more rest
  | .index index :: rest => "[" ++ toString index ++ "]" ++ more rest
where
  /-- The steps after the first one. -/
  more : List BodyStep → String
    | [] => ""
    | .key key :: rest => "." ++ key ++ more rest
    | .index index :: rest => "[" ++ toString index ++ "]" ++ more rest

/-- The wording of a fault, without the place in the body. -/
def BodyFault.message : BodyFault → String
  | mediaType => "Expected request with `Content-Type: application/json`"
  | tooLong => "Failed to buffer the request body: length limit exceeded"
  | malformed => "Failed to parse the request body as JSON"
  | unsuitable path problem =>
    "Failed to deserialize the JSON body into the target type: " ++
      (if path.isEmpty then "" else bodyPathText path ++ ": ") ++ problem.message

end Messages

section Reading

/-- What an outline turns out to be; nothing where its text breaks or denotes no value. -/
def BodyValue.ofOutline? : Outline → Option BodyValue
  | .null => some null
  | .bool value => some (bool value)
  | .number value => value.map number
  | .string value => value.map string
  | .array _ _ => some array
  | .object _ _ => some object
  | .broken => none

/-- The fault of a value that should have had another shape. -/
def BodyFault.wrongType (path : List BodyStep) (found : Outline) (wanted : BodyShape) : BodyFault :=
  match BodyValue.ofOutline? found with
  | some value => unsuitable path (.wrongType value wanted)
  | none => malformed

/-- The string at a path. -/
def bodyString (path : List BodyStep) : Outline → Except BodyFault String
  | .string (some value) => .ok value
  | found => .error (.wrongType path found .string)

/-- The strings at a path, the first of them at `index`. -/
def bodyStringsFrom (path : List BodyStep) (index : Nat) :
    List Outline → Except BodyFault (List String)
  | [] => .ok []
  | item :: more => do
    let value ← bodyString (path ++ [.index index]) item
    let values ← bodyStringsFrom path (index + 1) more
    return value :: values

/-- The list of strings at a path. -/
def bodyStrings (path : List BodyStep) : Outline → Except BodyFault (List String)
  | .array items closed => do
    let values ← bodyStringsFrom path 0 items
    if closed then return values else .error .malformed
  | found => .error (.wrongType path found .strings)

/-- The members of a query found so far. -/
structure QueryParts where
  projection : Option (List String) := none
  filters : Option String := none

/-- The parts with one more member. Each part comes once; other members are passed over. -/
def QueryParts.add (parts : QueryParts) (key : String) (value : Outline) :
    Except BodyFault QueryParts :=
  if key = "projection" then
    match parts.projection with
    | some _ => .error (.unsuitable [] (.duplicate key))
    | none => do
      let projection ← bodyStrings [.key key] value
      return { parts with projection := some projection }
  else if key = "filters" then
    match parts.filters with
    | some _ => .error (.unsuitable [] (.duplicate key))
    | none => do
      let filters ← bodyString [.key key] value
      return { parts with filters := some filters }
  else if value.wellFormed then .ok parts
  else .error .malformed

/-- The parts with the members of an object. -/
def QueryParts.addAll (parts : QueryParts) :
    List (Option String × Outline) → Except BodyFault QueryParts
  | [] => .ok parts
  | (none, _) :: _ => .error .malformed
  | (some key, value) :: more => do
    let parts ← parts.add key value
    parts.addAll more

/-- The query that the members of an object make up. -/
def queryOfMembers (members : List (Option String × Outline)) (closed : Bool) :
    Except BodyFault Query := do
  let parts ← QueryParts.addAll {} members
  if !closed then .error .malformed
  else
    match parts.projection with
    | none => .error (.unsuitable [] (.missing "projection"))
    | some projection => return ⟨projection, parts.filters.getD ""⟩

/-- The query that the items of a list make up. -/
def queryOfItems (items : List Outline) (closed : Bool) : Except BodyFault Query :=
  match items with
  | [] => .error (if closed then .unsuitable [] .noFields else .malformed)
  | projection :: more => do
    let projection ← bodyStrings [.index 0] projection
    match more with
    | [] => if closed then return ⟨projection, ""⟩ else .error .malformed
    | filters :: others =>
      let filters ← bodyString [.index 1] filters
      if closed ∧ others.isEmpty then return ⟨projection, filters⟩ else .error .malformed

/-- `QueryRequest` — the query that an outline denotes. -/
def Query.ofOutline : Outline → Except BodyFault Query
  | .object members closed => queryOfMembers members closed
  | .array items closed => queryOfItems items closed
  | found => .error (.wrongType [] found .query)

/-- The query in the bytes of a body. -/
def Query.ofBytes (body : List UInt8) : Except BodyFault Query := do
  let (found, ended) := Json.outline (Text.symbols body)
  let query ← Query.ofOutline found
  if ended then return query else .error .malformed

end Reading

end RecordSearch
