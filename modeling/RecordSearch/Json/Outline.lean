import RecordSearch.Json.Value

/-!
# Outlines of JSON texts

An outline is what a text says as far as it can be read. Where the text breaks off the grammar the
outline ends, and nothing after that place is part of it. A reader of some shape walks an outline
from the front, so of several faults it meets the first one. Well-formed strings and numbers that
denote nothing (a lone surrogate, a number out of range) are faults only where their value is asked
for.
-/

namespace RecordSearch.Json

/-- A JSON text as far as it can be read. -/
inductive Outline where
  | null
  | bool (value : Bool)
  /-- A well-formed number, with no value where it is out of range. -/
  | number (value : Option Number)
  /-- A well-formed string, with no value where it holds a gap or half a surrogate pair. -/
  | string (value : Option String)
  /-- The items up to the closing bracket, or up to the place where the text breaks. -/
  | array (items : List Outline) (closed : Bool)
  /-- The members up to the closing brace, or up to the place where the text breaks. -/
  | object (members : List (Option String × Outline)) (closed : Bool)
  /-- The text breaks before the value is complete. -/
  | broken

/-- The most arrays and objects that a value may nest. -/
def maxLevels : Nat := 127

namespace Outline

mutual

/-- Whether the text follows the grammar to the end of the value. -/
def wellFormed : Outline → Bool
  | array items closed => closed && wellFormedItems items
  | object members closed => closed && wellFormedMembers members
  | broken => false
  | _ => true

/-- Whether every item follows the grammar. -/
def wellFormedItems : List Outline → Bool
  | [] => true
  | item :: more => item.wellFormed && wellFormedItems more

/-- Whether every member follows the grammar. -/
def wellFormedMembers : List (Option String × Outline) → Bool
  | [] => true
  | (_, value) :: more => value.wellFormed && wellFormedMembers more

end

mutual

/-- The value of an outline that nests at most `levels` arrays and objects and denotes a value
throughout. -/
def value? (levels : Nat) : Outline → Option Json
  | null => some .null
  | bool value => some (.bool value)
  | number value => value.map .number
  | string value => value.map .string
  | array items closed =>
    match levels, closed with
    | levels + 1, true => (values? levels items).map .array
    | _, _ => none
  | object members closed =>
    match levels, closed with
    | levels + 1, true => (members? levels [] members).map .object
    | _, _ => none
  | broken => none

/-- The values of all items. -/
def values? (levels : Nat) : List Outline → Option (List Json)
  | [] => some []
  | item :: more => do
    let value ← item.value? levels
    let values ← values? levels more
    return value :: values

/-- The members put one by one into those before them. -/
def members? (levels : Nat) (before : Members) : List (Option String × Outline) → Option Members
  | [] => some before
  | (key, item) :: more => do
    let key ← key
    let value ← item.value? levels
    members? levels (Members.put key value before) more

end

mutual

/-- The outline of a value's own text. -/
def ofJson : Json → Outline
  | .null => null
  | .bool value => bool value
  | .number value => number (some value)
  | .string value => string (some value)
  | .array items => array (ofItems items) true
  | .object members => object (ofMembers members) true

/-- The outlines of the items. -/
def ofItems : List Json → List Outline
  | [] => []
  | item :: more => ofJson item :: ofItems more

/-- The outlines of the members. -/
def ofMembers : List (String × Json) → List (Option String × Outline)
  | [] => []
  | (key, value) :: more => (some key, ofJson value) :: ofMembers more

end

end Outline

mutual

/-- How many arrays and objects are nested at the deepest place. -/
def levels : Json → Nat
  | array items => levelsOfItems items + 1
  | object members => levelsOfMembers members + 1
  | _ => 0

/-- The deepest nesting among the items. -/
def levelsOfItems : List Json → Nat
  | [] => 0
  | item :: more => max item.levels (levelsOfItems more)

/-- The deepest nesting among the members. -/
def levelsOfMembers : List (String × Json) → Nat
  | [] => 0
  | (_, value) :: more => max value.levels (levelsOfMembers more)

end

end RecordSearch.Json
