import RecordSearch.Filter.Tree
import RecordSearch.Json.Reader
import RecordSearch.Json.Writer

/-!
# Filters as JSON

A node is an object with one member, named for the kind of the node. A comparison is an object with
three members in any order, or the list of the three values; other members are passed over as long
as they are well formed. A value without contents is its name, or an object with null under it.

Reading takes the number of arrays and objects that may still be opened, so that a text is held to
`Json.maxLevels` and a value to its own depth.
-/

namespace RecordSearch

open Json (Outline)

section Writing

/-- A literal as JSON. -/
def Literal.json : Literal → Json
  | number value => .object [("Number", .number (.double value))]
  | string value => .object [("String", .string value)]
  | bool value => .object [("Bool", .bool value)]
  | null => .string "Null"

/-- A comparison as JSON. -/
def Comparison.json (c : Comparison) : Json :=
  .object [("field", .string c.field), ("operator", .string c.operator.word),
    ("literal", c.literal.json)]

mutual

/-- A filter as JSON. -/
def Filter.json : Filter → Json
  | .comparison c => .object [("Field", c.json)]
  | .and children => .object [("And", .array (Filter.jsonItems children))]
  | .or children => .object [("Or", .array (Filter.jsonItems children))]
  | .not operand => .object [("Not", operand.json)]

/-- The children as JSON. -/
def Filter.jsonItems : List Filter → List Json
  | [] => []
  | child :: more => child.json :: Filter.jsonItems more

end

/-- A filter as JSON text. -/
def Filter.jsonText (f : Filter) : String := f.json.text

end Writing

section Reading

/-- The name of a value without contents. -/
def nameOfOutline? (levels : Nat) : Outline → Option String
  | .string name => name
  | .object [(some name, .null)] true => if levels = 0 then none else some name
  | _ => none

/-- The operator that an outline names, as it is written. -/
def Operator.ofOutline? (levels : Nat) (found : Outline) : Option Operator := do
  let name ← nameOfOutline? levels found
  all.find? fun operator => operator.word == name

/-- The literal that an outline denotes. -/
def Literal.ofOutline? (levels : Nat) : Outline → Option Literal
  | .object [(some "Number", .number (some value))] true =>
    if levels = 0 then none else some (.number value.toDouble)
  | .object [(some "String", .string (some value))] true =>
    if levels = 0 then none else some (.string value)
  | .object [(some "Bool", .bool value)] true => if levels = 0 then none else some (.bool value)
  | found => if nameOfOutline? levels found = some "Null" then some .null else none

/-- The members of a comparison found so far. -/
structure Comparison.Parts where
  field : Option String := none
  operator : Option Operator := none
  literal : Option Literal := none

/-- The parts with one more member: each part comes once, and other members are passed over. -/
def Comparison.Parts.add? (levels : Nat) (parts : Parts) (key : String) (value : Outline) :
    Option Parts :=
  if key = "field" then
    match parts.field, value with
    | none, .string (some field) => some { parts with field := some field }
    | _, _ => none
  else if key = "operator" then
    match parts.operator, Operator.ofOutline? levels value with
    | none, some operator => some { parts with operator := some operator }
    | _, _ => none
  else if key = "literal" then
    match parts.literal, Literal.ofOutline? levels value with
    | none, some literal => some { parts with literal := some literal }
    | _, _ => none
  else if value.wellFormed then some parts
  else none

/-- The parts with all members of an object. -/
def Comparison.Parts.addAll? (levels : Nat) (parts : Parts) :
    List (Option String × Outline) → Option Parts
  | [] => some parts
  | (key, value) :: more => do
    let parts ← parts.add? levels (← key) value
    parts.addAll? levels more

/-- The comparison that the parts make up. -/
def Comparison.Parts.whole? (parts : Parts) : Option Comparison := do
  return ⟨← parts.field, ← parts.operator, ← parts.literal⟩

/-- The comparison that an outline denotes. -/
def Comparison.ofOutline? : Nat → Outline → Option Comparison
  | levels + 1, .object members true => do
    let parts ← Parts.addAll? levels {} members
    parts.whole?
  | levels + 1, .array [.string (some field), operator, literal] true => do
    return ⟨field, ← Operator.ofOutline? levels operator, ← Literal.ofOutline? levels literal⟩
  | _, _ => none

mutual

/-- The filter that an outline denotes. -/
def Filter.ofOutline? : Nat → Outline → Option Filter
  | levels + 1, .object [(some kind, contents)] true =>
    if kind = "Field" then (Comparison.ofOutline? levels contents).map .comparison
    else if kind = "Not" then (Filter.ofOutline? levels contents).map .not
    else
      match levels, contents with
      | levels + 1, .array items true =>
        if kind = "And" then (Filter.ofOutlines? levels items).map .and
        else if kind = "Or" then (Filter.ofOutlines? levels items).map .or
        else none
      | _, _ => none
  | _, _ => none

/-- The filters that the items of an outline denote. -/
def Filter.ofOutlines? (levels : Nat) : List Outline → Option (List Filter)
  | [] => some []
  | item :: more => do
    let child ← Filter.ofOutline? levels item
    let children ← Filter.ofOutlines? levels more
    return child :: children

end

/-- The filter that a JSON value denotes, however deep it is. -/
def Filter.ofJson? (value : Json) : Option Filter :=
  Filter.ofOutline? value.levels (Outline.ofJson value)

/-- The filter that a JSON text denotes. -/
def Filter.ofJsonText? (text : String) : Option Filter :=
  match Json.outline (Json.symbolsOf text) with
  | (found, true) => Filter.ofOutline? Json.maxLevels found
  | (_, false) => none

end Reading

end RecordSearch
