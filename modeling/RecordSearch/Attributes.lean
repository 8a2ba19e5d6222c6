import RecordSearch.Filter.Tree
import RecordSearch.Record

/-!
# Attributes

What a client can filter on: every path that leads to a scalar in some record, with the type of the
values there, sorted by name.
-/

namespace RecordSearch

/-- `DataType` — the type of a scalar. -/
inductive DataType where
  | number | string | boolean | null
  deriving DecidableEq

namespace DataType

/-- The name of a type. -/
def word : DataType → String
  | number => "number"
  | string => "string"
  | boolean => "boolean"
  | null => "null"

/-- `DataType::of` — the type of a scalar value. -/
def ofJson : Json → DataType
  | .number _ => number
  | .string _ => string
  | .bool _ => boolean
  | _ => null

/-- The type after one more value was seen: the first one that is not null. -/
def orElse (first second : DataType) : DataType := if first = null then second else first

end DataType

/-- `AttributeInfo` — a path that can be filtered on. -/
structure Attribute where
  name : String
  dataType : DataType
  deriving DecidableEq

namespace Attribute

/-- The sorted attributes after one more value at a path. -/
def insert (name : String) (dataType : DataType) : List Attribute → List Attribute
  | [] => [⟨name, dataType⟩]
  | a :: rest =>
    if name < a.name then ⟨name, dataType⟩ :: a :: rest
    else if name = a.name then ⟨name, a.dataType.orElse dataType⟩ :: rest
    else a :: insert name dataType rest

/-- The attributes after the leaves of one more record. -/
def insertLeaves (record : Record) (attributes : List Attribute) : List Attribute :=
  record.leaves.foldl (fun known leaf => insert leaf.1 (.ofJson leaf.2) known) attributes

/-- The attribute as JSON. -/
def json (a : Attribute) : Json :=
  .object [("name", .string a.name), ("data_type", .string a.dataType.word)]

end Attribute

/-- `Properties` — the attributes of a store together with the words of the filter language. -/
structure Properties where
  attributes : List Attribute
  deriving DecidableEq

namespace Properties

/-- The operators that a filter can use. -/
def operators : List String := Operator.all.map Operator.word

/-- `LOGICAL_OPERATORS` — the words that build filters from comparisons. -/
def logicalOperators : List String := ["and", "or", "not"]

/-- The properties as JSON. -/
def json (p : Properties) : Json :=
  .object [("attributes", .array (p.attributes.map Attribute.json)),
    ("operators", .array (operators.map .string)),
    ("logical_operators", .array (logicalOperators.map .string))]

end Properties

end RecordSearch
