import RecordSearch.Json.Distinct

/-!
# Records

A record is a JSON object. Its keys may hold dots and its values may nest, and a dotted path reads
either shape: `a.b` may be one key, or the key `b` of the object under the key `a`, so a path is cut
at its dots in every possible way.
-/

namespace RecordSearch

/-- `Record` — one entity of a dataset: an object whose keys are distinct at every level. -/
structure Record where
  members : Json.Members
  distinct : (Json.object members).Distinct

namespace Record

/-- The record without members. -/
def empty : Record := ⟨[], by simp [Json.Distinct, Json.DistinctMembers, Json.Members.keys]⟩

/-- The record as a JSON value. -/
def json (record : Record) : Json := .object record.members

/-- `Record::from_value` — the record that a value with distinct keys is; only objects are records.
-/
def ofJson? : (value : Json) → value.Distinct → Option Record
  | .object members, distinct => some ⟨members, distinct⟩
  | _, _ => none

/-- The loop of `lookup`: the value at the cuts of `rest` whose first key starts with `key`,
shortest first key first. Under each first key the whole remaining path comes before its cuts, and a
first key that leads nowhere gives way to the next one. -/
def findCut? (members : Json.Members) (key : List Char) : List Char → Option Json
  | [] => none
  | c :: rest =>
    let here :=
      match c, Json.Members.get? members (String.ofList key) with
      | '.', some (.object child) =>
        Json.Members.get? child (String.ofList rest) <|> findCut? child [] rest
      | _, _ => none
    here <|> findCut? members (key ++ [c]) rest

/-- `lookup` — the value at a path below some members: the path as one key, else the first cut that
leads to a value. -/
def find? (members : Json.Members) (path : String) : Option Json :=
  Json.Members.get? members path <|> findCut? members [] path.toList

/-- `Record::get` — the value at a dotted path of the record. -/
def get? (record : Record) (path : String) : Option Json := find? record.members path

/-- A key below a path. An empty path adds no dot. -/
def below (path key : String) : String := if path.isEmpty then key else path ++ "." ++ key

mutual

/-- The scalars at and below a value with their paths; arrays have none. -/
def scalarsAt (path : String) : Json → List (String × Json)
  | .object members => scalarsBelow path members
  | .array _ => []
  | value => [(path, value)]

/-- `collect_leaves` — the scalars below some members, in key order. -/
def scalarsBelow (path : String) : List (String × Json) → List (String × Json)
  | [] => []
  | (key, value) :: more => scalarsAt (below path key) value ++ scalarsBelow path more

end

/-- `Record::leaves` — every scalar of the record with its dotted path, in order. -/
def leaves (record : Record) : List (String × Json) := scalarsBelow "" record.members

end Record

end RecordSearch
