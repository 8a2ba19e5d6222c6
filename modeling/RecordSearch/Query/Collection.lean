import RecordSearch.Attributes
import RecordSearch.Query.Execution

/-!
# Collecting the properties of a store

All records are read in scan order. A failing store gives its first error, and a fetch that never
returns keeps the collection from returning.
-/

namespace RecordSearch

/-- The properties of a store, or why they cannot be told. -/
abbrev Collected := Except StoreError Properties

namespace Properties

/-- The loop of `collect_properties`: the attributes known before, together with those of the
records at the ids. -/
def scan (store : Store) (known : List Attribute) : List Nat → Outcome Collected
  | [] => .answers (.ok ⟨known⟩)
  | id :: ids =>
    match (store.fetch id).fetched with
    | .hangs => .hangs
    | .failed error => .answers (.error error)
    | .absent => scan store known ids
    | .record record => scan store (Attribute.insertLeaves record known) ids

/-- `collect_properties` — the properties of a store. -/
def ofStore (store : Store) : Outcome Collected :=
  match store.ids with
  | .error error => .answers (.error error)
  | .ok ids => scan store [] ids

end Properties

end RecordSearch
