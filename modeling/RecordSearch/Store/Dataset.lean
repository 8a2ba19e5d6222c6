import RecordSearch.Store.Basic

/-!
# Datasets

A dataset is the JSON array of objects in a file. Its store knows each record by its index.
-/

namespace RecordSearch

/-- `InMemoryRecordStore` — the records of a dataset in order. -/
structure Dataset where
  records : Array Record

namespace Dataset

/-- What is wrong with a value that is not a list. -/
def notAnArray : String := "dataset must be a JSON array of objects"

/-- What is wrong with a list whose item at `index` is not an object. -/
def notAnObject (index : Nat) : String := "entry " ++ toString index ++ " is not a JSON object"

/-- The items as records, the first of them at `index`. -/
def recordsOfItems (index : Nat) :
    (items : List Json) → Json.DistinctItems items → Except StoreError (List Record)
  | [], _ => .ok []
  | item :: more, distinct =>
    match Record.ofJson? item distinct.1 with
    | none => .error (.invalid (notAnObject index))
    | some record => (recordsOfItems (index + 1) more distinct.2).map (record :: ·)

/-- `InMemoryRecordStore::from_json` — the dataset that a JSON value with distinct keys is. -/
def ofJson : (value : Json) → value.Distinct → Except StoreError Dataset
  | .array items, distinct =>
    (recordsOfItems 0 items distinct).map fun records => ⟨records.toArray⟩
  | _, _ => .error (.invalid notAnArray)

/-- The dataset in the contents of a file, with the words for contents that are not JSON. -/
def ofBytes (words : List UInt8 → String) (contents : List UInt8) : Except StoreError Dataset :=
  match read : Json.read? (Text.symbols contents) with
  | none => .error (.json (words contents))
  | some value => ofJson value (Json.distinct_of_read? read)

/-- `load_json_file` — the dataset that reading a file gives. -/
def load (words : List UInt8 → String) (file : Except FileFault FileEntry) :
    Except StoreError Dataset :=
  match file.bind FileEntry.contents with
  | .error fault => .error (.file fault)
  | .ok contents => ofBytes words contents

/-- `InMemoryRecordStore::len`. -/
def size (dataset : Dataset) : Nat := dataset.records.size

/-- The dataset as a store: ids count from zero in order. -/
def store (dataset : Dataset) : Store where
  ids := .ok (List.range dataset.size)
  fetch := fun id =>
    { cancels := false
      fetched :=
        match dataset.records[id]? with
        | some record => .record record
        | none => .absent }

end Dataset

end RecordSearch
