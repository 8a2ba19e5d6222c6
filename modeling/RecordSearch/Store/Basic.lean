import RecordSearch.Files
import RecordSearch.Record

/-!
# Record stores

A store lists record ids in scan order and fetches a record by its id. Either can fail, a fetch can
also take its time, raise cancellation or never return, and ids can repeat or be unknown.
-/

namespace RecordSearch

/-- `StoreError` — why a store cannot answer. -/
inductive StoreError where
  | file (fault : FileFault)
  /-- A text is not JSON, in the words of the library that reads it. -/
  | json (cause : String)
  | invalid (reason : String)
  | unavailable (reason : String)
  deriving DecidableEq

/-- The message of a store error. -/
def StoreError.message : StoreError → String
  | file fault => "I/O error: " ++ fault.message
  | json cause => "json error: " ++ cause
  | invalid reason => "invalid dataset: " ++ reason
  | unavailable reason => "store unavailable: " ++ reason

/-- What a fetch comes to. -/
inductive Fetched where
  | record (record : Record)
  /-- The id is unknown. -/
  | absent
  | failed (error : StoreError)
  /-- The fetch never returns. -/
  | hangs

/-- A fetch: what it comes to, when, and whether the scan is cancelled meanwhile. -/
structure Fetch where
  cancels : Bool
  fetched : Fetched
  /-- The milliseconds until it returns, if it does. -/
  delay : Nat := 0

/-- `RecordStore` — a read-only collection of records. -/
structure Store where
  /-- `RecordStore::all_ids` — all ids in scan order. -/
  ids : Except StoreError (List Nat)
  /-- `RecordStore::get`. -/
  fetch : Nat → Fetch

/-- The milliseconds that the fetches of some ids take one after another. -/
def Store.duration (store : Store) : List Nat → Nat
  | [] => 0
  | id :: ids => (store.fetch id).delay + store.duration ids

end RecordSearch
