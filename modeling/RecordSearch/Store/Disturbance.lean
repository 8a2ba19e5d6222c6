import RecordSearch.Store.Basic

/-!
# Disturbed stores

A store whose listing and fetches are made to go wrong in a planned way.
-/

namespace RecordSearch

/-- What goes wrong in a store, and where. -/
structure Disturbance where
  /-- The ids listed instead of the store's own. -/
  ids : Option (List Nat) := none
  /-- Why the ids cannot be listed. -/
  offline : Option String := none
  /-- The id whose fetch never returns. -/
  hangOn : Option Nat := none
  /-- The id whose fetch cancels the scan. -/
  cancelOn : Option Nat := none
  /-- The ids whose fetch fails, with the reasons. -/
  failures : List (Nat × String) := []
  /-- The ids that are not found. -/
  missing : List Nat := []

namespace Disturbance

/-- The disturbed fetch: a hang comes first, and cancellation before any failure. -/
def fetch (disturbance : Disturbance) (store : Store) (id : Nat) : Fetch :=
  if disturbance.hangOn = some id then { cancels := false, fetched := .hangs }
  else
    let own := store.fetch id
    { own with
      cancels := own.cancels || disturbance.cancelOn == some id
      fetched :=
        match disturbance.failures.lookup id with
        | some reason => .failed (.unavailable reason)
        | none => if id ∈ disturbance.missing then .absent else own.fetched }

/-- The disturbed store. -/
def apply (disturbance : Disturbance) (store : Store) : Store where
  ids :=
    match disturbance.offline with
    | some reason => .error (.unavailable reason)
    | none =>
      match disturbance.ids with
      | some ids => .ok ids
      | none => store.ids
  fetch := disturbance.fetch store

end Disturbance

end RecordSearch
