import RecordSearch.Proofs.Query.Answers
import RecordSearch.Query.Collection

/-!
# Scans that never return

A scan never returns exactly when it comes to a fetch that never returns, which takes that every
fetch before it lets the scan go on. For a query these are the fetches of records that its filter
can be evaluated on and of unknown ids; for the properties it is every fetch that does not fail.
-/

namespace RecordSearch

namespace Outcome

variable {α β : Type} {f : α → β} {outcome : Outcome α}

/-- Replacing the value does not make an outcome return. -/
theorem map_eq_hangs_iff : outcome.map f = .hangs ↔ outcome = .hangs := by
  cases outcome <;> simp [map]

/-- An outcome whose value was replaced answers what a value of it was replaced with. -/
theorem map_eq_answers_iff {value : β} :
    outcome.map f = .answers value ↔ ∃ before, outcome = .answers before ∧ f before = value := by
  cases outcome <;> simp [map]

end Outcome

/-- The fetch does not keep the properties from being collected. -/
def Fetched.IsRead : Fetched → Prop
  | .record _ | .absent => True
  | .failed _ | .hangs => False

namespace Store

variable {store : Store} {goesOn : Fetched → Prop} {id : Nat} {ids : List Nat}

/-- The scan of some ids comes to a fetch that never returns, after fetches that let it go on. -/
def ReachesHang (store : Store) (goesOn : Fetched → Prop) (ids : List Nat) : Prop :=
  ∃ before id after, ids = before ++ id :: after ∧ (store.fetch id).fetched = .hangs ∧
    ∀ earlier ∈ before, goesOn (store.fetch earlier).fetched

/-- Without ids there is nothing to come to. -/
theorem not_reachesHang_nil : ¬store.ReachesHang goesOn [] := by
  rintro ⟨before, id, after, split, -⟩
  simp at split

/-- A scan comes to a fetch that never returns with its first fetch, or after it if that lets it go
on. -/
theorem reachesHang_cons : store.ReachesHang goesOn (id :: ids) ↔
    (store.fetch id).fetched = .hangs ∨
      goesOn (store.fetch id).fetched ∧ store.ReachesHang goesOn ids := by
  constructor
  · rintro ⟨before, hanging, after, split, hangs, goOn⟩
    cases before with
    | nil =>
      obtain ⟨rfl, rfl⟩ := List.cons.inj split
      exact .inl hangs
    | cons first before =>
      obtain ⟨rfl, rfl⟩ := List.cons.inj split
      refine .inr ⟨goOn _ List.mem_cons_self, before, hanging, after, rfl, hangs, ?_⟩
      intro earlier isEarlier
      exact goOn earlier (List.mem_cons_of_mem _ isEarlier)
  · rintro (hangs | ⟨first, before, hanging, after, rfl, hangs, goOn⟩)
    · exact ⟨[], id, ids, rfl, hangs, by simp⟩
    · exact ⟨id :: before, hanging, after, rfl, hangs, List.forall_mem_cons.2 ⟨first, goOn⟩⟩

end Store

namespace Scan

variable {store : Store} {filter : Filter} {projection : Projection} {id : Nat} {ids : List Nat}

/-- The token of a scan that nothing cancels stays unset. -/
theorem outcome_run_ne_cancelled (ids : List Nat) :
    (run store.withoutCancelling filter projection false ids).outcome ≠
      .answers (.error .cancelled) := by
  induction ids with
  | nil => simp [run]
  | cons id ids ih =>
    intro cancelled
    cases stops : (store.withoutCancelling.fetch id).fetched.stop? filter with
    | some stop =>
      rw [run_stop stops] at cancelled
      obtain ⟨error, rfl, isError⟩ := Outcome.map_eq_answers_iff.1 cancelled
      cases isError
      -- What stops a fetch is a hang, a store error or a type error.
      revert stops
      cases (store.withoutCancelling.fetch id).fetched with
      | record found => cases holds : filter.holdsOf found <;> simp [Fetched.stop?, holds]
      | _ => simp [Fetched.stop?]
    | none =>
      rw [run_answered stops] at cancelled
      obtain ⟨rest, later, isError⟩ := Outcome.map_eq_answers_iff.1 cancelled
      cases rest with
      | ok documents => cases isError
      | error error =>
        cases isError
        exact ih later

/-- What stops a fetch for good is that it never returns. -/
theorem stop?_eq_hangs_iff {fetched : Fetched} :
    fetched.stop? filter = some .hangs ↔ fetched = .hangs := by
  cases fetched with
  | record found => cases holds : filter.holdsOf found <;> simp [Fetched.stop?, holds]
  | _ => simp [Fetched.stop?]

/-- A scan that nothing cancels never returns exactly when it comes to a fetch that never does. -/
theorem outcome_run_eq_hangs_iff (ids : List Nat) :
    (run store.withoutCancelling filter projection false ids).outcome = .hangs ↔
      store.ReachesHang (fun fetched => fetched.stop? filter = none) ids := by
  induction ids with
  | nil => simp [run, Store.not_reachesHang_nil]
  | cons id ids ih =>
    have sameFetch : (store.withoutCancelling.fetch id).fetched = (store.fetch id).fetched := rfl
    have never : (store.fetch id).fetched.stop? filter = some .hangs ↔
        (store.fetch id).fetched = .hangs := stop?_eq_hangs_iff
    rw [Store.reachesHang_cons, ← never]
    cases stops : (store.fetch id).fetched.stop? filter with
    | some stop =>
      rw [run_stop (sameFetch ▸ stops), Outcome.map_eq_hangs_iff]
      simp
    | none =>
      have unset : (store.withoutCancelling.fetch id).cancels = false := rfl
      rw [run_answered (sameFetch ▸ stops), unset]
      simpa [after, Outcome.map_eq_hangs_iff] using ih

/-- A query never returns exactly when its text is a filter, the ids can be listed and their scan
comes to a fetch that never returns. -/
theorem outcome_ofQuery_eq_hangs_iff (store : Store) (query : Query) :
    (ofQuery store.withoutCancelling query).outcome = .hangs ↔
      ∃ filter ids, Filter.parse query.filters = .ok filter ∧ store.ids = .ok ids ∧
        store.ReachesHang (fun fetched => fetched.stop? filter = none) ids := by
  have sameIds : store.withoutCancelling.ids = store.ids := rfl
  unfold ofQuery ofParsed
  cases Filter.parse query.filters with
  | error error => simp [refused]
  | ok filter =>
    rw [sameIds]
    cases store.ids with
    | error error => simp [refused]
    | ok ids => simp [outcome_run_eq_hangs_iff]

/-- A query whose token nothing cancels is not answered as cancelled. -/
theorem outcome_ofQuery_ne_cancelled (store : Store) (query : Query) :
    (ofQuery store.withoutCancelling query).outcome ≠ .answers (.error .cancelled) := by
  unfold ofQuery ofParsed
  cases Filter.parse query.filters with
  | error error => simp [refused]
  | ok filter =>
    cases store.withoutCancelling.ids with
    | error error => simp [refused]
    | ok ids => exact outcome_run_ne_cancelled ids

end Scan

namespace Properties

variable {store : Store}

/-- Collecting the attributes of some ids never returns exactly when it comes to a fetch that never
does. -/
theorem scan_eq_hangs_iff (known : List Attribute) (ids : List Nat) :
    scan store known ids = .hangs ↔ store.ReachesHang Fetched.IsRead ids := by
  induction ids generalizing known with
  | nil => simp [scan, Store.not_reachesHang_nil]
  | cons id ids ih =>
    rw [Store.reachesHang_cons, scan]
    cases (store.fetch id).fetched with
    | hangs => simp
    | failed error => simp [Fetched.IsRead]
    | absent => simpa [Fetched.IsRead] using ih known
    | record found => simpa [Fetched.IsRead] using ih (Attribute.insertLeaves found known)

/-- Collecting the properties of a store never returns exactly when its ids can be listed and their
scan comes to a fetch that never returns. -/
theorem ofStore_eq_hangs_iff (store : Store) :
    ofStore store = .hangs ↔
      ∃ ids, store.ids = .ok ids ∧ store.ReachesHang Fetched.IsRead ids := by
  unfold ofStore
  cases store.ids with
  | error error => simp
  | ok ids => simp [scan_eq_hangs_iff]

end Properties

end RecordSearch
