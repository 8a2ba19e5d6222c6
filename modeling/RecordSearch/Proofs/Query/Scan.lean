import RecordSearch.Query.Execution

/-!
# What a scan comes to

A scan is told position by position, without the recursion that runs it. The token is set at a
position if it was set at the start or a fetch at an earlier position cancelled. A position stops
the scan if the token is set there, or if its fetch or its record cannot be answered; the first
such position decides, and a scan that nothing stops gives the documents of its matches.
-/

namespace RecordSearch

/-- What keeps a fetch from being answered. -/
def Fetched.stop? (filter : Filter) : Fetched → Option (Outcome QueryError)
  | .hangs => some .hangs
  | .failed error => some (.answers (.store error))
  | .absent => none
  | .record found =>
    match filter.holdsOf found with
    | .error error => some (.answers (.type error))
    | .ok _ => none

/-- The document of a fetched record that matches. -/
def Fetched.document? (filter : Filter) (projection : Projection) : Fetched → Option Document
  | .record found =>
    match filter.holdsOf found with
    | .ok true => some (projection.apply found)
    | _ => none
  | _ => none

namespace Scan

variable (store : Store) (filter : Filter) (projection : Projection)

/-- Whether the token is set after some fetches. -/
def tokenAfter (cancelled : Bool) (ids : List Nat) : Bool :=
  cancelled || ids.any fun id => (store.fetch id).cancels

/-- What stops the scan at a position. -/
def stopAt? (cancelled : Bool) (ids : List Nat) (position : Nat) : Option (Outcome QueryError) :=
  if tokenAfter store cancelled (ids.take position) then some (.answers .cancelled)
  else ids[position]?.bind fun id => (store.fetch id).fetched.stop? filter

/-- The first position that stops the scan, with what stops it. -/
def firstStop? (cancelled : Bool) (ids : List Nat) : Option (Nat × Outcome QueryError) :=
  (List.range ids.length).findSome? fun position =>
    (stopAt? store filter cancelled ids position).map (position, ·)

/-- The documents of all matches, in order. -/
def matching (ids : List Nat) : List Document :=
  ids.filterMap fun id => (store.fetch id).fetched.document? filter projection

/-- The ids fetched in a scan that a position stops: its own too, unless the token is set there. -/
def fetchedBefore (cancelled : Bool) (ids : List Nat) (position : Nat) : List Nat :=
  if tokenAfter store cancelled (ids.take position) then ids.take position
  else ids.take (position + 1)

/-- What the scan of the ids comes to. -/
def reference (cancelled : Bool) (ids : List Nat) : Scan :=
  match firstStop? store filter cancelled ids with
  | none =>
    ⟨ids, tokenAfter store cancelled ids, .answers (.ok (matching store filter projection ids))⟩
  | some (position, stop) =>
    ⟨fetchedBefore store cancelled ids position,
      tokenAfter store cancelled (fetchedBefore store cancelled ids position),
      stop.map .error⟩

section Steps

variable {store filter projection} {cancelled : Bool} {id : Nat} {ids : List Nat}

/-- After the first fetch the token is as that fetch left it. -/
theorem tokenAfter_cons : tokenAfter store cancelled (id :: ids) =
    tokenAfter store (cancelled || (store.fetch id).cancels) ids := by
  simp [tokenAfter, Bool.or_assoc]

/-- A later position stops the scan as it stops the scan of the later ids. -/
theorem stopAt?_succ (position : Nat) :
    stopAt? store filter cancelled (id :: ids) (position + 1) =
      stopAt? store filter (cancelled || (store.fetch id).cancels) ids position := by
  unfold stopAt?
  rw [List.take_succ_cons, tokenAfter_cons, List.getElem?_cons_succ]

/-- The ids fetched up to a later position are the first one and those up to it. -/
theorem fetchedBefore_succ (position : Nat) :
    fetchedBefore store cancelled (id :: ids) (position + 1) =
      id :: fetchedBefore store (cancelled || (store.fetch id).cancels) ids position := by
  unfold fetchedBefore
  rw [List.take_succ_cons, List.take_succ_cons, tokenAfter_cons]
  split <;> rfl

/-- The first position that stops a scan is its first one or the first of the later ones. -/
theorem firstStop?_cons :
    firstStop? store filter cancelled (id :: ids) =
      match stopAt? store filter cancelled (id :: ids) 0 with
      | some stop => some (0, stop)
      | none =>
        (firstStop? store filter (cancelled || (store.fetch id).cancels) ids).map fun found =>
          (found.1 + 1, found.2) := by
  unfold firstStop?
  rw [List.length_cons, List.range_succ_eq_map, List.findSome?_cons, List.findSome?_map]
  cases stopAt? store filter cancelled (id :: ids) 0 with
  | some stop => rfl
  | none =>
    simp only [Option.map_none, Function.comp_def, stopAt?_succ]
    rw [List.map_findSome?]
    simp only [Function.comp_def, Option.map_map]

/-- The first match is in front of the later ones. -/
theorem matching_cons :
    matching store filter projection (id :: ids) =
      ((store.fetch id).fetched.document? filter projection).toList ++
        matching store filter projection ids := by
  unfold matching
  rw [List.filterMap_cons]
  cases (store.fetch id).fetched.document? filter projection <;> rfl

/-- A token that is set stops the scan before its first fetch. -/
theorem reference_cancelled :
    reference store filter projection true (id :: ids) =
      ⟨[], true, .answers (.error .cancelled)⟩ := by
  simp [reference, firstStop?_cons, stopAt?, tokenAfter, fetchedBefore, Outcome.map]

/-- A first fetch that cannot be answered stops the scan after it. -/
theorem reference_stop {stop : Outcome QueryError}
    (stops : (store.fetch id).fetched.stop? filter = some stop) :
    reference store filter projection false (id :: ids) =
      ⟨[id], (store.fetch id).cancels, stop.map .error⟩ := by
  simp [reference, firstStop?_cons, stopAt?, tokenAfter, fetchedBefore, stops]

/-- A first fetch that is answered leaves the scan of the later ids, with its document in front. -/
theorem reference_answered (answered : (store.fetch id).fetched.stop? filter = none) :
    reference store filter projection false (id :: ids) =
      (reference store filter projection (store.fetch id).cancels ids).after id
        ((store.fetch id).fetched.document? filter projection).toList := by
  have first : stopAt? store filter false (id :: ids) 0 = none := by
    simp [stopAt?, tokenAfter, answered]
  unfold reference
  rw [firstStop?_cons, first, Bool.false_or]
  cases firstStop? store filter (store.fetch id).cancels ids with
  | none => simp [after, tokenAfter_cons, matching_cons, Outcome.map, Except.map]
  | some found =>
    obtain ⟨position, stop⟩ := found
    simp only [Option.map_some, after, fetchedBefore_succ, tokenAfter_cons, Bool.false_or]
    cases stop <;> rfl

/-- A scan with a token that is set fetches nothing. -/
theorem run_cancelled :
    run store filter projection true (id :: ids) = ⟨[], true, .answers (.error .cancelled)⟩ := by
  rw [run, if_pos rfl]

/-- A scan ends with a first fetch that cannot be answered. -/
theorem run_stop {stop : Outcome QueryError}
    (stops : (store.fetch id).fetched.stop? filter = some stop) :
    run store filter projection false (id :: ids) =
      ⟨[id], (store.fetch id).cancels, stop.map .error⟩ := by
  rw [run, if_neg Bool.false_ne_true]
  cases fetched : (store.fetch id).fetched with
  | hangs =>
    rw [fetched] at stops
    cases stops
    simp only [fetched, Outcome.map]
  | failed error =>
    rw [fetched] at stops
    cases stops
    simp only [fetched, Outcome.map]
  | absent => simp [fetched, Fetched.stop?] at stops
  | record found =>
    cases holds : filter.holdsOf found with
    | error error =>
      simp only [fetched, Fetched.stop?, holds] at stops
      cases stops
      simp only [fetched, holds, Outcome.map]
    | ok holding => simp [fetched, Fetched.stop?, holds] at stops

/-- A scan goes on after a first fetch that is answered. -/
theorem run_answered (answered : (store.fetch id).fetched.stop? filter = none) :
    run store filter projection false (id :: ids) =
      (run store filter projection (store.fetch id).cancels ids).after id
        ((store.fetch id).fetched.document? filter projection).toList := by
  rw [run, if_neg Bool.false_ne_true]
  cases fetched : (store.fetch id).fetched with
  | hangs => simp [fetched, Fetched.stop?] at answered
  | failed error => simp [fetched, Fetched.stop?] at answered
  | absent => simp only [fetched, Fetched.document?, Option.toList]
  | record found =>
    cases holds : filter.holdsOf found with
    | error error => simp [fetched, Fetched.stop?, holds] at answered
    | ok holding => cases holding <;> simp only [fetched, holds, Fetched.document?, Option.toList]

end Steps

/-- A scan comes to what its positions tell. -/
theorem run_eq_reference (cancelled : Bool) (ids : List Nat) :
    run store filter projection cancelled ids =
      reference store filter projection cancelled ids := by
  induction ids generalizing cancelled with
  | nil => simp [run, reference, firstStop?, tokenAfter, matching]
  | cons id ids ih =>
    cases cancelled with
    | true => rw [run_cancelled, reference_cancelled]
    | false =>
      cases stops : (store.fetch id).fetched.stop? filter with
      | some stop => rw [run_stop stops, reference_stop stops]
      | none => rw [run_answered stops, reference_answered stops, ih]

/-- After a scan the token is as its fetches left it. -/
theorem cancelled_run (cancelled : Bool) (ids : List Nat) :
    (run store filter projection cancelled ids).cancelled =
      tokenAfter store cancelled (run store filter projection cancelled ids).fetches := by
  rw [run_eq_reference]
  unfold reference
  split <;> rfl

end Scan

end RecordSearch
