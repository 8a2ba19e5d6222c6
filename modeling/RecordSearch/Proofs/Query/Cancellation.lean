import RecordSearch.Proofs.Query.Answers

/-!
# After the token is set

A scan looks at the token before every fetch, so the fetch that sets it is its last one, and later
scans of a run fetch nothing. The scan in which the token is set is cancelled, unless that fetch was
its last one anyway or could not be answered itself. A later scan is refused as its text and the
store tell, or cancelled; without any ids it has no documents.
-/

namespace RecordSearch

namespace Scan

variable {store : Store} {filter : Filter} {projection : Projection} {cancelled : Bool}
  {ids : List Nat}

/-- Some fetches end with the first one after which the token is set; there are none if it was set
before. -/
def StopsOnceSet (store : Store) (cancelled : Bool) (fetches : List Nat) : Prop :=
  ∀ before after, fetches = before ++ after → tokenAfter store cancelled before = true → after = []

/-- What the scan of a query comes to if the token is set before it. -/
def whenSet (store : Store) (query : Query) : Documents :=
  match Filter.parse query.filters with
  | .error error => .error (.invalid error)
  | .ok _ =>
    match store.ids with
    | .error error => .error (.store error)
    | .ok [] => .ok []
    | .ok (_ :: _) => .error .cancelled

/-- What a scan comes to if its fetch of an id sets the token, where `after` are the ids behind it:
nothing is fetched behind it, but what cannot be answered there comes first. -/
def whenSetAt (store : Store) (filter : Filter) (projection : Projection) (before : List Nat)
    (id : Nat) (after : List Nat) : Outcome Documents :=
  match (store.fetch id).fetched.stop? filter with
  | some stop => stop.map .error
  | none =>
    if after = [] then .answers (.ok (matching store filter projection (before ++ [id])))
    else .answers (.error .cancelled)

/-- The scan of a query in which a fetch set the token: its last one. -/
def Interrupted (store : Store) (query : Query) (scan : Scan) : Prop :=
  ∃ filter before id after, Filter.parse query.filters = .ok filter ∧
    store.ids = .ok (before ++ id :: after) ∧ (store.fetch id).cancels = true ∧
    scan.fetches = before ++ [id] ∧
    scan.outcome = whenSetAt store filter (.ofPaths query.projection) before id after

section Fetches

/-- The token is set by the fetches of two lists one after another. -/
theorem tokenAfter_append (before after : List Nat) :
    tokenAfter store cancelled (before ++ after) =
      tokenAfter store (tokenAfter store cancelled before) after := by
  simp [tokenAfter, Bool.or_assoc]

/-- Without fetches there is nothing to stop. -/
theorem stopsOnceSet_nil : StopsOnceSet store cancelled [] := by
  intro before after split _
  exact (List.append_eq_nil_iff.1 split.symm).2

/-- Fetches stop once the token is set if the first of them do, and the later ones do as well with
the token that the first ones leave. -/
theorem StopsOnceSet.append {fetches later : List Nat}
    (first : StopsOnceSet store cancelled fetches)
    (second : StopsOnceSet store (tokenAfter store cancelled fetches) later) :
    StopsOnceSet store cancelled (fetches ++ later) := by
  intro before after split isSet
  rcases List.append_eq_append_iff.1 split with ⟨more, rfl, sameLater⟩ | ⟨more, split, sameAfter⟩
  · rw [tokenAfter_append] at isSet
    exact second more after sameLater isSet
  · have none : more = [] := first before more split isSet
    have all : before = fetches := by rw [split, none, List.append_nil]
    rw [sameAfter, none, List.nil_append]
    exact second [] later rfl (by rw [← all, isSet]; rfl)

/-- A first fetch is made only while the token is not set. -/
theorem stopsOnceSet_cons {id : Nat} {later : List Nat}
    (second : StopsOnceSet store (store.fetch id).cancels later) :
    StopsOnceSet store false (id :: later) := by
  have first : StopsOnceSet store false [id] := by
    intro before after split isSet
    cases before with
    | nil => cases isSet
    | cons _ more => exact (List.append_eq_nil_iff.1 (List.cons.inj split).2.symm).2
  exact first.append (by simpa [tokenAfter] using second)

end Fetches

/-- A scan fetches nothing once the token is set. -/
theorem stopsOnceSet_run (cancelled : Bool) (ids : List Nat) :
    StopsOnceSet store cancelled (run store filter projection cancelled ids).fetches := by
  induction ids generalizing cancelled with
  | nil => exact stopsOnceSet_nil
  | cons id ids ih =>
    cases cancelled with
    | true =>
      rw [run_cancelled]
      exact stopsOnceSet_nil
    | false =>
      cases stops : (store.fetch id).fetched.stop? filter with
      | some stop =>
        rw [run_stop stops]
        exact stopsOnceSet_cons stopsOnceSet_nil
      | none =>
        rw [run_answered stops]
        exact stopsOnceSet_cons (ih (store.fetch id).cancels)

/-- An answered fetch in front of the one that sets the token adds its document. -/
theorem map_whenSetAt (first : Nat) (before : List Nat) (id : Nat) (later : List Nat) :
    (whenSetAt store filter projection before id later).map (fun rest =>
        rest.map (((store.fetch first).fetched.document? filter projection).toList ++ ·)) =
      whenSetAt store filter projection (first :: before) id later := by
  unfold whenSetAt
  cases (store.fetch id).fetched.stop? filter with
  | some stop => cases stop <;> rfl
  | none =>
    dsimp only
    by_cases last : later = []
    · rw [if_pos last, if_pos last, List.cons_append, matching_cons]
      rfl
    · rw [if_neg last, if_neg last]
      rfl

/-- The fetch that sets the token of a scan is its last one, and decides what the scan comes to. -/
theorem exists_split_of_cancelled
    (isSet : (run store filter projection false ids).cancelled = true) :
    ∃ before id after, ids = before ++ id :: after ∧ (store.fetch id).cancels = true ∧
      (run store filter projection false ids).fetches = before ++ [id] ∧
      (run store filter projection false ids).outcome =
        whenSetAt store filter projection before id after := by
  induction ids with
  | nil => cases isSet
  | cons id ids ih =>
    cases stops : (store.fetch id).fetched.stop? filter with
    | some stop =>
      rw [run_stop stops] at isSet ⊢
      exact ⟨[], id, ids, rfl, isSet, rfl, by rw [whenSetAt, stops]⟩
    | none =>
      rw [run_answered stops] at isSet ⊢
      cases cancels : (store.fetch id).cancels with
      | true =>
        refine ⟨[], id, ids, rfl, cancels, ?_⟩
        cases ids with
        | nil =>
          rw [whenSetAt, stops, List.nil_append, matching_cons]
          exact ⟨rfl, rfl⟩
        | cons next later =>
          rw [run_cancelled, whenSetAt, stops]
          exact ⟨rfl, rfl⟩
      | false =>
        rw [cancels] at isSet
        obtain ⟨before, last, later, split, cancels, fetches, outcome⟩ := ih isSet
        refine ⟨id :: before, last, later, by rw [split]; rfl, cancels, ?_, ?_⟩
        · exact congrArg (id :: ·) fetches
        · rw [← map_whenSetAt id before last later, ← outcome]
          rfl

section Queries

variable (store) (query : Query)

/-- With the token set before it a scan has documents only where there are no ids, and then none. -/
theorem eq_nil_of_whenSet {documents : List Document}
    (answered : whenSet store query = .ok documents) : documents = [] ∧ store.ids = .ok [] := by
  unfold whenSet at answered
  split at answered
  · cases answered
  split at answered
  · cases answered
  · next listed =>
    cases answered
    exact ⟨rfl, listed⟩
  · cases answered

/-- A scan of a query with the token set fetches nothing and leaves it set. -/
theorem ofParsed_set :
    ofParsed store query true (Filter.parse query.filters) =
      ⟨[], true, .answers (whenSet store query)⟩ := by
  unfold ofParsed whenSet
  cases Filter.parse query.filters with
  | error error => rfl
  | ok filter =>
    cases store.ids with
    | error error => rfl
    | ok ids =>
      cases ids with
      | nil => rfl
      | cons id ids => exact run_cancelled

/-- A scan of a query fetches nothing once the token is set. -/
theorem stopsOnceSet_ofParsed (cancelled : Bool) (parsed : ParsedText) :
    StopsOnceSet store cancelled (ofParsed store query cancelled parsed).fetches := by
  unfold ofParsed
  cases parsed with
  | error error => exact stopsOnceSet_nil
  | ok filter =>
    cases store.ids with
    | error error => exact stopsOnceSet_nil
    | ok ids => exact stopsOnceSet_run cancelled ids

/-- A scan of a query that sets the token is interrupted. -/
theorem interrupted_ofParsed
    (isSet : (ofParsed store query false (Filter.parse query.filters)).cancelled = true) :
    Interrupted store query (ofParsed store query false (Filter.parse query.filters)) := by
  unfold ofParsed at isSet ⊢
  cases parsed : Filter.parse query.filters with
  | error error =>
    rw [parsed] at isSet
    cases isSet
  | ok filter =>
    rw [parsed] at isSet
    cases listed : store.ids with
    | error error =>
      rw [listed] at isSet
      cases isSet
    | ok ids =>
      rw [listed] at isSet
      obtain ⟨before, id, after, rfl, cancels, fetches, outcome⟩ :=
        exists_split_of_cancelled isSet
      exact ⟨filter, before, id, after, parsed, listed, cancels, fetches, outcome⟩

end Queries

end Scan

namespace Executor

section Runs

variable {executor : Executor}

/-- A run of a sound executor fetches nothing once the token is set, in no scan. -/
theorem stopsOnceSet_executeAll (sound : executor.Sound) (cancelled : Bool)
    (queries : List Query) :
    Scan.StopsOnceSet executor.store cancelled
      ((executor.executeAll cancelled queries).flatMap Scan.fetches) := by
  induction queries generalizing executor cancelled with
  | nil => exact Scan.stopsOnceSet_nil
  | cons query queries ih =>
    have later := ih (sound_execute sound query cancelled)
      (executor.execute query cancelled).1.cancelled
    rw [store_execute] at later
    rw [executeAll_cons, List.flatMap_cons]
    rw [execute_fst sound] at later ⊢
    refine (Scan.stopsOnceSet_ofParsed _ query cancelled _).append ?_
    rw [← Scan.cancelled_ofParsed]
    exact later

/-- Every scan of a run of a sound executor is told by the token before it. -/
theorem scan_of_executeAll (sound : executor.Sound) (cancelled : Bool) (queries : List Query)
    {index : Nat} {query : Query} {scan : Scan} (asked : queries[index]? = some query)
    (scanned : (executor.executeAll cancelled queries)[index]? = some scan) :
    scan = Scan.ofParsed executor.store query
      (Scan.tokenAfter executor.store cancelled
        (((executor.executeAll cancelled queries).take index).flatMap Scan.fetches))
      (Filter.parse query.filters) := by
  induction queries generalizing executor cancelled index with
  | nil => cases asked
  | cons first queries ih =>
    rw [executeAll_cons] at scanned ⊢
    cases index with
    | zero =>
      cases asked
      cases scanned
      rw [execute_fst sound]
      simp [Scan.tokenAfter]
    | succ index =>
      have later := ih (sound_execute sound first cancelled) _ asked scanned
      rw [store_execute] at later
      rw [List.take_succ_cons, List.flatMap_cons, Scan.tokenAfter_append]
      rw [execute_fst sound] at later ⊢
      rw [← Scan.cancelled_ofParsed]
      exact later

/-- A run has a scan for every query. -/
theorem length_executeAll (cancelled : Bool) (queries : List Query) :
    (executor.executeAll cancelled queries).length = queries.length := by
  induction queries generalizing executor cancelled with
  | nil => rfl
  | cons query queries ih => rw [executeAll_cons, List.length_cons, List.length_cons, ih]

end Runs

/-- In a run on a new executor, with a cache of any capacity or without one, nothing is fetched once
the token is set, before the run or by a fetch. The scan in which a fetch sets it ends with that
fetch: it is cancelled unless that was the fetch of its last id, or could not be answered. Every
later scan comes to a syntax error, to why the ids cannot be listed or to being cancelled; it is
answered only where there are no ids, and has no documents. -/
theorem executeAll_onceSet (store : Store) (capacity : Option Nat) (cancelled : Bool)
    (queries : List Query) :
    let scans := (fresh store capacity).executeAll cancelled queries
    scans.length = queries.length ∧
      Scan.StopsOnceSet store cancelled (scans.flatMap Scan.fetches) ∧
      ∀ index query scan, queries[index]? = some query → scans[index]? = some scan →
        let isSet := Scan.tokenAfter store cancelled ((scans.take index).flatMap Scan.fetches)
        (isSet = true →
          scan.fetches = [] ∧ scan.outcome = .answers (Scan.whenSet store query) ∧
            ∀ documents, scan.outcome = .answers (.ok documents) →
              documents = [] ∧ store.ids = .ok []) ∧
        (isSet = false → scan.cancelled = true → Scan.Interrupted store query scan) := by
  intro scans
  have sound := sound_fresh store capacity
  refine ⟨length_executeAll cancelled queries, stopsOnceSet_executeAll sound cancelled queries, ?_⟩
  intro index query scan asked scanned isSet
  have told : scan = Scan.ofParsed store query isSet (Filter.parse query.filters) :=
    scan_of_executeAll sound cancelled queries asked scanned
  rw [told]
  cases isSet with
  | true =>
    refine ⟨fun _ => ?_, fun unset => nomatch unset⟩
    rw [Scan.ofParsed_set]
    refine ⟨rfl, rfl, fun documents answered => ?_⟩
    exact Scan.eq_nil_of_whenSet store query (Outcome.answers.inj answered)
  | false => exact ⟨fun set => (nomatch set), fun _ => Scan.interrupted_ofParsed store query⟩

end Executor

end RecordSearch
