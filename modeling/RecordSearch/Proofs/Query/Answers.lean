import RecordSearch.Proofs.Query.Cache
import RecordSearch.Proofs.Query.Scan

/-!
# What an executor answers

Whatever an executor parsed before, a query is scanned as the parser, the store and the token alone
tell. So the queries of a run whose token stays unset are answered as each of them is on its own.
-/

namespace RecordSearch

/-- The store as scans with another token see it: its fetches do not cancel them. -/
def Store.withoutCancelling (store : Store) : Store where
  ids := store.ids
  fetch := fun id => { store.fetch id with cancels := false }

namespace Scan

/-- What the scan of a query comes to: a syntax error, why the ids cannot be listed, or the scan of
the ids. -/
def expected (store : Store) (query : Query) (cancelled : Bool) : Scan :=
  match Filter.parse query.filters with
  | .error error => refused cancelled (.invalid error)
  | .ok filter =>
    match store.ids with
    | .error error => refused cancelled (.store error)
    | .ok ids => reference store filter (.ofPaths query.projection) cancelled ids

/-- The scan with what the filter text parses to comes to what is expected. -/
theorem ofParsed_parse (store : Store) (query : Query) (cancelled : Bool) :
    ofParsed store query cancelled (Filter.parse query.filters) =
      expected store query cancelled := by
  unfold ofParsed expected
  cases Filter.parse query.filters with
  | error error => rfl
  | ok filter =>
    cases store.ids with
    | error error => rfl
    | ok ids => exact run_eq_reference store filter _ cancelled ids

section Uncancelled

variable {store : Store} (filter : Filter) (projection : Projection)

/-- After the scan of a query the token is as its fetches left it. -/
theorem cancelled_ofParsed (query : Query) (cancelled : Bool) (parsed : ParsedText) :
    (ofParsed store query cancelled parsed).cancelled =
      tokenAfter store cancelled (ofParsed store query cancelled parsed).fetches := by
  unfold ofParsed
  cases parsed with
  | error error => simp [refused, tokenAfter]
  | ok filter =>
    cases store.ids with
    | error error => simp [refused, tokenAfter]
    | ok ids => exact cancelled_run store filter _ cancelled ids

/-- A scan that leaves the token unset does not tell whether its fetches could have cancelled it. -/
theorem run_withoutCancelling {ids : List Nat}
    (unset : (run store filter projection false ids).cancelled = false) :
    run store.withoutCancelling filter projection false ids =
      run store filter projection false ids := by
  induction ids with
  | nil => rfl
  | cons id ids ih =>
    have sameFetch : (store.withoutCancelling.fetch id).fetched = (store.fetch id).fetched := rfl
    cases stops : (store.fetch id).fetched.stop? filter with
    | some stop =>
      rw [run_stop stops] at unset ⊢
      rw [run_stop (sameFetch ▸ stops)]
      have quiet : (store.fetch id).cancels = false := unset
      rw [quiet]
      rfl
    | none =>
      rw [run_answered stops] at unset ⊢
      rw [run_answered (sameFetch ▸ stops)]
      have unsetLater :
          (run store filter projection (store.fetch id).cancels ids).cancelled = false := unset
      -- The token stays set, so a first fetch that set it would show after the later ones.
      have quiet : (store.fetch id).cancels = false := by
        rw [cancelled_run] at unsetLater
        exact (Bool.or_eq_false_iff.1 unsetLater).1
      rw [quiet] at unsetLater ⊢
      rw [sameFetch, ← ih unsetLater]
      rfl

/-- A query that leaves its token unset does not tell whether its fetches could have cancelled. -/
theorem ofQuery_withoutCancelling {query : Query}
    (unset : (ofQuery store query).cancelled = false) :
    ofQuery store.withoutCancelling query = ofQuery store query := by
  unfold ofQuery ofParsed at unset ⊢
  cases parsed : Filter.parse query.filters with
  | error error => rfl
  | ok filter =>
    have sameIds : store.withoutCancelling.ids = store.ids := rfl
    rw [parsed] at unset
    cases listed : store.ids with
    | error error => simp only [sameIds, listed]
    | ok ids =>
      simp only [listed] at unset
      simp only [sameIds, listed]
      exact run_withoutCancelling filter _ unset

end Uncancelled

end Scan

namespace Executor

/-- An executor scans a query as the parser, the store and the token tell, whatever it parsed
before, and a query with a syntax error is the same with every store. -/
theorem execute_afterTexts (store : Store) (capacity : Option Nat) (texts : List String)
    (query : Query) (cancelled : Bool) :
    (((fresh store capacity).afterTexts texts).execute query cancelled).1 =
        Scan.expected store query cancelled ∧
      ∀ error, Filter.parse query.filters = .error error → ∀ other : Store,
        (((fresh other capacity).afterTexts texts).execute query cancelled).1 =
          Scan.refused cancelled (.invalid error) := by
  have scanned : ∀ store : Store,
      (((fresh store capacity).afterTexts texts).execute query cancelled).1 =
        Scan.expected store query cancelled := by
    intro store
    obtain ⟨sound, sameStore⟩ := sound_afterTexts (sound_fresh store capacity) texts
    rw [execute_fst sound, sameStore, Scan.ofParsed_parse]
    rfl
  refine ⟨scanned store, ?_⟩
  intro error invalid other
  rw [scanned other, Scan.expected, invalid]

section Runs

variable {executor : Executor}

/-- A run goes on with the executor and the token that its first query left. -/
theorem executeAll_cons (cancelled : Bool) (query : Query) (queries : List Query) :
    executor.executeAll cancelled (query :: queries) =
      (executor.execute query cancelled).1 ::
        (executor.execute query cancelled).2.executeAll
          (executor.execute query cancelled).1.cancelled queries := rfl

/-- A run of a sound executor whose token stays unset scans each query as it is on its own. -/
theorem executeAll_of_sound (sound : executor.Sound) {queries : List Query}
    (unset : ∀ scan ∈ executor.executeAll false queries, scan.cancelled = false) :
    executor.executeAll false queries = queries.map (Scan.ofQuery executor.store) := by
  induction queries generalizing executor with
  | nil => rfl
  | cons query queries ih =>
    have first : (executor.execute query false).1 = Scan.ofQuery executor.store query :=
      execute_fst sound query false
    rw [executeAll_cons] at unset ⊢
    have quiet : (executor.execute query false).1.cancelled = false :=
      unset _ List.mem_cons_self
    rw [quiet] at unset ⊢
    have later := ih (sound_execute sound query false) fun scan isLater =>
      unset scan (List.mem_cons_of_mem _ isLater)
    rw [later, first, store_execute, List.map_cons]

/-- A store whose fetches cancel nothing leaves the token of a run unset. -/
theorem cancelled_executeAll (never : ∀ id, (executor.store.fetch id).cancels = false)
    (queries : List Query) :
    ∀ scan ∈ executor.executeAll false queries, scan.cancelled = false := by
  induction queries generalizing executor with
  | nil => simp [executeAll]
  | cons query queries ih =>
    have quiet : (executor.execute query false).1.cancelled = false := by
      have left : (executor.execute query false).1.cancelled =
          Scan.tokenAfter (executor.execute query false).2.store false
            (executor.execute query false).1.fetches := Scan.cancelled_ofParsed query false _
      rw [left, store_execute]
      simp [Scan.tokenAfter, never]
    rw [executeAll_cons, quiet]
    intro scan isScan
    rcases List.mem_cons.1 isScan with rfl | isLater
    · exact quiet
    · exact ih (store_execute executor query false ▸ never) scan isLater

end Runs

/-- A run on a new executor, with a cache of any capacity or without one, scans each query as it is
on its own with a token that nothing cancels, as long as its own token stays unset. -/
theorem executeAll_fresh (store : Store) (capacity : Option Nat) (queries : List Query)
    (unset : ∀ scan ∈ (fresh store capacity).executeAll false queries, scan.cancelled = false) :
    (fresh store capacity).executeAll false queries = queries.map (Scan.ofQuery store) ∧
      (fresh store capacity).executeAll false queries =
        queries.map (Scan.ofQuery store.withoutCancelling) := by
  have scanned := executeAll_of_sound (sound_fresh store capacity) unset
  refine ⟨scanned, scanned.trans ?_⟩
  apply List.map_congr_left
  intro query isQuery
  have isScan : Scan.ofQuery store query ∈ (fresh store capacity).executeAll false queries := by
    rw [scanned]
    exact List.mem_map_of_mem isQuery
  exact (Scan.ofQuery_withoutCancelling (unset _ isScan)).symm

/-- Queries that repeat, one of them not a filter, on a cache that holds one text. -/
theorem executeAll_fresh_repeated :
    let store : Store :=
      { ids := .ok [0, 1, 0]
        fetch := fun id =>
          { cancels := false, fetched := if id = 0 then .record .empty else .absent } }
    let queries : List Query := [⟨["a"], ""⟩, ⟨["a"], "("⟩, ⟨["a"], ""⟩]
    (∀ scan ∈ (fresh store (some 1)).executeAll false queries, scan.cancelled = false) ∧
      (fresh store (some 1)).executeAll false queries = queries.map (Scan.ofQuery store) := by
  intro store queries
  have unset : ∀ scan ∈ (fresh store (some 1)).executeAll false queries, scan.cancelled = false :=
    cancelled_executeAll (fun _ => rfl) queries
  exact ⟨unset, (executeAll_fresh store (some 1) queries unset).1⟩

end Executor

end RecordSearch
