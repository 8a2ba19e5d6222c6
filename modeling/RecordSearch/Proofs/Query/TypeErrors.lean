import RecordSearch.Proofs.Filter.ShortCircuit
import RecordSearch.Proofs.Query.Hangs

/-!
# When a filter has a type error

The only comparison that cannot be decided is an ordering operator between two strings. So a filter
has a type error for a record exactly when its walk asks for such a comparison, which is then the
last one asked for, and a filter that orders no text is never the reason why a query fails.
-/

namespace RecordSearch

namespace Comparison

/-- The comparison puts text in order. -/
def OrdersText (c : Comparison) : Prop :=
  c.operator.isOrdering = true ∧ ∃ text, c.literal = .string text

/-- The comparison puts text in order, and the record has a string under its field. -/
def OrdersStrings (record : Record) (c : Comparison) : Prop :=
  c.OrdersText ∧ ∃ actual, record.get? c.field = some (.string actual)

/-- A comparison cannot be decided exactly where it orders strings, and its error names its own
field and operator. -/
theorem holdsOf_eq_error_iff {record : Record} {c : Comparison} {error : TypeError} :
    c.holdsOf record = .error error ↔
      c.OrdersStrings record ∧ error = ⟨c.field, c.operator⟩ := by
  unfold holdsOf OrdersStrings OrdersText
  constructor
  · intro undecided
    split at undecided
    case h_2 actual wanted found denoted =>
      split at undecided
      · next ordering =>
        cases undecided
        exact ⟨⟨⟨ordering, wanted, denoted⟩, actual, found⟩, rfl⟩
      · cases undecided
    all_goals cases undecided
  · rintro ⟨⟨⟨ordering, text, denoted⟩, actual, found⟩, rfl⟩
    rw [found, denoted]
    exact if_pos ordering

end Comparison

namespace Filter

variable (f : Filter) (record : Record)

/-- A filter has a type error exactly when its walk asks for a comparison that orders strings. -/
theorem holdsOf_eq_error_iff {error : TypeError} :
    f.holdsOf record = .error error ↔
      ∃ c ∈ (f.walk fun c => c.holdsOf record).asked,
        c.OrdersStrings record ∧ error = ⟨c.field, c.operator⟩ := by
  have follows := follows_walk (fun c => c.holdsOf record) f
  constructor
  · intro fails
    obtain ⟨c, isAsked, undecided⟩ := follows.exists_undecided fails
    exact ⟨c, isAsked, Comparison.holdsOf_eq_error_iff.1 undecided⟩
  · rintro ⟨c, isAsked, orders⟩
    obtain ⟨before, after, split⟩ := List.append_of_mem isAsked
    exact (follows.endsAtError before c after error split
      (Comparison.holdsOf_eq_error_iff.2 orders)).2

variable {f}

/-- A filter that orders no text has no type error. -/
theorem holdsOf_ne_error (ordersNone : ∀ c ∈ f.comparisons, ¬c.OrdersText) (error : TypeError) :
    f.holdsOf record ≠ .error error := by
  intro fails
  obtain ⟨c, isAsked, orders, -⟩ := (f.holdsOf_eq_error_iff record).1 fails
  have isIn : c ∈ f.comparisons := (follows_walk _ f).inOrder.subset isAsked
  exact ordersNone c isIn orders.1

end Filter

namespace Scan

variable {store : Store} {filter : Filter} {projection : Projection}

/-- What stops a fetch with a type error is a record for which the filter has it. -/
theorem stop?_eq_type_iff {fetched : Fetched} {error : TypeError} :
    fetched.stop? filter = some (.answers (.type error)) ↔
      ∃ found, fetched = .record found ∧ filter.holdsOf found = .error error := by
  cases fetched with
  | record found => cases holds : filter.holdsOf found <;> simp [Fetched.stop?, holds]
  | _ => simp [Fetched.stop?]

/-- A scan that ends with a type error fetched a record for which the filter has it. -/
theorem exists_record_of_type {cancelled : Bool} {ids : List Nat} {error : TypeError}
    (failed : (run store filter projection cancelled ids).outcome =
      .answers (.error (.type error))) :
    ∃ id ∈ ids, ∃ found, (store.fetch id).fetched = .record found ∧
      filter.holdsOf found = .error error := by
  rw [run_eq_reference, reference] at failed
  split at failed
  · cases failed
  · next position stop first =>
    obtain ⟨own, rfl, same⟩ := Outcome.map_eq_answers_iff.1 failed
    cases same
    obtain ⟨place, -, stopped⟩ := List.exists_of_findSome?_eq_some first
    obtain ⟨own, stops, same⟩ := Option.map_eq_some_iff.1 stopped
    cases same
    unfold stopAt? at stops
    split at stops
    · cases stops
    · obtain ⟨id, isAt, atId⟩ := Option.bind_eq_some_iff.1 stops
      exact ⟨id, List.mem_of_getElem? isAt, stop?_eq_type_iff.1 atId⟩

/-- A query whose filter orders no text has no type error. -/
theorem outcome_expected_ne_type {query : Query} (parsed : Filter.parse query.filters = .ok filter)
    (ordersNone : ∀ c ∈ filter.comparisons, ¬c.OrdersText) (cancelled : Bool)
    (error : TypeError) :
    (expected store query cancelled).outcome ≠ .answers (.error (.type error)) := by
  intro failed
  unfold expected at failed
  rw [parsed] at failed
  cases listed : store.ids with
  | error own => simp [listed, refused] at failed
  | ok ids =>
    simp only [listed, ← run_eq_reference] at failed
    obtain ⟨id, -, found, -, fails⟩ := exists_record_of_type failed
    exact Filter.holdsOf_ne_error found ordersNone error fails

end Scan

/-- A filter has a type error for a record exactly when its walk asks for a comparison with an
ordering operator and a string literal whose field the record has a string under. That comparison is
the last one asked for, and the error names its field and its operator. A query whose filter has no
comparison with an ordering operator and a string literal never ends with a type error, whatever the
store, the cache and the token. -/
theorem Filter.type_error_iff_asked (f : Filter) :
    (∀ (record : Record) (error : TypeError),
      f.holdsOf record = .error error ↔
        ∃ c ∈ (f.walk fun c => c.holdsOf record).asked,
          c.OrdersStrings record ∧ error = ⟨c.field, c.operator⟩) ∧
      (∀ (record : Record) before c after,
        (f.walk fun c => c.holdsOf record).asked = before ++ c :: after →
          c.OrdersStrings record →
            after = [] ∧ f.holdsOf record = .error ⟨c.field, c.operator⟩) ∧
      ∀ (store : Store) (capacity : Option Nat) (texts : List String) (query : Query)
        (cancelled : Bool), Filter.parse query.filters = .ok f →
        (∀ c ∈ f.comparisons, ¬c.OrdersText) →
          ∀ error, (((Executor.fresh store capacity).afterTexts texts).execute query
            cancelled).1.outcome ≠ .answers (.error (.type error)) := by
  refine ⟨fun record error => f.holdsOf_eq_error_iff record, ?_, ?_⟩
  · intro record before c after split orders
    exact (follows_walk _ f).endsAtError before c after _ split
      (Comparison.holdsOf_eq_error_iff.2 ⟨orders, rfl⟩)
  · intro store capacity texts query cancelled parsed ordersNone error
    obtain ⟨sound, sameStore⟩ :=
      Executor.sound_afterTexts (Executor.sound_fresh store capacity) texts
    rw [Executor.execute_fst sound, Scan.ofParsed_parse]
    exact Scan.outcome_expected_ne_type parsed ordersNone cancelled error

end RecordSearch
