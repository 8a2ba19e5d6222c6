import RecordSearch.Proofs.Filter.Comparisons
import RecordSearch.Proofs.Filter.RoundTrip
import RecordSearch.Proofs.Query.Attributes

/-!
# Filters and the attributes that are listed

A comparison tells something about a record only through a scalar under its field, and such a scalar
is a leaf of the record, since the field of a parsed comparison starts with no dot. So the
attributes of a store list every field on which a filter can depend there.
-/

namespace RecordSearch

/-- A comparison that holds of a record, or cannot be decided for it, has a leaf of the record as
its field. -/
theorem Comparison.exists_leaf_of_holdsOf {record : Record} {c : Comparison}
    (field : Filter.IsField c.field) (seen : c.holdsOf record ≠ .ok false) :
    ∃ scalar, (c.field, scalar) ∈ record.leaves := by
  obtain ⟨scalar, found, isScalar⟩ := exists_scalar_of_holdsOf seen
  have noDot := Filter.head?_ne_dot_of_isField field
  exact ⟨scalar, Record.mem_leaves_of_get? found isScalar noDot⟩

namespace Properties

/-- In a store without failures, every field on which a comparison of a parsed filter holds of a
record, or cannot be decided for it, is listed as an attribute; so a comparison of a field that is
not listed holds of no record. -/
theorem ofStore_lists_fields {store : Store} {ids : List Nat} (unfailing : store.Unfailing ids)
    {text : String} {f : Filter} (parsed : Filter.parse text = .ok f) :
    ∃ properties, ofStore store = .answers (.ok properties) ∧
      ∀ c ∈ f.comparisons, ∀ record ∈ store.records ids,
        (c.holdsOf record = .ok true ∨ (∃ error, c.holdsOf record = .error error) →
          c.field ∈ properties.attributes.map Attribute.name) ∧
        (c.field ∉ properties.attributes.map Attribute.name → c.holdsOf record = .ok false) := by
  obtain ⟨properties, collected, named⟩ := mem_names_ofStore unfailing
  refine ⟨properties, collected, ?_⟩
  intro c isIn record isReached
  have listed : c.holdsOf record ≠ .ok false →
      c.field ∈ properties.attributes.map Attribute.name := by
    intro seen
    have field : Filter.IsField c.field := Filter.isField_of_parse parsed c isIn
    obtain ⟨scalar, isLeaf⟩ := Comparison.exists_leaf_of_holdsOf field seen
    exact (named c.field).2 ⟨record, isReached, scalar, isLeaf⟩
  constructor
  · rintro (holds | ⟨error, undecided⟩)
    · apply listed
      rw [holds]
      simp
    · apply listed
      rw [undecided]
      simp
  · intro unlisted
    by_contra seen
    exact unlisted (listed seen)

/-- Ordering the string under the key of the shadowed leaf is an error, so its field is listed. -/
theorem ofStore_lists_fields_shadowed :
    let c : Comparison := ⟨"a.b", .gt, .string "r"⟩
    shadowedStore.Unfailing [0] ∧ Filter.parse (Filter.comparison c).text = .ok (.comparison c) ∧
      (∃ error, c.holdsOf shadowedLeaf = .error error) ∧
      ∃ properties, ofStore shadowedStore = .answers (.ok properties) ∧
        "a.b" ∈ properties.attributes.map Attribute.name := by
  intro c
  have unfailing : shadowedStore.Unfailing [0] := ⟨rfl, fun id _ => .inr ⟨shadowedLeaf, rfl⟩⟩
  have field : Filter.IsField "a.b" :=
    ⟨Filter.isFieldName_iff.1 (by decide), Filter.keyword?_eq_none_iff.1 (by decide)⟩
  have parsed : Filter.parse (Filter.comparison c).text = .ok (.comparison c) :=
    Filter.parse_text_of_fits (.comparison field) (by decide)
  have undecided : ∃ error, c.holdsOf shadowedLeaf = .error error := ⟨⟨"a.b", .gt⟩, rfl⟩
  obtain ⟨properties, collected, listed⟩ := ofStore_lists_fields unfailing parsed
  have isReached : shadowedLeaf ∈ shadowedStore.records [0] := List.mem_singleton_self _
  have isIn : c ∈ (Filter.comparison c).comparisons := List.mem_singleton_self _
  exact ⟨unfailing, parsed, undecided, properties, collected,
    (listed c isIn shadowedLeaf isReached).1 (.inr undecided)⟩

end Properties

end RecordSearch
