import RecordSearch.Filter.Evaluation
import RecordSearch.Proofs.Filter.Written

/-!
# The comparisons of a filter

A filter is built from comparisons. Those of a parsed filter have fields that can be named, and a
comparison that does not fail to hold found a scalar under its field.
-/

namespace RecordSearch

namespace Filter

mutual

/-- The comparisons of a filter, from left to right. -/
def comparisons : Filter → List Comparison
  | .comparison c => [c]
  | .and children | .or children => comparisonsOfAll children
  | .not operand => comparisons operand

/-- The comparisons of some filters, from left to right. -/
def comparisonsOfAll : List Filter → List Comparison
  | [] => []
  | child :: more => comparisons child ++ comparisonsOfAll more

end

/-- The comparisons of some filters are those of each of them. -/
theorem mem_comparisonsOfAll {children : List Filter} {c : Comparison} :
    c ∈ comparisonsOfAll children ↔ ∃ child ∈ children, c ∈ comparisons child := by
  induction children with
  | nil => simp [comparisonsOfAll]
  | cons child more ih => simp [comparisonsOfAll, ih]

/-- The fields of a well-formed filter can be named. -/
theorem isField_of_mem_comparisons {f : Filter} (wellFormed : WellFormed f) :
    ∀ c ∈ f.comparisons, IsField c.field := by
  induction wellFormed with
  | comparison field =>
    intro c isIn
    rw [List.mem_singleton.1 isIn]
    exact field
  | and several all ih =>
    intro c isIn
    obtain ⟨child, isChild, inChild⟩ := mem_comparisonsOfAll.1 isIn
    exact ih child isChild c inChild
  | or several all ih =>
    intro c isIn
    obtain ⟨child, isChild, inChild⟩ := mem_comparisonsOfAll.1 isIn
    exact ih child isChild c inChild
  | not inner ih => exact ih

/-- The fields of a parsed filter can be named. -/
theorem isField_of_parse {text : String} {f : Filter} (parsed : parse text = .ok f) :
    ∀ c ∈ f.comparisons, IsField c.field := by
  rcases wellFormed_of_parse parsed with rfl | wellFormed
  · intro c isIn
    cases isIn
  · exact isField_of_mem_comparisons wellFormed

/-- A name that a field can have starts with no dot. -/
theorem head?_ne_dot_of_isField {name : String} (field : IsField name) :
    name.toList.head? ≠ some '.' := by
  obtain ⟨⟨segment, others, ⟨first, more, rfl, start, -⟩, -, same⟩, -⟩ := field
  have head : name.toList.head? = some first := by rw [same]; rfl
  have notDot : first ≠ '.' := ne_dot_of_isFieldPart (isFieldPart_of_isFieldStart start)
  rw [head]
  intro dot
  exact notDot (Option.some.inj dot)

end Filter

/-- A comparison that holds of a record, or cannot be decided for it, found a scalar there. -/
theorem Comparison.exists_scalar_of_holdsOf {record : Record} {c : Comparison}
    (seen : c.holdsOf record ≠ .ok false) :
    ∃ scalar, record.get? c.field = some scalar ∧ scalar.isScalar = true := by
  unfold Comparison.holdsOf at seen
  split at seen
  · next found _ => exact ⟨_, found, rfl⟩
  · next found _ => exact ⟨_, found, rfl⟩
  · next found _ => exact ⟨_, found, rfl⟩
  · next found _ => exact ⟨_, found, rfl⟩
  · exact absurd rfl seen

end RecordSearch
