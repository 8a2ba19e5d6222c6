import RecordSearch.Record

/-!
# Projections

A projection is a list of paths without repetition. It takes from a record the values at those paths
that lead to one.
-/

namespace RecordSearch

/-- The elements that are not in `seen`, each at its first occurrence. -/
def firstOccurrences (seen : List String) : List String → List String
  | [] => []
  | s :: rest =>
    if s ∈ seen then firstOccurrences seen rest else s :: firstOccurrences (s :: seen) rest

theorem mem_firstOccurrences {seen list : List String} {s : String} :
    s ∈ firstOccurrences seen list ↔ s ∈ list ∧ s ∉ seen := by
  induction list generalizing seen with
  | nil => simp [firstOccurrences]
  | cons head rest ih =>
    by_cases old : head ∈ seen
    · simp only [firstOccurrences, old, if_true, ih, List.mem_cons]
      constructor
      · rintro ⟨inRest, new⟩
        exact ⟨.inr inRest, new⟩
      · rintro ⟨rfl | inRest, new⟩
        · contradiction
        · exact ⟨inRest, new⟩
    · simp only [firstOccurrences, old, if_false, List.mem_cons, ih]
      by_cases same : s = head <;> simp_all

theorem nodup_firstOccurrences (seen list : List String) :
    (firstOccurrences seen list).Nodup := by
  induction list generalizing seen with
  | nil => simp [firstOccurrences]
  | cons head rest ih =>
    by_cases old : head ∈ seen
    · simpa [firstOccurrences, old] using ih seen
    · simp only [firstOccurrences, old, if_false, List.nodup_cons, mem_firstOccurrences]
      exact ⟨by simp, ih _⟩

/-- `Projection` — the paths to take from every match, in order. -/
structure Projection where
  paths : List String
  distinct : paths.Nodup

/-- `Document` — the values taken from a record, under the paths that led to them. -/
abbrev Document := Json.Members

namespace Projection

/-- `Projection::new` — the projection to some paths: repeated ones count once, at the first place.
-/
def ofPaths (paths : List String) : Projection :=
  ⟨firstOccurrences [] paths, nodup_firstOccurrences [] paths⟩

/-- `Projection::is_empty` — whether there are no paths. -/
def isEmpty (projection : Projection) : Bool := projection.paths.isEmpty

/-- `Projection::apply` — the values at the paths of a record; a path that leads nowhere is left
out. -/
def apply (projection : Projection) (record : Record) : Document :=
  projection.paths.filterMap fun path => (record.get? path).map (path, ·)

/-- The projection as JSON: the list of its paths. -/
def json (projection : Projection) : Json := .array (projection.paths.map .string)

/-- The projection that a JSON list of strings denotes. -/
def ofJson? : Json → Option Projection
  | .array items => (items.mapM Json.string?).map ofPaths
  | _ => none

end Projection

end RecordSearch
