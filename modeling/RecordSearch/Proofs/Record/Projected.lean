import RecordSearch.Projection
import RecordSearch.Proofs.Record.Chains

/-!
# Projected records

The document that a projection takes from a record is a record itself, with a path for each key. A
path of the projection leads to the same value in both: one that leads to a value is a key of the
document, and one that leads nowhere cannot be cut anew, since a chain through the document would go
on from the chain of one of its keys. So projecting the document to some of its paths is projecting
the record to them.
-/

namespace RecordSearch

/-- The elements are in the order in which they first come in the list. -/
theorem pairwise_idxOf_firstOccurrences (seen list : List String) :
    (firstOccurrences seen list).Pairwise fun left right => list.idxOf left < list.idxOf right := by
  induction list generalizing seen with
  | nil => exact .nil
  | cons head rest ih =>
    have later {seen : List String} (old : head ∈ seen) : (firstOccurrences seen rest).Pairwise
        fun left right => (head :: rest).idxOf left < (head :: rest).idxOf right := by
      refine (ih seen).imp_of_mem ?_
      intro left right isLeft isRight before
      have isNew : ∀ s ∈ firstOccurrences seen rest, head ≠ s := by
        rintro s isIn rfl
        exact (mem_firstOccurrences.1 isIn).2 old
      rw [List.idxOf_cons_ne _ (isNew left isLeft), List.idxOf_cons_ne _ (isNew right isRight)]
      exact Nat.succ_lt_succ before
    by_cases old : head ∈ seen
    · rw [firstOccurrences, if_pos old]
      exact later old
    · rw [firstOccurrences, if_neg old]
      refine List.pairwise_cons.2 ⟨?_, later List.mem_cons_self⟩
      intro s isIn
      have isNew : head ≠ s := by
        rintro rfl
        exact (mem_firstOccurrences.1 isIn).2 List.mem_cons_self
      rw [List.idxOf_cons_self, List.idxOf_cons_ne _ isNew]
      exact Nat.succ_pos _

namespace Projection

variable (projection : Projection) (record : Record)

/-- The members of a document are the paths that lead to a value, each with that value. -/
theorem mem_apply_iff {path : String} {value : Json} :
    (path, value) ∈ projection.apply record ↔
      path ∈ projection.paths ∧ record.get? path = some value := by
  rw [apply, List.mem_filterMap]
  constructor
  · rintro ⟨path, isPath, leads⟩
    obtain ⟨value, found, same⟩ := Option.map_eq_some_iff.1 leads
    cases same
    exact ⟨isPath, found⟩
  · rintro ⟨isPath, found⟩
    exact ⟨path, isPath, by rw [found]; rfl⟩

/-- The keys of a document are the paths that lead to a value, in order. -/
theorem keys_apply :
    Json.Members.keys (projection.apply record) =
      projection.paths.filter fun path => (record.get? path).isSome := by
  rw [apply, Json.Members.keys, List.map_filterMap]
  induction projection.paths with
  | nil => rfl
  | cons path more ih =>
    rw [List.filterMap_cons, List.filter_cons, ih]
    cases record.get? path <;> rfl

/-- A document has distinct keys throughout. -/
theorem distinct_apply : (Json.object (projection.apply record)).Distinct := by
  refine ⟨?_, Json.distinctMembers_iff.2 ?_⟩
  · rw [keys_apply]
    exact projection.distinct.filter _
  · rintro ⟨path, value⟩ isMember
    obtain ⟨-, found⟩ := (projection.mem_apply_iff record).1 isMember
    obtain ⟨keys, -, leads⟩ := Record.exists_firstChain_of_find? found
    exact Record.distinct_of_valueAt? record.distinct leads

/-- The document of a record, read as a record. -/
def project : Record := ⟨projection.apply record, projection.distinct_apply record⟩

variable {projection record} {path : String}

/-- A path of the projection that leads to a value is a key of the document. -/
theorem get?_project_of_some {value : Json} (isPath : path ∈ projection.paths)
    (found : record.get? path = some value) :
    (projection.project record).get? path = some value := by
  have isMember : (path, value) ∈ projection.apply record :=
    (projection.mem_apply_iff record).2 ⟨isPath, found⟩
  have atPath : Json.Members.get? (projection.project record).members path = some value :=
    Json.Members.get?_of_mem (projection.distinct_apply record).1 isMember
  rw [Record.get?, Record.find?, atPath]
  rfl

/-- A chain through the document has a path that leads to a value in the record: its first key does,
and the other keys go on from there. -/
theorem get?_ne_none_of_valueAt?_apply {keys : List String}
    (leads : Record.valueAt? (projection.apply record) keys ≠ none) :
    record.get? (Record.dotted keys) ≠ none := by
  have atKey {key : String} {value : Json}
      (found : Json.Members.get? (projection.apply record) key = some value) :
      record.get? key = some value :=
    ((projection.mem_apply_iff record).1 (Json.Members.mem_of_get? found)).2
  match keys with
  | [] => exact absurd rfl leads
  | [key] =>
    obtain ⟨value, found⟩ := Option.ne_none_iff_exists'.1 leads
    rw [Record.dotted_singleton, atKey found]
    simp
  | key :: next :: more =>
    rw [Record.valueAt?_cons (List.cons_ne_nil next more)] at leads
    split at leads
    · next child found =>
      obtain ⟨first, isFirst, toChild⟩ := Record.exists_firstChain_of_find? (atKey found)
      have nonempty : first ≠ [] := Record.ne_nil_of_valueAt? isFirst.leads
      have samePath : Record.dotted (first ++ next :: more) =
          Record.dotted (key :: next :: more) := by
        apply String.toList_inj.1
        rw [Record.dotted_append nonempty (List.cons_ne_nil next more), isFirst.ofPath,
          Record.dotted_cons (List.cons_ne_nil next more) key]
      intro nowhere
      have leadsOn := Record.find?_eq_none_iff.1 nowhere (first ++ next :: more) samePath
      rw [Record.valueAt?_append toChild (List.cons_ne_nil next more)] at leadsOn
      exact leads leadsOn
    · exact absurd rfl leads

/-- A path of the projection leads to the same value in the document as in the record. -/
theorem get?_project (isPath : path ∈ projection.paths) :
    (projection.project record).get? path = record.get? path := by
  cases found : record.get? path with
  | some value => exact get?_project_of_some isPath found
  | none =>
    apply Record.find?_eq_none_iff.2
    rintro keys rfl
    by_contra leads
    exact get?_ne_none_of_valueAt?_apply leads found

/-- The document of a record has the different paths that lead to a value, in the order in which
they first come, each with the value that look-up finds. Projecting the document to some of the
paths is projecting the record to them. -/
theorem project_ofPaths (paths : List String) (record : Record) :
    (∀ path value, (path, value) ∈ (ofPaths paths).apply record ↔
        path ∈ paths ∧ record.get? path = some value) ∧
      (Json.Members.keys ((ofPaths paths).apply record)).Pairwise
        (fun left right => paths.idxOf left < paths.idxOf right) ∧
      ∀ chosen, (∀ path ∈ chosen, path ∈ paths) →
        (ofPaths chosen).apply ((ofPaths paths).project record) =
          (ofPaths chosen).apply record := by
  have isPath {path : String} {list : List String} : path ∈ (ofPaths list).paths ↔ path ∈ list := by
    simp [ofPaths, mem_firstOccurrences]
  refine ⟨fun path value => ?_, ?_, fun chosen subset => ?_⟩
  · rw [mem_apply_iff, isPath]
  · rw [keys_apply]
    exact (pairwise_idxOf_firstOccurrences [] paths).filter _
  · apply List.filterMap_congr
    intro path isChosen
    rw [get?_project (isPath.2 (subset path (isPath.1 isChosen)))]

/-- A record with an object in an object. -/
def nestedObject : Record where
  members := [("a", .object [("b", .object [("c", .bool true)])])]
  distinct := by simp [Json.Distinct, Json.DistinctMembers, Json.Members.keys]

/-- Of the paths of a projection, one goes on from another one that leads to an object, and one
leads nowhere. -/
theorem project_ofPaths_nestedObject :
    (∀ path ∈ ["a.b.c", "a.b.d"], path ∈ ["a.b", "a.b.d", "a.b.c", "a.b"]) ∧
      (ofPaths ["a.b", "a.b.d", "a.b.c", "a.b"]).apply nestedObject =
        [("a.b", .object [("c", .bool true)]), ("a.b.c", .bool true)] ∧
      (ofPaths ["a.b.c", "a.b.d"]).apply
          ((ofPaths ["a.b", "a.b.d", "a.b.c", "a.b"]).project nestedObject) =
        (ofPaths ["a.b.c", "a.b.d"]).apply nestedObject := by
  have subset : ∀ path ∈ ["a.b.c", "a.b.d"], path ∈ ["a.b", "a.b.d", "a.b.c", "a.b"] := by decide
  exact ⟨subset, rfl, (project_ofPaths _ nestedObject).2.2 _ subset⟩

end Projection

end RecordSearch
