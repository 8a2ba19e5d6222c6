import RecordSearch.Proofs.Record.Leaves

/-!
# Unambiguous records

A record is unambiguous if none of its keys is empty and no two of its chains have the same path.
Each path then stands for one place of the record, so flattening and look-up are inverse to each
other: the leaves have different names, and they are the scalars that look-up finds.
-/

namespace RecordSearch.Record

/-- The record has no empty key at any level, and no two different chains through its objects have
the same path. -/
structure Unambiguous (record : Record) : Prop where
  noEmptyKey : ∀ keys, valueAt? record.members keys ≠ none → "" ∉ keys
  oneChain : ∀ keys others, valueAt? record.members keys ≠ none →
    valueAt? record.members others ≠ none → dotted keys = dotted others → keys = others

section Deciding

/-- Whether a record is unambiguous shows in the list of its chains. -/
theorem unambiguous_iff {record : Record} :
    record.Unambiguous ↔
      (∀ keys ∈ (chains record.members).map Prod.fst, "" ∉ keys) ∧
        (((chains record.members).map Prod.fst).map dotted).Nodup := by
  have listed {keys : List String} :
      keys ∈ (chains record.members).map Prod.fst ↔ valueAt? record.members keys ≠ none :=
    mem_map_fst_chains_iff record.distinct
  constructor
  · rintro ⟨noEmptyKey, oneChain⟩
    refine ⟨fun keys isChain => noEmptyKey keys (listed.1 isChain), ?_⟩
    have distinct := nodup_chains record.members record.distinct.1 record.distinct.2
    apply distinct.map_on
    intro keys isChain others isOther samePath
    exact oneChain keys others (listed.1 isChain) (listed.1 isOther) samePath
  · rintro ⟨noEmptyKey, distinctPaths⟩
    refine ⟨fun keys leads => noEmptyKey keys (listed.2 leads), ?_⟩
    intro keys others leads otherLeads samePath
    exact List.inj_on_of_nodup_map distinctPaths (listed.2 leads) (listed.2 otherLeads) samePath

instance (record : Record) : Decidable record.Unambiguous :=
  decidable_of_iff _ unambiguous_iff.symm

/-- A key with a dot and a chain of two keys can have the same path. -/
example :
    ¬Unambiguous ⟨[("a", .object [("b", .null)]), ("a.b", .null)],
      by simp [Json.Distinct, Json.DistinctMembers, Json.Members.keys]⟩ := by
  decide

end Deciding

section Leaves

variable {record : Record} {path : String} {scalar : Json}

/-- Without empty keys a chain names its leaf by its path. -/
theorem Unambiguous.nameBelow_eq (unambiguous : record.Unambiguous) {keys : List String}
    (leads : valueAt? record.members keys ≠ none) : nameBelow "" keys = dotted keys := by
  obtain ⟨value, found⟩ := Option.ne_none_iff_exists'.1 leads
  apply nameBelow_of_valueAt? found
  intro child atEmpty
  have leadsThere : valueAt? record.members [""] ≠ none := by
    rw [valueAt?, atEmpty]
    simp
  exact unambiguous.noEmptyKey [""] leadsThere List.mem_cons_self

/-- The only chain of a path that leads to a value is the first one. -/
theorem Unambiguous.isFirstChain (unambiguous : record.Unambiguous) {keys : List String}
    (leads : valueAt? record.members keys ≠ none) :
    IsFirstChain record.members (dotted keys) keys where
  ofPath := rfl
  leads := leads
  first other ofPath otherLeads := .inl (unambiguous.oneChain other keys otherLeads leads ofPath)

/-- The leaves of an unambiguous record have different names. -/
theorem Unambiguous.nodup_names (unambiguous : record.Unambiguous) :
    (record.leaves.map Prod.fst).Nodup := by
  have distinctPaths := (unambiguous_iff.1 unambiguous).2
  have names : record.leaves.map Prod.fst =
      (((chains record.members).filter (·.2.isScalar)).map Prod.fst).map dotted := by
    rw [leaves, scalarsBelow_eq_chains, List.map_map, List.map_map]
    apply List.map_congr_left
    intro chain isScalarChain
    have isChain : chain.1 ∈ (chains record.members).map Prod.fst :=
      List.mem_map_of_mem (List.mem_of_mem_filter isScalarChain)
    exact unambiguous.nameBelow_eq ((mem_map_fst_chains_iff record.distinct).1 isChain)
  rw [names]
  exact distinctPaths.sublist (List.filter_sublist.map _ |>.map _)

/-- A leaf of an unambiguous record is found under its name. -/
theorem Unambiguous.get?_of_mem_leaves (unambiguous : record.Unambiguous)
    (isLeaf : (path, scalar) ∈ record.leaves) :
    record.get? path = some scalar ∧ scalar.isScalar = true := by
  obtain ⟨keys, leads, isScalar, rfl⟩ :=
    exists_chain_of_mem_scalarsBelow record.distinct isLeaf
  have leadsThere : valueAt? record.members keys ≠ none := by
    rw [leads]
    simp
  rw [unambiguous.nameBelow_eq leadsThere]
  refine ⟨?_, isScalar⟩
  calc record.get? (dotted keys) = valueAt? record.members keys :=
        find?_of_firstChain (unambiguous.isFirstChain leadsThere)
    _ = some scalar := leads

/-- A scalar that is found in an unambiguous record is a leaf. -/
theorem Unambiguous.mem_leaves_of_get? (unambiguous : record.Unambiguous)
    (found : record.get? path = some scalar) (isScalar : scalar.isScalar = true) :
    (path, scalar) ∈ record.leaves := by
  obtain ⟨keys, isFirst, isLeaf⟩ := exists_firstChain_of_get? found isScalar
  rwa [unambiguous.nameBelow_eq isFirst.leads, isFirst.ofPath] at isLeaf

/-- The leaves of an unambiguous record have different names, and a scalar is a leaf of some name
exactly where look-up finds it under that name. -/
theorem mem_leaves_iff_get? (unambiguous : record.Unambiguous) :
    (record.leaves.map Prod.fst).Nodup ∧
      ∀ path scalar, (path, scalar) ∈ record.leaves ↔
        record.get? path = some scalar ∧ scalar.isScalar = true := by
  refine ⟨unambiguous.nodup_names, fun path scalar => ⟨unambiguous.get?_of_mem_leaves, ?_⟩⟩
  rintro ⟨found, isScalar⟩
  exact unambiguous.mem_leaves_of_get? found isScalar

/-- A record with dots in its keys, where each path still has one chain. -/
def dottedKeys : Record where
  members := [("a", .object [("b", .object [("c", .bool true)]), ("x.y", .null)]),
    ("a.b.d", .string "s"), ("a.e", .object [("f", .array [])])]
  distinct := by
    simp [Json.Distinct, Json.DistinctMembers, Json.DistinctItems, Json.Members.keys]

/-- The leaves of a record with dots in its keys are the scalars that are found in it. -/
theorem mem_leaves_iff_get?_dottedKeys :
    dottedKeys.Unambiguous ∧
      dottedKeys.leaves = [("a.b.c", .bool true), ("a.x.y", .null), ("a.b.d", .string "s")] ∧
      (dottedKeys.leaves.map Prod.fst).Nodup ∧
      ∀ path scalar, (path, scalar) ∈ dottedKeys.leaves ↔
        dottedKeys.get? path = some scalar ∧ scalar.isScalar = true := by
  have unambiguous : dottedKeys.Unambiguous := by decide
  exact ⟨unambiguous, rfl, mem_leaves_iff_get? unambiguous⟩

end Leaves

end RecordSearch.Record
