import RecordSearch.Proofs.Query.Attributes
import RecordSearch.Proofs.Text.ByteOrder
import Mathlib.Data.List.Sort

/-!
# The summary of a scan

The attributes after any part of a scan are a summary of the leaves read so far: sorted by name, one
for every path of a leaf, with the type of the first leaf there that is not null. One more leaf
keeps this, so every run of leaves does, and the leaves determine their summary. So a leaf that was
read before changes nothing, and more leaves give a type only to paths that had none but null.
-/

namespace RecordSearch

namespace Attribute

variable {leaves later : List (String × Json)} {known : List Attribute} {path name : String}
  {dataType : DataType}

/-- The type of the first leaf at a path that is not null, and null if all of them are. -/
def typeAt (path : String) (leaves : List (String × Json)) : DataType :=
  match leaves.find? fun leaf => leaf.1 = path ∧ DataType.ofJson leaf.2 ≠ .null with
  | some leaf => .ofJson leaf.2
  | none => .null

/-- A path has the type of its later leaves only if all the earlier ones are null. -/
theorem typeAt_append :
    typeAt path (leaves ++ later) = (typeAt path leaves).orElse (typeAt path later) := by
  unfold typeAt
  rw [List.find?_append]
  cases found : leaves.find? fun leaf => leaf.1 = path ∧ DataType.ofJson leaf.2 ≠ .null with
  | none => rfl
  | some leaf =>
    have isTyped := List.find?_some found
    simp only [decide_eq_true_eq] at isTyped
    exact (if_neg isTyped.2).symm

example : typeAt "x" [("x", .null), ("y", .bool true), ("x", .string "one"), ("x", .bool true)] =
    .string := by
  decide

/-- The type of a path is null if all of its leaves are, and only then. -/
theorem typeAt_eq_null_iff :
    typeAt path leaves = .null ↔
      ∀ value, (path, value) ∈ leaves → DataType.ofJson value = .null := by
  unfold typeAt
  cases found : leaves.find? fun leaf => leaf.1 = path ∧ DataType.ofJson leaf.2 ≠ .null with
  | none =>
    refine iff_of_true rfl fun value isLeaf => ?_
    have isNull := List.find?_eq_none.1 found (path, value) isLeaf
    simpa using isNull
  | some leaf =>
    have isTyped := List.find?_some found
    simp only [decide_eq_true_eq] at isTyped
    obtain ⟨rfl, notNull⟩ := isTyped
    exact iff_of_false notNull fun allNull =>
      notNull (allNull leaf.2 (List.mem_of_find?_eq_some found))

/-- The type of a path by a single leaf is that of the leaf, if it is at the path. -/
theorem typeAt_singleton (leaf : String × Json) :
    typeAt path [leaf] = if leaf.1 = path then DataType.ofJson leaf.2 else .null := by
  split
  · next same =>
    by_cases isNull : DataType.ofJson leaf.2 = .null
    · rw [isNull, typeAt_eq_null_iff]
      intro value isLeaf
      rw [← List.mem_singleton.1 isLeaf] at isNull
      exact isNull
    · unfold typeAt
      rw [List.find?_singleton, if_pos (decide_eq_true ⟨same, isNull⟩)]
  · next different =>
    refine typeAt_eq_null_iff.2 fun value isLeaf => absurd ?_ different
    rw [← List.mem_singleton.1 isLeaf]

/-- A path without leaves has no type but null. -/
theorem typeAt_of_absent (absent : ¬∃ value, (path, value) ∈ leaves) : typeAt path leaves = .null :=
  typeAt_eq_null_iff.2 fun value isLeaf => absurd ⟨value, isLeaf⟩ absent

/-- Leaves that were read before do not change the type of a path. -/
theorem typeAt_append_of_subset (seen : later ⊆ leaves) :
    typeAt path (leaves ++ later) = typeAt path leaves := by
  rw [typeAt_append, DataType.orElse]
  split
  · next isNull =>
    rw [isNull]
    exact typeAt_eq_null_iff.2 fun value isLeaf => typeAt_eq_null_iff.1 isNull value (seen isLeaf)
  · rfl

/-- The attributes are sorted by name, strictly. -/
def Sorted (attributes : List Attribute) : Prop := attributes.Pairwise fun a b => a.name < b.name

/-- What is before the first name is before all of them. -/
theorem Sorted.name_lt {first : Attribute} (sorted : Sorted (first :: known))
    (before : name < first.name) : ∀ a ∈ first :: known, name < a.name := by
  intro a isIn
  rcases List.mem_cons.1 isIn with rfl | inRest
  · exact before
  · exact String.lt_trans before ((List.pairwise_cons.1 sorted).1 a inRest)

/-- One more value at a path keeps the attributes sorted. -/
theorem sorted_insert (sorted : Sorted known) : Sorted (insert name dataType known) := by
  induction known with
  | nil => exact List.pairwise_singleton _ _
  | cons first rest ih =>
    obtain ⟨first_lt, sortedRest⟩ := List.pairwise_cons.1 sorted
    unfold insert
    split
    · next before => exact List.pairwise_cons.2 ⟨sorted.name_lt before, sorted⟩
    split
    · next same => exact List.pairwise_cons.2 ⟨same ▸ first_lt, sortedRest⟩
    · next notBefore different =>
      have after : first.name < name := Std.lt_of_le_of_ne notBefore (Ne.symm different)
      refine List.pairwise_cons.2 ⟨fun a isIn => ?_, ih sortedRest⟩
      rcases mem_names_insert.1 (List.mem_map_of_mem isIn) with same | wasKnown
      · exact same ▸ after
      · obtain ⟨other, inRest, same⟩ := List.mem_map.1 wasKnown
        exact same ▸ first_lt other inRest

/-- The attribute at the path of one more value has the type of the known one there, unless that is
null or there is none; the others are known. -/
theorem dataType_of_mem_insert (sorted : Sorted known) {a : Attribute}
    (isIn : a ∈ insert name dataType known) :
    a.name ≠ name ∧ a ∈ known ∨
      a.name = name ∧ ((∃ old, ⟨name, old⟩ ∈ known ∧ a.dataType = old.orElse dataType) ∨
        name ∉ known.map Attribute.name ∧ a.dataType = dataType) := by
  induction known with
  | nil => exact .inr (List.mem_singleton.1 isIn ▸ ⟨rfl, .inr ⟨List.not_mem_nil, rfl⟩⟩)
  | cons first rest ih =>
    obtain ⟨first_lt, sortedRest⟩ := List.pairwise_cons.1 sorted
    unfold insert at isIn
    split at isIn
    · next before =>
      -- The names are sorted, so none of the known ones is that of the value.
      have name_lt := sorted.name_lt before
      rcases List.mem_cons.1 isIn with rfl | isKnown
      · refine .inr ⟨rfl, .inr ⟨fun wasKnown => ?_, rfl⟩⟩
        obtain ⟨b, isKnown, same⟩ := List.mem_map.1 wasKnown
        exact String.lt_irrefl name (same ▸ name_lt b isKnown)
      · exact .inl ⟨fun same => String.lt_irrefl name (same ▸ name_lt a isKnown), isKnown⟩
    split at isIn
    · next same =>
      rcases List.mem_cons.1 isIn with rfl | inRest
      · exact .inr ⟨rfl, .inl ⟨first.dataType, same ▸ List.mem_cons_self, rfl⟩⟩
      · refine .inl ⟨fun isSame => ?_, List.mem_cons_of_mem _ inRest⟩
        have less := first_lt a inRest
        rw [isSame, same] at less
        exact String.lt_irrefl first.name less
    · next different =>
      rcases List.mem_cons.1 isIn with rfl | inserted
      · exact .inl ⟨Ne.symm different, List.mem_cons_self⟩
      rcases ih sortedRest inserted with
        ⟨isOther, inRest⟩ | ⟨same, ⟨old, inRest, ofOld⟩ | ⟨absent, isNew⟩⟩
      · exact .inl ⟨isOther, List.mem_cons_of_mem _ inRest⟩
      · exact .inr ⟨same, .inl ⟨old, List.mem_cons_of_mem _ inRest, ofOld⟩⟩
      · refine .inr ⟨same, .inr ⟨fun wasKnown => ?_, isNew⟩⟩
        rcases List.mem_cons.1 wasKnown with isFirst | inRest
        · exact different isFirst
        · exact absent inRest

/-- The attributes are those of the leaves: sorted, one for each path of a leaf, with the type of
the first leaf there that is not null. -/
structure IsSummary (leaves : List (String × Json)) (attributes : List Attribute) : Prop where
  sorted : Sorted attributes
  names : ∀ name, name ∈ attributes.map Attribute.name ↔ ∃ value, (name, value) ∈ leaves
  types : ∀ a ∈ attributes, a.dataType = typeAt a.name leaves

/-- No leaves have no attributes. -/
theorem isSummary_nil : IsSummary [] [] where
  sorted := List.Pairwise.nil
  names _ := by simp
  types _ isIn := absurd isIn List.not_mem_nil

/-- One more leaf keeps the attributes a summary. -/
theorem IsSummary.insert (summary : IsSummary leaves known) (leaf : String × Json) :
    IsSummary (leaves ++ [leaf]) (insert leaf.1 (.ofJson leaf.2) known) where
  sorted := sorted_insert summary.sorted
  names name := by
    rw [mem_names_insert, summary.names]
    constructor
    · rintro (rfl | ⟨value, isLeaf⟩)
      · exact ⟨leaf.2, List.mem_append_right _ List.mem_cons_self⟩
      · exact ⟨value, List.mem_append_left _ isLeaf⟩
    · rintro ⟨value, isLeaf⟩
      rcases List.mem_append.1 isLeaf with isEarlier | isLast
      · exact .inr ⟨value, isEarlier⟩
      · exact .inl (congrArg Prod.fst (List.mem_singleton.1 isLast))
  types a isIn := by
    rw [typeAt_append, typeAt_singleton]
    rcases dataType_of_mem_insert summary.sorted isIn with
      ⟨isOther, isKnown⟩ | ⟨same, ⟨old, isKnown, ofOld⟩ | ⟨absent, isNew⟩⟩
    · rw [if_neg (Ne.symm isOther), summary.types a isKnown, DataType.orElse]
      split
      · next isNull => exact isNull
      · rfl
    · rw [if_pos same.symm, ofOld, same]
      exact congrArg (DataType.orElse · _) (summary.types _ isKnown)
    · rw [if_pos same.symm, isNew, same, typeAt_of_absent (absent ∘ (summary.names _).2)]
      rfl

/-- The attributes after some more leaves. -/
def insertAll (known : List Attribute) (leaves : List (String × Json)) : List Attribute :=
  leaves.foldl (fun known leaf => insert leaf.1 (.ofJson leaf.2) known) known

/-- More leaves keep the attributes a summary. -/
theorem IsSummary.insertAll (summary : IsSummary leaves known) (later : List (String × Json)) :
    IsSummary (leaves ++ later) (insertAll known later) := by
  induction later generalizing leaves known with
  | nil =>
    rw [List.append_nil]
    exact summary
  | cons leaf later ih =>
    rw [List.append_cons]
    exact ih (summary.insert leaf)

/-- Leaves that were read before are no part of what a summary depends on. -/
theorem IsSummary.of_append (summary : IsSummary (leaves ++ later) known) (seen : later ⊆ leaves) :
    IsSummary leaves known where
  sorted := summary.sorted
  names name := by
    rw [summary.names]
    constructor
    · rintro ⟨value, isLeaf⟩
      exact ⟨value, (List.mem_append.1 isLeaf).elim id fun isLater => seen isLater⟩
    · rintro ⟨value, isLeaf⟩
      exact ⟨value, List.mem_append_left _ isLeaf⟩
  types a isIn := by rw [summary.types a isIn, typeAt_append_of_subset seen]

/-- An attribute of a summary has the path of a leaf and the type of that path, and every such
attribute is one of the summary. -/
theorem IsSummary.mem_iff (summary : IsSummary leaves known) (a : Attribute) :
    a ∈ known ↔ (∃ value, (a.name, value) ∈ leaves) ∧ a.dataType = typeAt a.name leaves := by
  constructor
  · intro isIn
    exact ⟨(summary.names a.name).1 (List.mem_map_of_mem isIn), summary.types a isIn⟩
  · rintro ⟨isPath, ofType⟩
    obtain ⟨b, isIn, sameName⟩ := List.mem_map.1 ((summary.names a.name).2 isPath)
    have sameType : b.dataType = a.dataType := by rw [summary.types b isIn, sameName, ofType]
    have same : b = a := by
      cases a
      cases b
      exact congr (congrArg Attribute.mk sameName) sameType
    exact same ▸ isIn

/-- No name is before a name that is before it. -/
instance : Std.Asymm fun a b : Attribute => a.name < b.name := ⟨fun _ _ => String.lt_asymm⟩

/-- Leaves have only one summary. -/
theorem IsSummary.unique {other : List Attribute} (summary : IsSummary leaves known)
    (also : IsSummary leaves other) : known = other :=
  summary.sorted.eq_of_mem_iff also.sorted fun a => (summary.mem_iff a).trans (also.mem_iff a).symm

/-- Leaves that were read before change nothing. -/
theorem IsSummary.insertAll_of_subset (summary : IsSummary leaves known) (seen : later ⊆ leaves) :
    Attribute.insertAll known later = known :=
  ((summary.insertAll later).of_append seen).unique summary

/-- More leaves keep every attribute, and its type unless that is null. -/
theorem IsSummary.exists_of_append {extended : List Attribute} (summary : IsSummary leaves known)
    (ofAll : IsSummary (leaves ++ later) extended) {a : Attribute} (isIn : a ∈ known) :
    ∃ b ∈ extended, b.name = a.name ∧ (a.dataType ≠ .null → b.dataType = a.dataType) := by
  obtain ⟨⟨value, isLeaf⟩, ofType⟩ := (summary.mem_iff a).1 isIn
  refine ⟨⟨a.name, typeAt a.name (leaves ++ later)⟩, (ofAll.mem_iff _).2 ⟨?_, rfl⟩, rfl, ?_⟩
  · exact ⟨value, List.mem_append_left _ isLeaf⟩
  · intro notNull
    rw [typeAt_append, ← ofType]
    exact if_neg notNull

end Attribute

namespace Store

/-- The store with the same records under other ids. -/
def listing (store : Store) (ids : List Nat) : Store := { store with ids := .ok ids }

/-- The leaves of the records that a scan of the ids reaches, in the order of the scan. -/
def leaves (store : Store) (ids : List Nat) : List (String × Json) :=
  (store.records ids).flatMap Record.leaves

/-- The leaves at later ids follow those at the earlier ones. -/
theorem leaves_append (store : Store) (before after : List Nat) :
    store.leaves (before ++ after) = store.leaves before ++ store.leaves after := by
  unfold leaves records
  rw [List.filterMap_append, List.flatMap_append]

/-- Ids that were read before have no leaves but those read before. -/
theorem leaves_subset {store : Store} {before again : List Nat} (isAgain : again ⊆ before) :
    store.leaves again ⊆ store.leaves before := by
  intro leaf isLeaf
  obtain ⟨record, isReached, ofRecord⟩ := List.mem_flatMap.1 isLeaf
  exact List.mem_flatMap.2 ⟨record, (List.filterMap_subset _ isAgain) isReached, ofRecord⟩

end Store

namespace Properties

variable {store : Store} {ids before after : List Nat} {known : List Attribute}
  {properties : Properties}

/-- A scan depends on the records of the store, not on the ids that it lists. -/
theorem scan_listing (listed : List Nat) :
    scan (store.listing listed) known ids = scan store known ids := by
  induction ids generalizing known with
  | nil => rfl
  | cons id ids ih =>
    have same : (store.listing listed).fetch id = store.fetch id := rfl
    rw [scan, scan, same]
    cases (store.fetch id).fetched with
    | hangs => rfl
    | failed error => rfl
    | absent => exact ih
    | record found => exact ih

/-- The properties of a store come from a scan of the ids that it lists. -/
theorem ofStore_listing (store : Store) (ids : List Nat) :
    ofStore (store.listing ids) = scan store [] ids :=
  scan_listing ids

/-- A scan goes on with what its first part collected, or ends as that does. -/
theorem scan_append (before after : List Nat) :
    scan store known (before ++ after) =
      match scan store known before with
      | .answers (.ok properties) => scan store properties.attributes after
      | stopped => stopped := by
  induction before generalizing known with
  | nil => rfl
  | cons id before ih =>
    rw [List.cons_append, scan, scan]
    cases (store.fetch id).fetched with
    | hangs => rfl
    | failed error => rfl
    | absent => exact ih
    | record found => exact ih

/-- A scan collects something only if no fetch fails or hangs. -/
theorem answered_of_scan (collected : scan store known ids = .answers (.ok properties)) :
    ∀ id ∈ ids, (store.fetch id).fetched = .absent ∨
      ∃ found, (store.fetch id).fetched = .record found := by
  induction ids generalizing known with
  | nil => exact fun id isIn => absurd isIn List.not_mem_nil
  | cons first ids ih =>
    rw [scan] at collected
    cases fetched : (store.fetch first).fetched with
    | hangs => rw [fetched] at collected; cases collected
    | failed error => rw [fetched] at collected; cases collected
    | absent =>
      rw [fetched] at collected
      exact List.forall_mem_cons.2 ⟨.inl fetched, ih collected⟩
    | record found =>
      rw [fetched] at collected
      exact List.forall_mem_cons.2 ⟨.inr ⟨found, fetched⟩, ih collected⟩

/-- A scan that nothing stops inserts the leaves of the records that it reaches. -/
theorem scan_eq_insertAll
    (answered : ∀ id ∈ ids, (store.fetch id).fetched = .absent ∨
      ∃ found, (store.fetch id).fetched = .record found) (known : List Attribute) :
    scan store known ids = .answers (.ok ⟨Attribute.insertAll known (store.leaves ids)⟩) := by
  rw [scan_of_answered answered known, Attribute.insertAll, Store.leaves, List.foldl_flatMap]
  rfl

/-- What a scan collects is a summary of the leaves of the records that it reaches. -/
theorem isSummary_of_scan (collected : scan store [] ids = .answers (.ok properties)) :
    Attribute.IsSummary (store.leaves ids) properties.attributes := by
  rw [scan_eq_insertAll (answered_of_scan collected)] at collected
  cases collected
  exact Attribute.isSummary_nil.insertAll (store.leaves ids)

/-- A scan collects nothing more from ids that it read before. -/
theorem scan_append_again {again : List Nat} (isAgain : again ⊆ before) :
    scan store [] (before ++ again) = scan store [] before := by
  rw [scan_append]
  split
  · next properties collected =>
    -- The leaves read again are among those read before, which have only one summary.
    have answered := answered_of_scan collected
    rw [scan_eq_insertAll (fun id isIn => answered id (isAgain isIn)),
      (isSummary_of_scan collected).insertAll_of_subset (Store.leaves_subset isAgain), collected]
  · rfl

/-- The properties do not change if ids are read again. -/
theorem ofStore_again {again : List Nat} (isAgain : again ⊆ before) :
    ofStore (store.listing (before ++ again ++ after)) =
      ofStore (store.listing (before ++ after)) := by
  rw [ofStore_listing, ofStore_listing, scan_append (before ++ again), scan_append_again isAgain,
    ← scan_append]

/-- A longer scan collects every attribute of a shorter one, with its type unless that is null. -/
theorem exists_of_ofStore_append {extended : Properties}
    (collected : ofStore (store.listing (before ++ after)) = .answers (.ok extended)) :
    ∃ properties, ofStore (store.listing before) = .answers (.ok properties) ∧
      ∀ a ∈ properties.attributes, ∃ b ∈ extended.attributes,
        b.name = a.name ∧ (a.dataType ≠ .null → b.dataType = a.dataType) := by
  rw [ofStore_listing] at collected
  have ofAll := isSummary_of_scan collected
  rw [Store.leaves_append] at ofAll
  have answered : ∀ id ∈ before, (store.fetch id).fetched = .absent ∨
      ∃ found, (store.fetch id).fetched = .record found :=
    fun id isIn => answered_of_scan collected id (List.mem_append_left _ isIn)
  have first := scan_eq_insertAll answered []
  refine ⟨_, (ofStore_listing store before).trans first, ?_⟩
  intro a isIn
  exact (isSummary_of_scan first).exists_of_append ofAll isIn

/-- A scan ends with the error of the first fetch that fails. -/
theorem scan_of_failed {id : Nat} {error : StoreError}
    (answered : ∀ earlier ∈ before, (store.fetch earlier).fetched = .absent ∨
      ∃ found, (store.fetch earlier).fetched = .record found)
    (failed : (store.fetch id).fetched = .failed error) :
    scan store known (before ++ id :: after) = .answers (.error error) := by
  rw [scan_append, scan_eq_insertAll answered]
  dsimp only
  rw [scan, failed]

/-- The properties of a store without failures are a summary of its leaves. -/
theorem isSummary_ofStore (unfailing : store.Unfailing ids) :
    ∃ properties, ofStore store = .answers (.ok properties) ∧
      Attribute.IsSummary (store.leaves ids) properties.attributes := by
  have collected := scan_eq_insertAll unfailing.answered []
  refine ⟨_, ?_, isSummary_of_scan collected⟩
  unfold ofStore
  rw [unfailing.listed]
  exact collected

/-- A store without failures has properties. Their attributes are sorted by the bytes of the names,
there is one for each path of a leaf in a record that the scan reaches, and its type is that of the
first leaf there that is not null. Ids read again change nothing. A longer scan keeps every
attribute and its type unless that is null. A store that cannot list its ids, or else fails to fetch
a record, gives the first error instead. -/
theorem ofStore_summarizes (store : Store) :
    (∀ ids, store.Unfailing ids → ∃ properties, ofStore store = .answers (.ok properties) ∧
      (properties.attributes.Pairwise fun a b => Text.bytes a.name < Text.bytes b.name) ∧
      (∀ name, name ∈ properties.attributes.map Attribute.name ↔
        ∃ record ∈ store.records ids, ∃ value, (name, value) ∈ record.leaves) ∧
      ∀ a ∈ properties.attributes,
        a.dataType = Attribute.typeAt a.name ((store.records ids).flatMap Record.leaves)) ∧
    (∀ before again after, again ⊆ before →
      ofStore (store.listing (before ++ again ++ after)) =
        ofStore (store.listing (before ++ after))) ∧
    (∀ ids more extended,
      ofStore (store.listing (ids ++ more)) = .answers (.ok extended) →
      ∃ properties, ofStore (store.listing ids) = .answers (.ok properties) ∧
        ∀ a ∈ properties.attributes, ∃ b ∈ extended.attributes,
          b.name = a.name ∧ (a.dataType ≠ .null → b.dataType = a.dataType)) ∧
    (∀ error, store.ids = .error error → ofStore store = .answers (.error error)) ∧
    ∀ before id after error, store.ids = .ok (before ++ id :: after) →
      (∀ earlier ∈ before, (store.fetch earlier).fetched = .absent ∨
        ∃ found, (store.fetch earlier).fetched = .record found) →
      (store.fetch id).fetched = .failed error → ofStore store = .answers (.error error) := by
  refine ⟨?_, fun _ _ _ => ofStore_again, fun _ _ _ => exists_of_ofStore_append, ?_, ?_⟩
  · intro ids unfailing
    obtain ⟨properties, collected, summary⟩ := isSummary_ofStore unfailing
    refine ⟨properties, collected, ?_, ?_, summary.types⟩
    · exact summary.sorted.imp Text.bytes_lt_bytes
    · intro name
      rw [summary.names]
      simp only [Store.leaves, List.mem_flatMap]
      exact ⟨fun ⟨value, record, isReached, isLeaf⟩ => ⟨record, isReached, value, isLeaf⟩,
        fun ⟨record, isReached, value, isLeaf⟩ => ⟨value, record, isReached, isLeaf⟩⟩
  · intro error unlisted
    unfold ofStore
    rw [unlisted]
  · intro before id after error listed answered failed
    unfold ofStore
    rw [listed]
    exact scan_of_failed answered failed

end Properties

end RecordSearch
