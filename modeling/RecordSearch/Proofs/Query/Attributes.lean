import RecordSearch.Proofs.Record.Leaves
import RecordSearch.Query.Collection

/-!
# Attributes by the leaves of records

A store without failures gives the attributes of the records that its scan reaches. Each attribute
has the name and the type of a leaf of one of them. In every record with a leaf of that name,
look-up finds the value of the first chain of the name, which may be another one than that of the
leaf.
-/

namespace RecordSearch

/-- The record that a fetch gives. -/
def Fetched.record? : Fetched → Option Record
  | .record found => some found
  | _ => none

namespace Store

/-- The ids are those of the store, and each of them is fetched or unknown. -/
structure Unfailing (store : Store) (ids : List Nat) : Prop where
  listed : store.ids = .ok ids
  answered : ∀ id ∈ ids, (store.fetch id).fetched = .absent ∨
    ∃ found, (store.fetch id).fetched = .record found

/-- The records that a scan of the ids reaches, in order. -/
def records (store : Store) (ids : List Nat) : List Record :=
  ids.filterMap fun id => (store.fetch id).fetched.record?

/-- The record at the first id is in front of those at the later ones. -/
theorem records_cons (store : Store) (id : Nat) (ids : List Nat) :
    store.records (id :: ids) =
      (store.fetch id).fetched.record?.toList ++ store.records ids := by
  unfold records
  rw [List.filterMap_cons]
  cases (store.fetch id).fetched.record? <;> rfl

end Store

namespace Attribute

/-- A value at a path adds its attribute or leaves the known ones: the type of a known one is kept
or becomes that of the value. -/
theorem mem_insert {a : Attribute} {name : String} {dataType : DataType}
    {known : List Attribute} (isIn : a ∈ insert name dataType known) :
    a = ⟨name, dataType⟩ ∨ a ∈ known := by
  induction known with
  | nil => exact .inl (List.mem_singleton.1 isIn)
  | cons first rest ih =>
    unfold insert at isIn
    split at isIn
    · exact (List.mem_cons.1 isIn).imp_right id
    split at isIn
    · next same =>
      rcases List.mem_cons.1 isIn with rfl | inRest
      · unfold DataType.orElse
        split
        · exact .inl rfl
        · exact .inr (by rw [same]; exact List.mem_cons_self)
      · exact .inr (List.mem_cons_of_mem _ inRest)
    · rcases List.mem_cons.1 isIn with rfl | inserted
      · exact .inr List.mem_cons_self
      · exact (ih inserted).imp_right (List.mem_cons_of_mem _)

/-- The attributes after some leaves are those known before and those of the leaves. -/
theorem mem_insertAll {a : Attribute} {leaves : List (String × Json)}
    {known : List Attribute}
    (isIn : a ∈ leaves.foldl (fun known leaf => insert leaf.1 (.ofJson leaf.2) known) known) :
    a ∈ known ∨
      ∃ value, (a.name, value) ∈ leaves ∧ DataType.ofJson value = a.dataType := by
  induction leaves generalizing known with
  | nil => exact .inl isIn
  | cons leaf leaves ih =>
    rcases ih isIn with inserted | ⟨value, isLeaf, sameType⟩
    · rcases mem_insert inserted with rfl | wasKnown
      · exact .inr ⟨leaf.2, List.mem_cons_self, rfl⟩
      · exact .inl wasKnown
    · exact .inr ⟨value, List.mem_cons_of_mem _ isLeaf, sameType⟩

/-- The attributes of some records are those known before and those of leaves of the records. -/
theorem mem_insertRecords {a : Attribute} {records : List Record} {known : List Attribute}
    (isIn : a ∈ records.foldl (fun known record => insertLeaves record known) known) :
    a ∈ known ∨ ∃ record ∈ records, ∃ value,
      (a.name, value) ∈ record.leaves ∧ DataType.ofJson value = a.dataType := by
  induction records generalizing known with
  | nil => exact .inl isIn
  | cons record records ih =>
    rcases ih isIn with inserted | ⟨later, isLater, ofLater⟩
    · exact (mem_insertAll inserted).imp_right fun ofRecord =>
        ⟨record, List.mem_cons_self, ofRecord⟩
    · exact .inr ⟨later, List.mem_cons_of_mem _ isLater, ofLater⟩

/-- The names after one more value at a path are those known before and the path. -/
theorem mem_names_insert {other name : String} {dataType : DataType} {known : List Attribute} :
    other ∈ (insert name dataType known).map Attribute.name ↔
      other = name ∨ other ∈ known.map Attribute.name := by
  induction known with
  | nil => simp [insert]
  | cons first rest ih =>
    unfold insert
    split
    · simp
    split
    · next same => simp [same]
    · rw [List.map_cons, List.mem_cons, ih, List.map_cons, List.mem_cons]
      exact or_left_comm

/-- The names after some leaves are those known before and those of the leaves. -/
theorem mem_names_insertAll {name : String} {leaves : List (String × Json)}
    {known : List Attribute} :
    name ∈ (leaves.foldl (fun known leaf => insert leaf.1 (.ofJson leaf.2) known) known).map
        Attribute.name ↔
      name ∈ known.map Attribute.name ∨ ∃ value, (name, value) ∈ leaves := by
  induction leaves generalizing known with
  | nil => simp
  | cons leaf leaves ih =>
    rw [List.foldl_cons, ih, mem_names_insert]
    constructor
    · rintro ((rfl | wasKnown) | ⟨value, isLeaf⟩)
      · exact .inr ⟨leaf.2, List.mem_cons_self⟩
      · exact .inl wasKnown
      · exact .inr ⟨value, List.mem_cons_of_mem _ isLeaf⟩
    · rintro (wasKnown | ⟨value, isLeaf⟩)
      · exact .inl (.inr wasKnown)
      · rcases List.mem_cons.1 isLeaf with same | isLater
        · exact .inl (.inl (congrArg Prod.fst same))
        · exact .inr ⟨value, isLater⟩

/-- The names after some records are those known before and those of leaves of the records. -/
theorem mem_names_insertRecords {name : String} {records : List Record} {known : List Attribute} :
    name ∈ (records.foldl (fun known record => insertLeaves record known) known).map
        Attribute.name ↔
      name ∈ known.map Attribute.name ∨
        ∃ record ∈ records, ∃ value, (name, value) ∈ record.leaves := by
  induction records generalizing known with
  | nil => simp
  | cons record records ih =>
    have first : name ∈ (insertLeaves record known).map Attribute.name ↔
        name ∈ known.map Attribute.name ∨ ∃ value, (name, value) ∈ record.leaves :=
      mem_names_insertAll
    rw [List.foldl_cons, ih, first]
    simp only [List.mem_cons, exists_eq_or_imp]
    exact or_assoc

end Attribute

namespace Properties

/-- A scan that nothing stops collects the attributes of the records that it reaches. -/
theorem scan_of_answered {store : Store} {ids : List Nat}
    (answered : ∀ id ∈ ids, (store.fetch id).fetched = .absent ∨
      ∃ found, (store.fetch id).fetched = .record found) (known : List Attribute) :
    scan store known ids = .answers (.ok ⟨(store.records ids).foldl
      (fun known record => Attribute.insertLeaves record known) known⟩) := by
  induction ids generalizing known with
  | nil => rfl
  | cons id ids ih =>
    have later := ih fun other isLater => answered other (List.mem_cons_of_mem _ isLater)
    rw [scan, Store.records_cons]
    rcases answered id List.mem_cons_self with absent | ⟨found, fetched⟩
    · rw [absent]
      exact later known
    · rw [fetched]
      exact later (Attribute.insertLeaves found known)

/-- The properties of a store without failures have the attributes of the records that the scan
reaches. -/
theorem ofStore_eq_foldl {store : Store} {ids : List Nat} (unfailing : store.Unfailing ids) :
    ofStore store = .answers (.ok ⟨(store.records ids).foldl
      (fun known record => Attribute.insertLeaves record known) []⟩) := by
  unfold ofStore
  rw [unfailing.listed]
  exact scan_of_answered unfailing.answered []

/-- A store without failures has properties, and each of their attributes has the name and the type
of a leaf of a record that the scan reaches. -/
theorem ofStore_of_unfailing {store : Store} {ids : List Nat} (unfailing : store.Unfailing ids) :
    ∃ properties, ofStore store = .answers (.ok properties) ∧
      ∀ a ∈ properties.attributes, ∃ record ∈ store.records ids, ∃ value,
        (a.name, value) ∈ record.leaves ∧
          DataType.ofJson value = a.dataType := by
  refine ⟨_, ofStore_eq_foldl unfailing, ?_⟩
  intro a isAttribute
  exact (Attribute.mem_insertRecords isAttribute).resolve_left List.not_mem_nil

/-- The properties of a store without failures name the leaves of the records that the scan reaches,
and nothing else. -/
theorem mem_names_ofStore {store : Store} {ids : List Nat} (unfailing : store.Unfailing ids) :
    ∃ properties, ofStore store = .answers (.ok properties) ∧
      ∀ name, name ∈ properties.attributes.map Attribute.name ↔
        ∃ record ∈ store.records ids, ∃ value, (name, value) ∈ record.leaves := by
  refine ⟨_, ofStore_eq_foldl unfailing, ?_⟩
  intro name
  rw [Attribute.mem_names_insertRecords, List.map_nil]
  exact or_iff_right List.not_mem_nil

/-- A store without failures has properties. Each of their attributes has the name and the type of a
leaf of a record that the scan reaches. In every record that the scan reaches, and for every leaf of
that name in it, look-up of the name finds the value of the first chain of the name, so the leaf
itself unless another chain comes before its own. Only the leaves behind an empty first key are left
out of this: the key drops out of their names. -/
theorem ofStore_resolves {store : Store} {ids : List Nat} (unfailing : store.Unfailing ids) :
    ∃ properties, ofStore store = .answers (.ok properties) ∧
      ∀ a ∈ properties.attributes,
        (∃ record ∈ store.records ids, ∃ keys scalar, (a.name, scalar) ∈ record.leaves ∧
          record.LeafAt a.name keys scalar ∧ DataType.ofJson scalar = a.dataType) ∧
        ∀ record ∈ store.records ids, ∀ keys scalar, record.LeafAt a.name keys scalar →
          (∀ next more, keys ≠ "" :: next :: more) → record.Resolves a.name keys := by
  obtain ⟨properties, collected, ofLeaves⟩ := ofStore_of_unfailing unfailing
  refine ⟨properties, collected, ?_⟩
  intro a isAttribute
  obtain ⟨record, isReached, scalar, isLeaf, sameType⟩ := ofLeaves a isAttribute
  obtain ⟨keys, leaf⟩ := Record.mem_leaves_iff.1 isLeaf
  refine ⟨⟨record, isReached, keys, scalar, isLeaf, leaf, sameType⟩, ?_⟩
  intro other _ otherKeys otherScalar otherLeaf noGap
  exact otherLeaf.resolves noGap

section ShadowedLeaf

/-- A record with a leaf whose path is also one of its keys. -/
def shadowedLeaf : Record where
  members := [("a", .object [("b", .bool true)]), ("a.b", .string "s")]
  distinct := by simp [Json.Distinct, Json.DistinctMembers, Json.Members.keys]

/-- The store that has only the record with the shadowed leaf. -/
def shadowedStore : Store where
  ids := .ok [0]
  fetch := fun _ => { cancels := false, fetched := .record shadowedLeaf }

/-- The attribute of the shadowed leaf resolves to the first chain of its name. -/
theorem ofStore_resolves_shadowed :
    shadowedStore.Unfailing [0] ∧ shadowedLeaf.LeafAt "a.b" ["a", "b"] (.bool true) ∧
      shadowedLeaf.Resolves "a.b" ["a", "b"] := by
  have unfailing : shadowedStore.Unfailing [0] := ⟨rfl, fun id _ => .inr ⟨shadowedLeaf, rfl⟩⟩
  have leaf : shadowedLeaf.LeafAt "a.b" ["a", "b"] (.bool true) := ⟨rfl, rfl, rfl⟩
  have isReached : shadowedLeaf ∈ shadowedStore.records [0] := List.mem_singleton_self _
  obtain ⟨properties, collected, resolve⟩ := ofStore_resolves unfailing
  have listed : ofStore shadowedStore = .answers (.ok ⟨[⟨"a.b", .boolean⟩]⟩) := rfl
  rw [listed] at collected
  cases collected
  obtain ⟨-, resolves⟩ := resolve ⟨"a.b", .boolean⟩ (List.mem_singleton_self _)
  exact ⟨unfailing, leaf, resolves shadowedLeaf isReached _ _ leaf (by simp)⟩

/-- The attribute of the shadowed leaf has the type of the leaf, and look-up of its name finds the
string under the key instead. -/
theorem shadowedLeaf_not_found :
    ofStore shadowedStore = .answers (.ok ⟨[⟨"a.b", .boolean⟩]⟩) ∧
      ¬∃ record ∈ shadowedStore.records [0], ∃ value, record.get? "a.b" = some value ∧
        value.isScalar = true ∧ DataType.ofJson value = .boolean := by
  refine ⟨rfl, ?_⟩
  rintro ⟨record, isReached, value, found, -, isBoolean⟩
  have only : record = shadowedLeaf := List.mem_singleton.1 isReached
  subst only
  have shadowing : shadowedLeaf.get? "a.b" = some (.string "s") := rfl
  rw [shadowing] at found
  cases found
  cases isBoolean

end ShadowedLeaf

end Properties

end RecordSearch
