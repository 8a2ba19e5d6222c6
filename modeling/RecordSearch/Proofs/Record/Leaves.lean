import RecordSearch.Proofs.Record.Chains

/-!
# Leaves by chains of keys

The leaves of a record are named on the way down, and look-up cuts a name on the way in. The leaves
are the chains of keys that lead to scalars, in their order, each named on its way:
`scalarsBelow_eq_chains`. The name of a leaf is the path of its chain, unless the chain goes through
an object under the empty key of the record. So the name of any other leaf resolves, and a scalar
that look-up finds under a path is a leaf of that name, unless the path starts with a dot.
-/

namespace RecordSearch.Record

/-- The name of a leaf at the end of a chain below a path. -/
def nameBelow (path : String) (keys : List String) : String := keys.foldl below path

mutual

/-- The scalars at and below a value are at the ends of the chains from it. -/
theorem scalarsAt_eq_chains (path : String) : (value : Json) →
    scalarsAt path value =
      ((chainsFrom value).filter (·.2.isScalar)).map fun chain => (nameBelow path chain.1, chain.2)
  | .object members => scalarsBelow_eq_chains path members
  | .array _ | .null | .bool _ | .number _ | .string _ => rfl

/-- The scalars below some members are at the ends of their chains. -/
theorem scalarsBelow_eq_chains (path : String) : (members : List (String × Json)) →
    scalarsBelow path members =
      ((chains members).filter (·.2.isScalar)).map fun chain => (nameBelow path chain.1, chain.2)
  | [] => rfl
  | (key, value) :: more => by
    rw [scalarsBelow, scalarsAt_eq_chains (below path key) value, scalarsBelow_eq_chains path more,
      chains, List.filter_append, List.map_append, List.filter_map, List.map_map]
    rfl

end

/-- A leaf below some members is a scalar at the end of a chain that gives it its name. -/
theorem exists_chain_of_mem_scalarsBelow {path name : String} {members : Json.Members}
    {scalar : Json} (distinct : (Json.object members).Distinct)
    (isLeaf : (name, scalar) ∈ scalarsBelow path members) :
    ∃ keys, valueAt? members keys = some scalar ∧ scalar.isScalar = true ∧
      name = nameBelow path keys := by
  rw [scalarsBelow_eq_chains] at isLeaf
  obtain ⟨⟨keys, value⟩, isChain, same⟩ := List.mem_map.1 isLeaf
  cases same
  obtain ⟨listed, isScalar⟩ := List.mem_filter.1 isChain
  exact ⟨keys, valueAt?_of_mem_chains distinct listed, isScalar, rfl⟩

/-- A scalar at the end of a chain is a leaf, with the name that the chain gives it. -/
theorem mem_scalarsBelow_of_valueAt? {path : String} {members : Json.Members}
    {keys : List String} {scalar : Json} (leads : valueAt? members keys = some scalar)
    (isScalar : scalar.isScalar = true) :
    (nameBelow path keys, scalar) ∈ scalarsBelow path members := by
  rw [scalarsBelow_eq_chains]
  exact List.mem_map.2 ⟨(keys, scalar), List.mem_filter.2 ⟨mem_chains_of_valueAt? leads, isScalar⟩,
    rfl⟩

/-- Below a path that is not empty, a name is the path of the chain that starts with it. -/
theorem nameBelow_eq_dotted {path : String} (nonempty : path ≠ "") (keys : List String) :
    nameBelow path keys = dotted (path :: keys) := by
  induction keys generalizing path with
  | nil => exact (dotted_singleton path).symm
  | cons key keys ih =>
    have step : below path key = path ++ "." ++ key := by
      rw [below, if_neg (by simpa using nonempty)]
    have stillNonempty : below path key ≠ "" := by
      rw [step]
      simp
    calc nameBelow path (key :: keys) = nameBelow (below path key) keys := rfl
      _ = dotted (below path key :: keys) := ih stillNonempty
      _ = dotted (path :: key :: keys) := by
        unfold dotted
        rw [step, String.intercalate_cons_append, String.intercalate_cons_cons]

/-- The name that a chain gives is its path, unless the chain goes on behind an empty first key. -/
theorem nameBelow_of_ne {keys : List String} (noGap : ∀ next more, keys ≠ "" :: next :: more) :
    nameBelow "" keys = dotted keys := by
  match keys with
  | [] => rfl
  | [key] => exact (dotted_singleton key).symm
  | key :: next :: more =>
    have notEmpty : key ≠ "" := by
      rintro rfl
      exact noGap next more rfl
    exact nameBelow_eq_dotted notEmpty (next :: more)

/-- The name of a leaf is the path of its chain, unless an empty first key leads to an object. -/
theorem nameBelow_of_valueAt? {members : Json.Members} {keys : List String} {value : Json}
    (leads : valueAt? members keys = some value)
    (noObject : ∀ child, Json.Members.get? members "" ≠ some (.object child)) :
    nameBelow "" keys = dotted keys := by
  apply nameBelow_of_ne
  rintro next more rfl
  rw [valueAt?_cons (by simp)] at leads
  split at leads
  · next child found => exact noObject child found
  · cases leads

/-- The chain leads to a scalar of the record, which gets the name on the way down. -/
structure LeafAt (record : Record) (name : String) (keys : List String) (scalar : Json) :
    Prop where
  leads : valueAt? record.members keys = some scalar
  isScalar : scalar.isScalar = true
  named : nameBelow "" keys = name

/-- The leaves of a record are the scalars at its chains. -/
theorem mem_leaves_iff {record : Record} {name : String} {scalar : Json} :
    (name, scalar) ∈ record.leaves ↔ ∃ keys, record.LeafAt name keys scalar := by
  constructor
  · intro isLeaf
    obtain ⟨keys, leads, isScalar, named⟩ :=
      exists_chain_of_mem_scalarsBelow record.distinct isLeaf
    exact ⟨keys, leads, isScalar, named.symm⟩
  · rintro ⟨keys, leads, isScalar, rfl⟩
    exact mem_scalarsBelow_of_valueAt? leads isScalar

/-- Look-up of the name of a chain finds the value of the first chain of the name, which is the
chain itself or one that comes before it. -/
structure Resolves (record : Record) (name : String) (keys : List String) : Prop where
  ofPath : dotted keys = name
  found : ∃ first, IsFirstChain record.members name first ∧
    (keys = first ∨ Before first keys) ∧ record.get? name = valueAt? record.members first

/-- The name of a leaf resolves, unless the chain goes on behind an empty first key. -/
theorem LeafAt.resolves {record : Record} {name : String} {keys : List String} {scalar : Json}
    (leaf : record.LeafAt name keys scalar) (noGap : ∀ next more, keys ≠ "" :: next :: more) :
    record.Resolves name keys := by
  have ofPath : dotted keys = name := (nameBelow_of_ne noGap).symm.trans leaf.named
  have leadsSomewhere : valueAt? record.members keys ≠ none := by
    rw [leaf.leads]
    simp
  obtain ⟨first, isFirst, order⟩ := exists_firstChain_of_valueAt? ofPath leadsSomewhere
  exact ⟨ofPath, first, isFirst, order, find?_of_firstChain isFirst⟩

/-- The name that a chain gives is its path, if the path does not start with a dot: only an empty
first key could drop one. -/
theorem nameBelow_of_head {keys : List String}
    (noDot : (dotted keys).toList.head? ≠ some '.') : nameBelow "" keys = dotted keys := by
  apply nameBelow_of_ne
  rintro next more rfl
  rw [dotted_cons (by simp)] at noDot
  exact noDot rfl

/-- A scalar that look-up finds is a leaf under the name that the first chain gives it. -/
theorem exists_firstChain_of_get? {record : Record} {path : String} {scalar : Json}
    (found : record.get? path = some scalar) (isScalar : scalar.isScalar = true) :
    ∃ keys, IsFirstChain record.members path keys ∧
      (nameBelow "" keys, scalar) ∈ record.leaves := by
  obtain ⟨keys, isFirst, leads⟩ := exists_firstChain_of_find? found
  exact ⟨keys, isFirst, mem_scalarsBelow_of_valueAt? leads isScalar⟩

/-- A scalar that look-up finds is a leaf under the path looked up, if the path does not start with
a dot. -/
theorem mem_leaves_of_get? {record : Record} {path : String} {scalar : Json}
    (found : record.get? path = some scalar) (isScalar : scalar.isScalar = true)
    (noDot : path.toList.head? ≠ some '.') : (path, scalar) ∈ record.leaves := by
  obtain ⟨keys, isFirst, isLeaf⟩ := exists_firstChain_of_get? found isScalar
  rw [← isFirst.ofPath] at noDot
  rwa [nameBelow_of_head noDot, isFirst.ofPath] at isLeaf

end RecordSearch.Record
