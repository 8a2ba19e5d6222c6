import RecordSearch.Proofs.Record.Lookup
import Mathlib.Data.List.Nodup

/-!
# All chains of a record

`chains` lists the chains of keys that lead to values, each with its value, in the order in which a
record is walked through. Where keys are distinct at every level the list has every chain once, with
the value to which the chain leads: `mem_chains_iff` and `nodup_chains`.
-/

namespace RecordSearch

section Members

variable {members : Json.Members} {key : String} {value : Json}

/-- A member is found by its key where keys are distinct. -/
theorem Json.Members.get?_of_mem (distinct : (Json.Members.keys members).Nodup)
    (isMember : (key, value) ∈ members) : Json.Members.get? members key = some value := by
  induction members with
  | nil => cases isMember
  | cons member rest ih =>
    obtain ⟨other, old⟩ := member
    obtain ⟨absent, distinctRest⟩ := List.nodup_cons.1 distinct
    rcases List.mem_cons.1 isMember with same | isLater
    · cases same
      rw [Json.Members.get?, if_pos rfl]
    · have inRest : key ∈ Json.Members.keys rest := List.mem_map_of_mem isLater
      have different : other ≠ key := fun same => absent (same ▸ inRest)
      rw [Json.Members.get?, if_neg different]
      exact ih distinctRest isLater

/-- What is found under a key is a member. -/
theorem Json.Members.mem_of_get? (found : Json.Members.get? members key = some value) :
    (key, value) ∈ members := by
  induction members with
  | nil => cases found
  | cons member rest ih =>
    obtain ⟨other, old⟩ := member
    rw [Json.Members.get?] at found
    by_cases same : other = key
    · rw [if_pos same] at found
      cases found
      rw [same]
      exact List.mem_cons_self
    · rw [if_neg same] at found
      exact List.mem_cons_of_mem _ (ih found)

/-- The value of a member has distinct keys throughout. -/
theorem Json.Members.distinct_of_get? (distinct : (Json.object members).Distinct)
    (found : Json.Members.get? members key = some value) : value.Distinct :=
  Json.distinctMembers_iff.1 distinct.2 _ (Json.Members.mem_of_get? found)

end Members

namespace Record

section Joined

/-- Two chains one after the other have the paths of both with a dot between them. -/
theorem dotted_append {keys others : List String} (nonempty : keys ≠ [])
    (othersNonempty : others ≠ []) :
    (dotted (keys ++ others)).toList = (dotted keys).toList ++ '.' :: (dotted others).toList := by
  induction keys with
  | nil => exact absurd rfl nonempty
  | cons key keys ih =>
    by_cases last : keys = []
    · subst last
      rw [List.singleton_append, dotted_cons othersNonempty, dotted_singleton]
    · rw [List.cons_append, dotted_cons (List.append_ne_nil_of_left_ne_nil last others),
        dotted_cons last, ih last, List.append_assoc, List.cons_append]

/-- A chain to an object goes on as a chain of that object. -/
theorem valueAt?_append {members child : Json.Members} {keys others : List String}
    (leads : valueAt? members keys = some (.object child)) (nonempty : others ≠ []) :
    valueAt? members (keys ++ others) = valueAt? child others := by
  induction keys generalizing members with
  | nil => cases leads
  | cons key keys ih =>
    by_cases last : keys = []
    · subst last
      have atKey : Json.Members.get? members key = some (.object child) := leads
      rw [List.singleton_append, valueAt?_cons nonempty, atKey]
    · rw [valueAt?_cons last] at leads
      rw [List.cons_append, valueAt?_cons (List.append_ne_nil_of_left_ne_nil last others)]
      split at leads
      · next inner found => exact ih leads
      · cases leads

/-- What a chain leads to has distinct keys throughout. -/
theorem distinct_of_valueAt? {members : Json.Members} {keys : List String} {value : Json}
    (distinct : (Json.object members).Distinct) (leads : valueAt? members keys = some value) :
    value.Distinct := by
  induction keys generalizing members with
  | nil => cases leads
  | cons key keys ih =>
    by_cases last : keys = []
    · subst last
      exact Json.Members.distinct_of_get? distinct leads
    · rw [valueAt?_cons last] at leads
      split at leads
      · next child found => exact ih (Json.Members.distinct_of_get? distinct found) leads
      · cases leads

end Joined

section Listed

mutual

/-- The chains that start at a value with the values to which they lead; the one without keys leads
to the value itself. -/
def chainsFrom : Json → List (List String × Json)
  | .object members => ([], .object members) :: chains members
  | value => [([], value)]

/-- The chains of some members with the values to which they lead, in key order: a chain comes
before those that go on from it. -/
def chains : List (String × Json) → List (List String × Json)
  | [] => []
  | (key, value) :: more =>
    (chainsFrom value).map (fun chain => (key :: chain.1, chain.2)) ++ chains more

end

/-- A chain of some members is the key of one of them and a chain from its value. -/
theorem mem_chains_iff_exists {members : Json.Members} {keys : List String} {value : Json} :
    (keys, value) ∈ chains members ↔
      ∃ key found more, (key, found) ∈ members ∧ (more, value) ∈ chainsFrom found ∧
        keys = key :: more := by
  induction members with
  | nil => simp [chains]
  | cons member rest ih =>
    obtain ⟨first, own⟩ := member
    rw [chains, List.mem_append, ih, List.mem_map]
    constructor
    · rintro (⟨⟨more, last⟩, isChain, same⟩ | ⟨key, found, more, isMember, isChain, rfl⟩)
      · cases same
        exact ⟨first, own, more, List.mem_cons_self, isChain, rfl⟩
      · exact ⟨key, found, more, List.mem_cons_of_mem _ isMember, isChain, rfl⟩
    · rintro ⟨key, found, more, isMember, isChain, rfl⟩
      rcases List.mem_cons.1 isMember with same | isLater
      · cases same
        exact .inl ⟨(more, value), isChain, rfl⟩
      · exact .inr ⟨key, found, more, isLater, isChain, rfl⟩

/-- A chain from a value has no keys, or it is a chain of the members of the value. -/
theorem mem_chainsFrom_iff {found value : Json} {keys : List String} :
    (keys, value) ∈ chainsFrom found ↔
      (keys = [] ∧ value = found) ∨
        ∃ child, found = .object child ∧ (keys, value) ∈ chains child := by
  cases found <;> simp [chainsFrom]

/-- A chain of some members has a key. -/
theorem ne_nil_of_mem_chains {members : Json.Members} {keys : List String} {value : Json}
    (isChain : (keys, value) ∈ chains members) : keys ≠ [] := by
  obtain ⟨key, found, more, -, -, rfl⟩ := mem_chains_iff_exists.1 isChain
  simp

/-- A chain that leads to a value is listed with it. -/
theorem mem_chains_of_valueAt? {members : Json.Members} {keys : List String} {value : Json}
    (leads : valueAt? members keys = some value) : (keys, value) ∈ chains members := by
  induction keys generalizing members with
  | nil => cases leads
  | cons key keys ih =>
    rw [mem_chains_iff_exists]
    by_cases last : keys = []
    · subst last
      exact ⟨key, value, [], Json.Members.mem_of_get? leads, mem_chainsFrom_iff.2 (.inl ⟨rfl, rfl⟩),
        rfl⟩
    · rw [valueAt?_cons last] at leads
      split at leads
      · next child found =>
        exact ⟨key, .object child, keys, Json.Members.mem_of_get? found,
          mem_chainsFrom_iff.2 (.inr ⟨child, rfl, ih leads⟩), rfl⟩
      · cases leads

/-- A listed chain leads to its value where keys are distinct. -/
theorem valueAt?_of_mem_chains {members : Json.Members} {keys : List String} {value : Json}
    (distinct : (Json.object members).Distinct) (isChain : (keys, value) ∈ chains members) :
    valueAt? members keys = some value := by
  induction keys generalizing members with
  | nil => exact absurd rfl (ne_nil_of_mem_chains isChain)
  | cons key keys ih =>
    obtain ⟨_, found, _, isMember, later, same⟩ := mem_chains_iff_exists.1 isChain
    cases same
    have atKey := Json.Members.get?_of_mem distinct.1 isMember
    rcases mem_chainsFrom_iff.1 later with ⟨rfl, rfl⟩ | ⟨child, rfl, inChild⟩
    · exact atKey
    · have distinctChild : (Json.object child).Distinct :=
        Json.distinctMembers_iff.1 distinct.2 _ isMember
      rw [valueAt?_cons (ne_nil_of_mem_chains inChild), atKey]
      exact ih distinctChild inChild

/-- The listed chains are those that lead to values. -/
theorem mem_chains_iff {members : Json.Members} (distinct : (Json.object members).Distinct)
    {keys : List String} {value : Json} :
    (keys, value) ∈ chains members ↔ valueAt? members keys = some value :=
  ⟨valueAt?_of_mem_chains distinct, mem_chains_of_valueAt?⟩

/-- A chain is listed with some value exactly where it leads to one. -/
theorem mem_map_fst_chains_iff {members : Json.Members}
    (distinct : (Json.object members).Distinct) {keys : List String} :
    keys ∈ (chains members).map Prod.fst ↔ valueAt? members keys ≠ none := by
  rw [List.mem_map, Option.ne_none_iff_exists']
  constructor
  · rintro ⟨⟨_, value⟩, isChain, rfl⟩
    exact ⟨value, (mem_chains_iff distinct).1 isChain⟩
  · rintro ⟨value, leads⟩
    exact ⟨(keys, value), (mem_chains_iff distinct).2 leads, rfl⟩

mutual

/-- No chain from a value is listed twice. -/
theorem nodup_chainsFrom : (value : Json) → value.Distinct →
    ((chainsFrom value).map Prod.fst).Nodup
  | .object members, distinct => by
    rw [chainsFrom, List.map_cons, List.nodup_cons]
    refine ⟨?_, nodup_chains members distinct.1 distinct.2⟩
    intro listed
    obtain ⟨⟨keys, value⟩, isChain, same⟩ := List.mem_map.1 listed
    exact ne_nil_of_mem_chains isChain same
  | .null, _ | .bool _, _ | .number _, _ | .string _, _ | .array _, _ => by simp [chainsFrom]

/-- No chain of some members is listed twice. -/
theorem nodup_chains : (members : List (String × Json)) → (Json.Members.keys members).Nodup →
    Json.DistinctMembers members → ((chains members).map Prod.fst).Nodup
  | [], _, _ => .nil
  | (key, value) :: more, distinctKeys, distinctValues => by
    obtain ⟨absent, distinctMore⟩ := List.nodup_cons.1 distinctKeys
    have own : (((chainsFrom value).map Prod.fst).map (key :: ·)).Nodup :=
      (nodup_chainsFrom value distinctValues.1).map List.cons_injective
    have others := nodup_chains more distinctMore distinctValues.2
    rw [List.map_map] at own
    rw [chains, List.map_append, List.map_map]
    refine List.nodup_append.2 ⟨own, others, ?_⟩
    -- Chains of different members start with different keys.
    rintro _ isOwn _ isOther rfl
    obtain ⟨⟨below, _⟩, -, rfl⟩ := List.mem_map.1 isOwn
    obtain ⟨⟨_, last⟩, isChain, rfl⟩ := List.mem_map.1 isOther
    obtain ⟨_, found, _, isMember, -, same⟩ := mem_chains_iff_exists.1 isChain
    cases same
    have inMore : key ∈ more.map Prod.fst := List.mem_map_of_mem isMember
    exact absent inMore

end

end Listed

end Record

end RecordSearch
