import RecordSearch.Record

/-!
# Look-up by chains of keys

A chain of keys leads through nested objects to a value, and the keys with dots between them are a
path. A path has a chain for every way in which it can be cut at its dots. `cuts` lists them in the
order in which look-up tries them, so that a look-up is a search of that list; `mem_cuts_iff` says
that the list has every chain of the path, and `pairwise_cuts` that it is in order.
-/

namespace RecordSearch.Record

/-- The path of a chain: its keys with dots between them. -/
def dotted (keys : List String) : String := ".".intercalate keys

/-- The value to which a chain leads: the last key is one of the object to which the keys before it
lead. -/
def valueAt? (members : Json.Members) : List String → Option Json
  | [] => none
  | [key] => Json.Members.get? members key
  | key :: next :: more =>
    match Json.Members.get? members key with
    | some (.object child) => valueAt? child (next :: more)
    | _ => none

/-- Which of two chains of one path is tried first: one key for the whole path before several, a
shorter first key before a longer one, and after the same first key the same again. -/
inductive Before : List String → List String → Prop where
  | whole {path key next : String} {more : List String} : Before [path] (key :: next :: more)
  | shorter {key next other last : String} {more others : List String}
    (fewer : key.length < other.length) : Before (key :: next :: more) (other :: last :: others)
  | deeper {key : String} {keys others : List String} (later : Before keys others) :
    Before (key :: keys) (key :: others)

/-- The chain is the first one of a path that leads to a value. -/
structure IsFirstChain (members : Json.Members) (path : String) (keys : List String) : Prop where
  ofPath : dotted keys = path
  leads : valueAt? members keys ≠ none
  first : ∀ other, dotted other = path → valueAt? members other ≠ none →
    other = keys ∨ Before keys other

section Chains

/-- A chain of several keys is its first key, a dot and the path of the others. -/
theorem dotted_cons {keys : List String} (nonempty : keys ≠ []) (key : String) :
    (dotted (key :: keys)).toList = key.toList ++ '.' :: (dotted keys).toList := by
  unfold dotted
  rw [String.intercalate_cons_of_ne_nil nonempty, String.toList_append, String.toList_append,
    List.append_assoc]
  rfl

/-- A chain of one key is that key. -/
theorem dotted_singleton (key : String) : dotted [key] = key := String.intercalate_singleton

/-- After the first of several keys a chain goes on in the object under it. -/
theorem valueAt?_cons {keys : List String} (nonempty : keys ≠ []) (members : Json.Members)
    (key : String) :
    valueAt? members (key :: keys) =
      match Json.Members.get? members key with
      | some (.object child) => valueAt? child keys
      | _ => none := by
  obtain ⟨next, more, rfl⟩ := List.exists_cons_of_ne_nil nonempty
  rfl

/-- A chain that leads to a value has a key. -/
theorem ne_nil_of_valueAt? {members : Json.Members} {keys : List String}
    (leads : valueAt? members keys ≠ none) : keys ≠ [] := by
  rintro rfl
  exact leads rfl

/-- No two chains come before each other. -/
theorem Before.asymm {keys others : List String} (before : Before keys others) :
    ¬Before others keys := by
  induction before with
  | whole =>
    intro after
    cases after with
    | deeper later => cases later
  | shorter fewer =>
    intro after
    cases after with
    | shorter more => omega
    | deeper later => omega
  | deeper later ih =>
    intro after
    cases after with
    | whole => cases later
    | shorter fewer => omega
    | deeper earlier => exact ih earlier

/-- A path has at most one first chain. -/
theorem IsFirstChain.unique {members : Json.Members} {path : String} {keys others : List String}
    (left : IsFirstChain members path keys) (right : IsFirstChain members path others) :
    keys = others := by
  rcases left.first others right.ofPath right.leads with same | before
  · exact same.symm
  rcases right.first keys left.ofPath left.leads with same | after
  · exact same
  · exact absurd after before.asymm

end Chains

section Cuts

/-- The chains of at least two keys for the text `key ++ rest`, where the first dot that is cut is
one of `rest`. -/
def cutsFrom (key : List Char) : List Char → List (List String)
  | [] => []
  | c :: rest =>
    (if c = '.' then
      ([String.ofList rest] :: cutsFrom [] rest).map (String.ofList key :: ·)
    else []) ++ cutsFrom (key ++ [c]) rest

/-- The chains of a path in the order in which they are tried. -/
def cuts (path : String) : List (List String) := [path] :: cutsFrom [] path.toList

/-- A chain of a text is the text as one key, or the text is cut at a dot into the first key and the
path of the others. -/
theorem dotted_toList_eq_iff {keys : List String} {text : List Char} :
    keys ≠ [] ∧ (dotted keys).toList = text ↔
      keys = [String.ofList text] ∨
        ∃ more others, others ≠ [] ∧ text = more ++ '.' :: (dotted others).toList ∧
          keys = String.ofList more :: others := by
  match keys with
  | [] => simp
  | [only] =>
    rw [dotted_singleton]
    constructor
    · rintro ⟨-, rfl⟩
      exact .inl (by rw [String.ofList_toList])
    · rintro (same | ⟨_, others, nonempty, -, same⟩)
      · simp [(List.cons.inj same).1]
      · exact absurd (List.cons.inj same).2.symm nonempty
  | first :: next :: others =>
    rw [dotted_cons (by simp)]
    constructor
    · rintro ⟨-, rfl⟩
      exact .inr ⟨first.toList, next :: others, by simp, rfl, by rw [String.ofList_toList]⟩
    · rintro (same | ⟨more, _, -, rfl, same⟩)
      · simp at same
      · obtain ⟨rfl, rfl⟩ := List.cons.inj same
        simp

/-- The first dot that is cut splits a path into the first key and the path of the others. -/
theorem mem_cutsFrom_iff {key rest : List Char} {keys : List String} :
    keys ∈ cutsFrom key rest ↔
      ∃ more others, others ≠ [] ∧ rest = more ++ '.' :: (dotted others).toList ∧
        keys = String.ofList (key ++ more) :: others := by
  induction rest generalizing key keys with
  | nil => simp [cutsFrom]
  | cons c rest ih =>
    have ofRest : ∀ others, others ∈ [String.ofList rest] :: cutsFrom [] rest ↔
        others ≠ [] ∧ (dotted others).toList = rest := by
      intro others
      rw [List.mem_cons, ih, dotted_toList_eq_iff]
      rfl
    rw [cutsFrom, List.mem_append, ih]
    constructor
    · rintro (here | ⟨more, others, nonempty, split, same⟩)
      · by_cases dot : c = '.'
        · rw [if_pos dot] at here
          obtain ⟨others, isCut, rfl⟩ := List.mem_map.1 here
          obtain ⟨nonempty, split⟩ := (ofRest others).1 isCut
          exact ⟨[], others, nonempty, by simp [dot, split], by simp⟩
        · simp [if_neg dot] at here
      · exact ⟨c :: more, others, nonempty, by simp [split], by simpa using same⟩
    · rintro ⟨more, others, nonempty, split, rfl⟩
      match more with
      | [] =>
        obtain ⟨dot, sameRest⟩ := List.cons.inj split
        left
        rw [if_pos dot, List.append_nil]
        exact List.mem_map_of_mem ((ofRest others).2 ⟨nonempty, sameRest.symm⟩)
      | d :: more =>
        obtain ⟨rfl, sameRest⟩ := List.cons.inj split
        exact .inr ⟨more, others, nonempty, sameRest, by simp⟩

/-- The chains of a path are listed, and nothing else is. -/
theorem mem_cuts_iff {path : String} {keys : List String} :
    keys ∈ cuts path ↔ keys ≠ [] ∧ dotted keys = path := by
  have same : dotted keys = path ↔ (dotted keys).toList = path.toList := String.toList_inj.symm
  rw [same, dotted_toList_eq_iff, cuts, List.mem_cons, mem_cutsFrom_iff, String.ofList_toList]
  rfl

/-- A chain that cuts a dot has at least two keys, and the first one starts with the text before. -/
theorem exists_of_mem_cutsFrom {key rest : List Char} {keys : List String}
    (isCut : keys ∈ cutsFrom key rest) :
    ∃ more next others, keys = String.ofList (key ++ more) :: next :: others := by
  obtain ⟨more, others, nonempty, -, rfl⟩ := mem_cutsFrom_iff.1 isCut
  obtain ⟨next, others, rfl⟩ := List.exists_cons_of_ne_nil nonempty
  exact ⟨more, next, others, rfl⟩

/-- Every chain of a text has a key. -/
theorem ne_nil_of_mem_cons {rest : List Char} {keys : List String}
    (isCut : keys ∈ [String.ofList rest] :: cutsFrom [] rest) : keys ≠ [] := by
  rcases List.mem_cons.1 isCut with rfl | later
  · simp
  · obtain ⟨more, next, others, rfl⟩ := exists_of_mem_cutsFrom later
    simp

/-- One key comes before the chains that cut its text. -/
theorem pairwise_whole_cons {rest : List Char} (later : (cutsFrom [] rest).Pairwise Before) :
    ([String.ofList rest] :: cutsFrom [] rest).Pairwise Before := by
  refine List.pairwise_cons.2 ⟨?_, later⟩
  intro keys isCut
  obtain ⟨more, next, others, rfl⟩ := exists_of_mem_cutsFrom isCut
  exact .whole

/-- The chains that cut a dot are listed in order: those that cut the first one come before those
that pass it, whose first key is longer. -/
theorem pairwise_cutsFrom (key rest : List Char) : (cutsFrom key rest).Pairwise Before := by
  induction rest generalizing key with
  | nil => exact .nil
  | cons c rest ih =>
    rw [cutsFrom, List.pairwise_append]
    refine ⟨?here, ih (key ++ [c]), ?hereFirst⟩
    case here =>
      split
      · exact List.pairwise_map.2 ((pairwise_whole_cons (ih [])).imp .deeper)
      · exact .nil
    case hereFirst =>
      intro left isHere right isLater
      obtain ⟨more, last, others, rfl⟩ := exists_of_mem_cutsFrom isLater
      split at isHere
      · obtain ⟨keys, isCut, rfl⟩ := List.mem_map.1 isHere
        obtain ⟨next, keys, rfl⟩ := List.exists_cons_of_ne_nil (ne_nil_of_mem_cons isCut)
        apply Before.shorter
        simp only [String.length_ofList, List.length_append, List.length_singleton]
        omega
      · cases isHere

/-- The chains of a path are listed in order. -/
theorem pairwise_cuts (path : String) : (cuts path).Pairwise Before := by
  have inOrder := pairwise_whole_cons (pairwise_cutsFrom [] path.toList)
  rwa [String.ofList_toList] at inOrder

end Cuts

section Search

/-- The chains after a first key are searched in the object under it. -/
theorem findSome?_map_cons {chains : List (List String)} (nonempty : ∀ keys ∈ chains, keys ≠ [])
    (members : Json.Members) (key : String) :
    (chains.map (key :: ·)).findSome? (valueAt? members) =
      match Json.Members.get? members key with
      | some (.object child) => chains.findSome? (valueAt? child)
      | _ => none := by
  induction chains with
  | nil => cases Json.Members.get? members key with
    | none => rfl
    | some value => cases value <;> rfl
  | cons keys chains ih =>
    have later := ih fun keys isLater => nonempty keys (List.mem_cons_of_mem _ isLater)
    have first := valueAt?_cons (nonempty keys List.mem_cons_self) members key
    rw [List.map_cons, List.findSome?_cons, first, later]
    cases Json.Members.get? members key with
    | none => rfl
    | some value => cases value <;> rfl

/-- At a dot look-up goes into the object under the key so far, and then past the dot. -/
theorem findCut?_dot (members : Json.Members) (key rest : List Char) :
    findCut? members key ('.' :: rest) =
      (match Json.Members.get? members (String.ofList key) with
        | some (.object child) => find? child (String.ofList rest)
        | _ => none).or (findCut? members (key ++ ['.']) rest) := by
  rw [findCut?.eq_def]
  cases Json.Members.get? members (String.ofList key) with
  | none => simp
  | some value => cases value <;> simp [find?]

/-- Any other character belongs to the key. -/
theorem findCut?_of_ne {c : Char} (notDot : c ≠ '.') (members : Json.Members)
    (key rest : List Char) :
    findCut? members key (c :: rest) = findCut? members (key ++ [c]) rest := by
  rw [findCut?.eq_def]
  simp [notDot]

/-- The whole path as one key comes first in look-up and in a search of chains. -/
theorem find?_of_cuts {members : Json.Members} {path : String}
    (later : findCut? members [] path.toList =
      (cutsFrom [] path.toList).findSome? (valueAt? members)) :
    find? members path = (cuts path).findSome? (valueAt? members) := by
  rw [find?, later, cuts, List.findSome?_cons]
  cases found : Json.Members.get? members path with
  | none => simp [valueAt?, found]
  | some value => simp [valueAt?, found]

/-- Look-up in the cuts of a path is a search of their chains. -/
theorem findCut?_eq_findSome? (members : Json.Members) (key rest : List Char) :
    findCut? members key rest = (cutsFrom key rest).findSome? (valueAt? members) := by
  induction rest generalizing members key with
  | nil => rfl
  | cons c rest ih =>
    rw [cutsFrom, List.findSome?_append, ← ih]
    by_cases dot : c = '.'
    · subst dot
      have inChild : ∀ child, find? child (String.ofList rest) =
          ([String.ofList rest] :: cutsFrom [] rest).findSome? (valueAt? child) := by
        intro child
        have later : findCut? child [] (String.ofList rest).toList =
            (cutsFrom [] (String.ofList rest).toList).findSome? (valueAt? child) := by
          rw [String.toList_ofList, ih]
        have found := find?_of_cuts later
        rwa [cuts, String.toList_ofList] at found
      rw [findCut?_dot, if_pos rfl, findSome?_map_cons fun keys => ne_nil_of_mem_cons]
      simp only [inChild]
    · rw [findCut?_of_ne dot, if_neg dot]
      rfl

/-- Look-up is a search of the chains of the path. -/
theorem find?_eq_findSome? (members : Json.Members) (path : String) :
    find? members path = (cuts path).findSome? (valueAt? members) :=
  find?_of_cuts (findCut?_eq_findSome? members [] path.toList)

end Search

section FirstChains

variable {members : Json.Members} {path : String}

/-- Look-up finds nothing where no chain of the path leads to a value. -/
theorem find?_eq_none_iff :
    find? members path = none ↔ ∀ keys, dotted keys = path → valueAt? members keys = none := by
  rw [find?_eq_findSome?, List.findSome?_eq_none_iff]
  constructor
  · intro nowhere keys ofPath
    by_cases nonempty : keys = []
    · rw [nonempty]
      rfl
    · exact nowhere keys (mem_cuts_iff.2 ⟨nonempty, ofPath⟩)
  · intro nowhere keys isCut
    exact nowhere keys (mem_cuts_iff.1 isCut).2

/-- What look-up finds is at the end of the first chain. -/
theorem exists_firstChain_of_find? {value : Json} (found : find? members path = some value) :
    ∃ keys, IsFirstChain members path keys ∧ valueAt? members keys = some value := by
  rw [find?_eq_findSome?, List.findSome?_eq_some_iff] at found
  obtain ⟨before, keys, after, split, leads, missed⟩ := found
  have inOrder := pairwise_cuts path
  rw [split] at inOrder
  have laterChains : ∀ other ∈ after, Before keys other :=
    (List.pairwise_cons.1 (List.pairwise_append.1 inOrder).2.1).1
  have isCut : keys ∈ cuts path := by
    rw [split]
    exact List.mem_append_right _ List.mem_cons_self
  refine ⟨keys, ⟨(mem_cuts_iff.1 isCut).2, by rw [leads]; simp, ?_⟩, leads⟩
  intro other ofPath otherLeads
  have otherCut : other ∈ cuts path := mem_cuts_iff.2 ⟨ne_nil_of_valueAt? otherLeads, ofPath⟩
  rw [split] at otherCut
  rcases List.mem_append.1 otherCut with isBefore | isLater
  · exact absurd (missed other isBefore) otherLeads
  rcases List.mem_cons.1 isLater with same | isAfter
  · exact .inl same
  · exact .inr (laterChains other isAfter)

/-- Look-up finds the value of the first chain. -/
theorem find?_of_firstChain {keys : List String} (isFirst : IsFirstChain members path keys) :
    find? members path = valueAt? members keys := by
  cases found : find? members path with
  | none => exact absurd (find?_eq_none_iff.1 found keys isFirst.ofPath) isFirst.leads
  | some value =>
    obtain ⟨others, isFirstToo, leads⟩ := exists_firstChain_of_find? found
    rw [isFirst.unique isFirstToo, leads]

/-- A path with a chain that leads to a value has a first one, which is that chain or comes before
it. -/
theorem exists_firstChain_of_valueAt? {keys : List String} (ofPath : dotted keys = path)
    (leads : valueAt? members keys ≠ none) :
    ∃ first, IsFirstChain members path first ∧ (keys = first ∨ Before first keys) := by
  cases found : find? members path with
  | none => exact absurd (find?_eq_none_iff.1 found keys ofPath) leads
  | some value =>
    obtain ⟨first, isFirst, -⟩ := exists_firstChain_of_find? found
    exact ⟨first, isFirst, isFirst.first keys ofPath leads⟩

/-- Look-up finds nothing exactly where no chain of the path leads to a value, and otherwise the
value of the first chain that leads to one. -/
theorem find?_firstChain (members : Json.Members) (path : String) :
    (find? members path = none ↔ ∀ keys, dotted keys = path → valueAt? members keys = none) ∧
      ∀ value, find? members path = some value ↔
        ∃ keys, IsFirstChain members path keys ∧ valueAt? members keys = some value := by
  refine ⟨find?_eq_none_iff, fun value => ⟨exists_firstChain_of_find?, ?_⟩⟩
  rintro ⟨keys, isFirst, leads⟩
  rw [find?_of_firstChain isFirst, leads]

/-- The shorter first key leads to an object without the rest, so the longer one is taken. -/
example :
    find? [("a", .object [("x", .null)]), ("a.b", .object [("c", .bool true)])] "a.b.c" =
      some (.bool true) := rfl

end FirstChains

end RecordSearch.Record
