import Mathlib.Logic.Relation
import RecordSearch.Proofs.Record.Chains

/-!
# Records with their keys in another order

Two values differ at most in order if the members of objects in the one, at any depth, can be
reordered until it is the other. Where keys are distinct every key then leads to values that differ
at most in order, so every chain of keys does, and the first chain of a path that leads anywhere is
the same in both: look-up does not depend on the order in which members are stored.
-/

namespace RecordSearch

namespace Json

/-- One value becomes the other by reordering the members of one object in it. -/
inductive Reorders : Json → Json → Prop where
  | here {members others : Members} (perm : members.Perm others) :
    Reorders (.object members) (.object others)
  /-- The object is in the value of a member. -/
  | member (before after : Members) (key : String) {value other : Json}
    (within : Reorders value other) :
    Reorders (.object (before ++ (key, value) :: after))
      (.object (before ++ (key, other) :: after))
  /-- The object is in an item of an array. -/
  | item (before after : List Json) {value other : Json} (within : Reorders value other) :
    Reorders (.array (before ++ value :: after)) (.array (before ++ other :: after))

/-- The values differ at most in the order of members, in any objects in them. -/
abbrev SameButOrder : Json → Json → Prop := Relation.ReflTransGen Reorders

variable {value other : Json} {members : Members}

/-- Reordering keeps keys distinct. -/
theorem Reorders.distinct (reorders : Reorders value other) (distinct : value.Distinct) :
    other.Distinct := by
  induction reorders with
  | here perm =>
    have keys : (Members.keys _).Perm (Members.keys _) := perm.map Prod.fst
    refine ⟨keys.nodup_iff.1 distinct.1, distinctMembers_iff.2 fun member isMember => ?_⟩
    exact distinctMembers_iff.1 distinct.2 member (perm.mem_iff.2 isMember)
  | member before after key within ih =>
    have values := distinctMembers_iff.1 distinct.2
    refine ⟨?_, distinctMembers_iff.2 ?_⟩
    · simpa [Members.keys] using distinct.1
    · rw [List.forall_mem_append, List.forall_mem_cons] at values ⊢
      exact ⟨values.1, ih values.2.1, values.2.2⟩
  | item before after within ih =>
    have items := distinctItems_iff.1 distinct
    refine distinctItems_iff.2 ?_
    rw [List.forall_mem_append, List.forall_mem_cons] at items ⊢
    exact ⟨items.1, ih items.2.1, items.2.2⟩

/-- A scalar has no members to reorder. -/
theorem SameButOrder.eq_of_isScalar (same : SameButOrder value other)
    (scalar : value.isScalar = true) : other = value := by
  induction same with
  | refl => rfl
  | tail _ reorders ih =>
    subst ih
    cases reorders <;> cases scalar

/-- Reordering in an array gives an array. -/
theorem SameButOrder.exists_items {items : List Json}
    (same : SameButOrder (.array items) other) : ∃ others, other = .array others := by
  induction same with
  | refl => exact ⟨items, rfl⟩
  | tail _ reorders ih =>
    obtain ⟨others, rfl⟩ := ih
    cases reorders with
    | item before after within => exact ⟨_, rfl⟩

/-- Reordering keeps what has members or items from being a scalar. -/
theorem SameButOrder.isScalar_eq (same : SameButOrder value other) :
    other.isScalar = value.isScalar := by
  induction same with
  | refl => rfl
  | tail _ reorders ih =>
    rw [← ih]
    cases reorders <;> rfl

/-- Where keys are distinct their order does not matter. -/
theorem Members.get?_of_perm {others : Members} (perm : members.Perm others)
    (distinct : (Members.keys members).Nodup) (key : String) :
    Members.get? others key = Members.get? members key := by
  have keys : (Members.keys members).Perm (Members.keys others) := perm.map Prod.fst
  apply Option.ext
  intro value
  constructor
  · intro found
    exact Members.get?_of_mem distinct (perm.mem_iff.2 (Members.mem_of_get? found))
  · intro found
    have isMember := perm.mem_iff.1 (Members.mem_of_get? found)
    exact Members.get?_of_mem (keys.nodup_iff.1 distinct) isMember

/-- What is found differs at most in order, and so does what is found next. -/
theorem SameButOrder.rel_trans {found next last : Option Json}
    (first : Option.Rel SameButOrder found next) (second : Option.Rel SameButOrder next last) :
    Option.Rel SameButOrder found last := by
  cases first with
  | none => exact second
  | some first =>
    cases second with
    | some second => exact .some (first.trans second)

/-- Nothing needs reordering to be what it is. -/
theorem SameButOrder.rel_refl (found : Option Json) : Option.Rel SameButOrder found found := by
  cases found with
  | none => exact .none
  | some value => exact .some .refl

/-- Replacing the value of a member leaves what is found under the other keys. -/
theorem Members.get?_replaced (before after : Members) (key : String)
    (same : SameButOrder value other) (wanted : String) :
    Option.Rel SameButOrder (Members.get? (before ++ (key, value) :: after) wanted)
      (Members.get? (before ++ (key, other) :: after) wanted) := by
  induction before with
  | nil =>
    rw [List.nil_append, List.nil_append, Members.get?, Members.get?]
    by_cases isKey : key = wanted
    · rw [if_pos isKey, if_pos isKey]
      exact .some same
    · rw [if_neg isKey, if_neg isKey]
      exact SameButOrder.rel_refl _
  | cons first before ih =>
    obtain ⟨earlier, own⟩ := first
    rw [List.cons_append, List.cons_append, Members.get?, Members.get?]
    by_cases isKey : earlier = wanted
    · rw [if_pos isKey, if_pos isKey]
      exact SameButOrder.rel_refl _
    · rw [if_neg isKey, if_neg isKey]
      exact ih

/-- Reordering an object gives an object with distinct keys, and what is found under a key differs
at most in order. -/
theorem SameButOrder.exists_members (same : SameButOrder (.object members) other)
    (distinct : (object members).Distinct) :
    ∃ others, other = .object others ∧ (object others).Distinct ∧
      ∀ key, Option.Rel SameButOrder (Members.get? members key) (Members.get? others key) := by
  induction same with
  | refl => exact ⟨members, rfl, distinct, fun key => rel_refl _⟩
  | tail _ reorders ih =>
    obtain ⟨others, rfl, distinctOthers, found⟩ := ih
    have distinctLast := reorders.distinct distinctOthers
    cases reorders with
    | here perm =>
      refine ⟨_, rfl, distinctLast, fun key => ?_⟩
      rw [Members.get?_of_perm perm distinctOthers.1]
      exact found key
    | member before after key within =>
      refine ⟨_, rfl, distinctLast, fun wanted => rel_trans (found wanted) ?_⟩
      exact Members.get?_replaced before after key (.single within) wanted

end Json

namespace Record

open Json (SameButOrder)

variable {members others : Json.Members}

/-- A chain of keys leads to values that differ at most in order. -/
theorem valueAt?_sameButOrder (same : SameButOrder (.object members) (.object others))
    (distinct : (Json.object members).Distinct) (keys : List String) :
    Option.Rel SameButOrder (valueAt? members keys) (valueAt? others keys) := by
  induction keys generalizing members others with
  | nil => exact .none
  | cons key keys ih =>
    obtain ⟨_, isObject, -, found⟩ := same.exists_members distinct
    cases isObject
    by_cases last : keys = []
    · rw [last]
      exact found key
    rw [valueAt?_cons last, valueAt?_cons last]
    have atKey := found key
    generalize leads : Json.Members.get? members key = first at atKey
    generalize Json.Members.get? others key = second at atKey
    cases atKey with
    | none => exact .none
    | @some value other sameValue =>
      cases value with
      | object child =>
        have distinctChild := Json.Members.distinct_of_get? distinct leads
        obtain ⟨_, rfl, -, -⟩ := sameValue.exists_members distinctChild
        exact ih sameValue distinctChild
      | array items =>
        obtain ⟨_, rfl⟩ := sameValue.exists_items
        exact .none
      | null | bool _ | number _ | string _ =>
        rw [sameValue.eq_of_isScalar rfl]
        exact .none

/-- Look-up in a record with reordered keys finds the same but for the order. -/
theorem get?_sameButOrder {record other : Record} (same : SameButOrder record.json other.json)
    (path : String) : Option.Rel SameButOrder (record.get? path) (other.get? path) := by
  rw [get?, get?, find?_eq_findSome?, find?_eq_findSome?]
  induction cuts path with
  | nil => exact .none
  | cons keys more ih =>
    rw [List.findSome?_cons, List.findSome?_cons]
    have leads := valueAt?_sameButOrder same record.distinct keys
    revert leads
    cases valueAt? record.members keys <;> cases valueAt? other.members keys <;> intro leads
    · exact ih
    · cases leads
    · cases leads
    · exact leads

end Record

end RecordSearch
