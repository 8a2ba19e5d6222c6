import RecordSearch.Json.Reader

/-!
# Distinct keys

No object of a value that was read has a key twice: `distinct_of_read?`.
-/

namespace RecordSearch.Json

mutual

/-- Every object in the value has distinct keys. -/
def Distinct : Json → Prop
  | array items => DistinctItems items
  | object members => (Members.keys members).Nodup ∧ DistinctMembers members
  | _ => True

/-- Every item has distinct keys throughout. -/
def DistinctItems : List Json → Prop
  | [] => True
  | item :: more => item.Distinct ∧ DistinctItems more

/-- The value of every member has distinct keys throughout. -/
def DistinctMembers : List (String × Json) → Prop
  | [] => True
  | (_, value) :: more => value.Distinct ∧ DistinctMembers more

end

theorem distinctItems_iff {items : List Json} :
    DistinctItems items ↔ ∀ item ∈ items, item.Distinct := by
  induction items with
  | nil => simp [DistinctItems]
  | cons item more ih => simp [DistinctItems, ih]

theorem distinctMembers_iff {members : Members} :
    DistinctMembers members ↔ ∀ member ∈ members, member.2.Distinct := by
  induction members with
  | nil => simp [DistinctMembers]
  | cons member more ih => simp [DistinctMembers, ih]

/-- Putting a value keeps the keys distinct. -/
theorem nodup_keys_put {members : Members} (key : String) (value : Json)
    (distinct : (Members.keys members).Nodup) :
    (Members.keys (Members.put key value members)).Nodup := by
  rw [Members.keys_put]
  split
  · exact distinct
  · next absent =>
    rw [List.nodup_append]
    exact ⟨distinct, by simp, by intro a found b last; simp_all; rintro rfl; contradiction⟩

/-- Putting a value with distinct keys keeps all values that way. -/
theorem distinctMembers_put {members : Members} {key : String} {value : Json}
    (before : DistinctMembers members) (own : value.Distinct) :
    DistinctMembers (Members.put key value members) := by
  induction members with
  | nil => exact ⟨own, trivial⟩
  | cons member more ih =>
    obtain ⟨other, old⟩ := member
    by_cases same : other = key
    · simpa [Members.put, same, DistinctMembers] using ⟨own, before.2⟩
    · simpa [Members.put, same, DistinctMembers] using ⟨before.1, ih before.2⟩

namespace Outline

mutual

/-- A value read from an outline has distinct keys. -/
theorem distinct_of_value? {levels : Nat} {found : Outline} {value : Json}
    (read : found.value? levels = some value) : value.Distinct := by
  match found with
  | null => simp only [value?, Option.some.injEq] at read; subst read; trivial
  | bool _ => simp only [value?, Option.some.injEq] at read; subst read; trivial
  | number _ =>
    simp only [value?, Option.map_eq_some_iff] at read
    obtain ⟨_, _, rfl⟩ := read
    trivial
  | string _ =>
    simp only [value?, Option.map_eq_some_iff] at read
    obtain ⟨_, _, rfl⟩ := read
    trivial
  | array items closed =>
    match levels, closed with
    | 0, _ => simp [value?] at read
    | _ + 1, false => simp [value?] at read
    | levels + 1, true =>
      simp only [value?, Option.map_eq_some_iff] at read
      obtain ⟨values, all, rfl⟩ := read
      exact distinctItems_of_values? all
  | object members closed =>
    match levels, closed with
    | 0, _ => simp [value?] at read
    | _ + 1, false => simp [value?] at read
    | levels + 1, true =>
      simp only [value?, Option.map_eq_some_iff] at read
      obtain ⟨all, each, rfl⟩ := read
      have noKeys : (Members.keys []).Nodup := List.nodup_nil
      exact distinct_of_members? noKeys trivial each
  | broken => simp [value?] at read

/-- Items read from outlines have distinct keys. -/
theorem distinctItems_of_values? {levels : Nat} {items : List Outline} {values : List Json}
    (read : values? levels items = some values) : DistinctItems values := by
  match items with
  | [] => simp only [values?, Option.some.injEq] at read; subst read; trivial
  | item :: more =>
    simp only [values?, Option.bind_eq_bind, Option.bind_eq_some_iff] at read
    obtain ⟨value, first, rest, others, same⟩ := read
    cases same
    exact ⟨distinct_of_value? first, distinctItems_of_values? others⟩

/-- Members put after members with distinct keys have distinct keys. -/
theorem distinct_of_members? {levels : Nat} {before after : Members}
    {members : List (Option String × Outline)} (keys : (Members.keys before).Nodup)
    (values : DistinctMembers before) (read : members? levels before members = some after) :
    (Members.keys after).Nodup ∧ DistinctMembers after := by
  match members with
  | [] =>
    simp only [members?, Option.some.injEq] at read
    subst read
    exact ⟨keys, values⟩
  | (key, item) :: more =>
    simp only [members?, Option.bind_eq_bind, Option.bind_eq_some_iff] at read
    obtain ⟨key, _, value, own, others⟩ := read
    exact distinct_of_members? (nodup_keys_put key value keys)
      (distinctMembers_put values (distinct_of_value? own)) others

end

end Outline

/-- A value read from a text has distinct keys. -/
theorem distinct_of_read? {text : List Text.Symbol} {value : Json}
    (read : read? text = some value) : value.Distinct := by
  unfold read? at read
  split at read
  · exact Outline.distinct_of_value? read
  · cases read

end RecordSearch.Json
