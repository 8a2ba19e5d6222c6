import Mathlib.Data.List.Perm.Basic
import RecordSearch.Json.Outline

/-!
# Outlines of values

The outline of a value's own text says all of the value: it is well formed, and no other value has
it. The members of a value are told apart by their names. A name that only one member has finds that
member in any order of the members, and the member can be taken out from among the others.
-/

namespace RecordSearch.Json

section Outlines

mutual

/-- An outline is that of one value only. -/
theorem Outline.ofJson_injective : {value other : Json} →
    Outline.ofJson value = .ofJson other → value = other
  | .array items, .array others, same => by
    simp only [ofJson, array.injEq, and_true] at same
    rw [ofItems_injective same]
  | .object members, .object others, same => by
    simp only [ofJson, object.injEq, and_true] at same
    rw [ofMembers_injective same]
  | .null, other, same | .bool _, other, same | .number _, other, same
  | .string _, other, same => by
    cases other <;> simp_all [ofJson]
  | .array _, .null, same | .array _, .bool _, same | .array _, .number _, same
  | .array _, .string _, same | .array _, .object _, same | .object _, .null, same
  | .object _, .bool _, same | .object _, .number _, same | .object _, .string _, same
  | .object _, .array _, same => by
    simp [ofJson] at same

/-- The outlines of items are those of these items only. -/
theorem Outline.ofItems_injective : {items others : List Json} →
    ofItems items = ofItems others → items = others
  | [], [], _ => rfl
  | [], _ :: _, same | _ :: _, [], same => by simp [ofItems] at same
  | item :: more, other :: others, same => by
    simp only [ofItems, List.cons.injEq] at same
    rw [ofJson_injective same.1, ofItems_injective same.2]

/-- The outlines of members are those of these members only. -/
theorem Outline.ofMembers_injective : {members others : List (String × Json)} →
    ofMembers members = ofMembers others → members = others
  | [], [], _ => rfl
  | [], _ :: _, same | _ :: _, [], same => by simp [ofMembers] at same
  | (key, value) :: more, (other, found) :: others, same => by
    simp only [ofMembers, List.cons.injEq, Prod.mk.injEq, Option.some.injEq] at same
    rw [same.1.1, ofJson_injective same.1.2, ofMembers_injective same.2]

end

mutual

/-- The outline of a value is well formed. -/
theorem Outline.wellFormed_ofJson : (value : Json) → (Outline.ofJson value).wellFormed = true
  | .array items => by
    rw [ofJson, wellFormed, wellFormedItems_ofItems items]
    rfl
  | .object members => by
    rw [ofJson, wellFormed, wellFormedMembers_ofMembers members]
    rfl
  | .null | .bool _ | .number _ | .string _ => rfl

/-- The outlines of items are well formed. -/
theorem Outline.wellFormedItems_ofItems : (items : List Json) →
    wellFormedItems (ofItems items) = true
  | [] => rfl
  | item :: more => by
    rw [ofItems, wellFormedItems, wellFormed_ofJson item, wellFormedItems_ofItems more]
    rfl

/-- The outlines of members are well formed. -/
theorem Outline.wellFormedMembers_ofMembers : (members : List (String × Json)) →
    wellFormedMembers (ofMembers members) = true
  | [] => rfl
  | (_, value) :: more => by
    rw [ofMembers, wellFormedMembers, wellFormed_ofJson value, wellFormedMembers_ofMembers more]
    rfl

end

end Outlines

section Named

variable {members others : Members} {name : String}

/-- The values of the members with a name, in order. -/
def Members.valuesOf (name : String) (members : Members) : List Json :=
  (members.filter (·.1 = name)).map Prod.snd

/-- The value of the first member counts if that has the name. -/
theorem Members.valuesOf_cons {key : String} {value : Json} :
    valuesOf name ((key, value) :: members) =
      if key = name then value :: valuesOf name members else valuesOf name members := by
  unfold valuesOf
  by_cases same : key = name <;> simp [same]

/-- Members without the name have no values under it. -/
theorem Members.valuesOf_eq_nil (differ : ∀ member ∈ members, member.1 ≠ name) :
    valuesOf name members = [] := by
  simpa [valuesOf] using differ

/-- The order of the members does not matter where only one has the name. -/
theorem Members.valuesOf_of_perm {value : Json} (perm : members.Perm others)
    (one : valuesOf name others = [value]) : valuesOf name members = [value] := by
  have values : (valuesOf name members).Perm (valuesOf name others) := (perm.filter _).map _
  rw [one] at values
  exact List.perm_singleton.1 values

/-- Leaving out members with another name leaves the values. -/
theorem Members.valuesOf_filter_ne {other : String} (different : name ≠ other) :
    valuesOf name (members.filter (·.1 ≠ other)) = valuesOf name members := by
  unfold valuesOf
  rw [List.filter_filter]
  congr 1
  apply List.filter_congr
  intro member _
  by_cases same : member.1 = name <;> simp [same, different]

/-- The only member with a name can be taken out of the members. -/
theorem Members.perm_of_valuesOf {value : Json} (one : valuesOf name members = [value]) :
    members.Perm ((name, value) :: members.filter (·.1 ≠ name)) := by
  have only : members.filter (·.1 = name) = [(name, value)] := by
    obtain ⟨⟨key, own⟩, only, same⟩ := List.map_eq_singleton_iff.1 one
    cases same
    have isIn : (key, own) ∈ members.filter (·.1 = name) := by
      rw [only]
      exact List.mem_singleton_self _
    have sameKey : key = name := by simpa using (List.mem_filter.1 isIn).2
    rw [only, sameKey]
  have split := List.filter_append_perm (fun member : String × Json => member.1 = name) members
  rw [only] at split
  simpa using split.symm

end Named

section Parts

variable {α β : Type} {encodes : α → β → Prop} {before after : Option α}

/-- What is known of a part after some values of its name: there is at most one of them in all. -/
inductive Takes (encodes : α → β → Prop) : Option α → List β → Option α → Prop where
  | nothing {before : Option α} : Takes encodes before [] before
  | one {part : α} {value : β} (encoded : encodes part value) :
    Takes encodes none [value] (some part)

/-- Without values nothing is taken. -/
theorem takes_nil_iff : Takes encodes before [] after ↔ after = before := by
  constructor
  · rintro ⟨⟩
    rfl
  · rintro rfl
    exact .nothing

/-- A value is taken where there was none before, and then no other one is. -/
theorem takes_cons_iff {value : β} {values : List β} :
    Takes encodes before (value :: values) after ↔
      before = none ∧ ∃ part, encodes part value ∧ Takes encodes (some part) values after := by
  constructor
  · intro taken
    cases taken with
    | one encoded => exact ⟨rfl, _, encoded, .nothing⟩
  · rintro ⟨rfl, part, encoded, later⟩
    cases later with
    | nothing => exact .one encoded

/-- A part comes from the only value of its name. -/
theorem takes_none_some_iff {values : List β} {part : α} :
    Takes encodes none values (some part) ↔ ∃ value, values = [value] ∧ encodes part value := by
  constructor
  · intro taken
    cases taken with
    | one encoded => exact ⟨_, rfl, encoded⟩
  · rintro ⟨value, rfl, encoded⟩
    exact .one encoded

end Parts

end RecordSearch.Json
