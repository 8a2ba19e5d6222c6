import RecordSearch.Proofs.Filter.Encoded
import RecordSearch.Proofs.Filter.Walks
import RecordSearch.Proofs.Json.Outlines

/-!
# The JSON values of a filter

Which JSON values are read as a filter, apart from how deep a text may nest: the one that the filter
is written as, and those that differ from it in the spelling of comparisons. The three members of a
comparison may come in any order and among other members, or as a list. A name may have null under
it, and a number may be written as any number that has it as its nearest double.
-/

namespace RecordSearch

open Json (Outline Takes takes_nil_iff takes_cons_iff takes_none_some_iff)

section Encodings

/-- The value is a name, alone or with null under it. -/
inductive Json.Names (name : String) : Json → Prop where
  | alone : Names name (.string name)
  | withNull : Names name (.object [(name, .null)])

/-- The value is a literal. -/
inductive Literal.EncodedBy : Literal → Json → Prop where
  | number (n : Json.Number) : EncodedBy (.number n.toDouble) (.object [("Number", .number n)])
  | string (s : String) : EncodedBy (.string s) (.object [("String", .string s)])
  | bool (value : Bool) : EncodedBy (.bool value) (.object [("Bool", .bool value)])
  | null {value : Json} (named : value.Names "Null") : EncodedBy .null value

/-- The names of the members of a comparison. -/
def Comparison.memberNames : List String := ["field", "operator", "literal"]

/-- The value is a comparison: an object with its three members in any order and among others with
other names, or the list of the three values. -/
inductive Comparison.EncodedBy (c : Comparison) : Json → Prop where
  | object {members others : Json.Members} {operator literal : Json}
    (named : operator.Names c.operator.word) (encoded : c.literal.EncodedBy literal)
    (parts : members.Perm
      (("field", .string c.field) :: ("operator", operator) :: ("literal", literal) :: others))
    (differ : ∀ member ∈ others, member.1 ∉ memberNames) : EncodedBy c (.object members)
  | list {operator literal : Json} (named : operator.Names c.operator.word)
    (encoded : c.literal.EncodedBy literal) :
    EncodedBy c (.array [.string c.field, operator, literal])

mutual

/-- The value is a filter. -/
inductive Filter.EncodedBy : Filter → Json → Prop where
  | comparison {c : Comparison} {value : Json} (encoded : c.EncodedBy value) :
    Filter.EncodedBy (.comparison c) (.object [("Field", value)])
  | node (connective : Connective) {children : List Filter} {items : List Json}
    (encoded : Filter.AllEncodedBy children items) :
    Filter.EncodedBy (connective.node children) (.object [(connective.key, .array items)])
  | not {operand : Filter} {value : Json} (encoded : Filter.EncodedBy operand value) :
    Filter.EncodedBy (.not operand) (.object [("Not", value)])

/-- The values are filters, one by one. -/
inductive Filter.AllEncodedBy : List Filter → List Json → Prop where
  | nil : Filter.AllEncodedBy [] []
  | cons {child : Filter} {item : Json} {children : List Filter} {items : List Json}
    (first : Filter.EncodedBy child item) (later : Filter.AllEncodedBy children items) :
    Filter.AllEncodedBy (child :: children) (item :: items)

end

end Encodings

section Written

/-- A literal is written as one of its values. -/
theorem Literal.encodedBy_json (literal : Literal) : literal.EncodedBy literal.json := by
  cases literal with
  | number x => exact .number (.double x)
  | string s => exact .string s
  | bool value => exact .bool value
  | null => exact .null .alone

/-- A comparison is written as one of its values. -/
theorem Comparison.encodedBy_json (c : Comparison) : c.EncodedBy c.json :=
  .object .alone c.literal.encodedBy_json (.refl _) (by simp)

/-- A list of filters is written item by item, so it is as each of them is. -/
theorem Filter.allEncodedBy_jsonItems {children : List Filter}
    (encoded : ∀ child ∈ children, child.EncodedBy child.json) :
    Filter.AllEncodedBy children (Filter.jsonItems children) := by
  induction children with
  | nil => exact .nil
  | cons child more ih =>
    rw [List.forall_mem_cons] at encoded
    exact .cons encoded.1 (ih encoded.2)

/-- A filter is written as one of its values. -/
theorem Filter.encodedBy_json (f : Filter) : f.EncodedBy f.json := by
  induction f using induction_nodes with
  | comparison c => exact .comparison c.encodedBy_json
  | node connective children encoded =>
    have items := allEncodedBy_jsonItems encoded
    cases connective with
    | and => exact .node .and items
    | or => exact .node .or items
  | not operand encoded => exact .not encoded

end Written

section Names

variable {levels : Nat} {value : Json}

/-- An object is read only with a level left. -/
theorem ne_zero_of_object {members : Json.Members}
    (deep : (Json.object members).levels ≤ levels) : levels ≠ 0 := by
  rw [Json.levels] at deep
  omega

/-- A name is read from the values that are one. -/
theorem nameOfOutline?_ofJson_iff {name : String} (deep : value.levels ≤ levels) :
    nameOfOutline? levels (.ofJson value) = some name ↔ value.Names name := by
  constructor
  · intro read
    unfold nameOfOutline? at read
    split at read
    case h_1 same =>
      cases read
      obtain rfl : value = .string name := Outline.ofJson_injective same
      exact .alone
    case h_2 key same =>
      obtain rfl : value = .object [(key, .null)] := Outline.ofJson_injective same
      rw [if_neg (ne_zero_of_object deep)] at read
      cases read
      exact .withNull
    case h_3 => cases read
  · intro named
    cases named with
    | alone => rfl
    | withNull =>
      simp only [Outline.ofJson, Outline.ofMembers, nameOfOutline?,
        if_neg (ne_zero_of_object deep)]

/-- An operator is found by its word. -/
theorem Operator.find?_word_iff {name : String} {operator : Operator} :
    (Operator.all.find? fun other => other.word == name) = some operator ↔
      operator.word = name := by
  constructor
  · intro found
    simpa using List.find?_some found
  · rintro rfl
    cases operator <;> rfl

/-- An operator is read from the values that are its word. -/
theorem Operator.ofOutline?_ofJson_iff {operator : Operator} (deep : value.levels ≤ levels) :
    Operator.ofOutline? levels (.ofJson value) = some operator ↔ value.Names operator.word := by
  simp only [ofOutline?, Option.bind_eq_bind, Option.bind_eq_some_iff, find?_word_iff,
    nameOfOutline?_ofJson_iff deep]
  constructor
  · rintro ⟨name, named, rfl⟩
    exact named
  · intro named
    exact ⟨operator.word, named, rfl⟩

/-- A literal is read from the values that are one. -/
theorem Literal.ofOutline?_ofJson_iff {literal : Literal} (deep : value.levels ≤ levels) :
    Literal.ofOutline? levels (.ofJson value) = some literal ↔ literal.EncodedBy value := by
  constructor
  · intro read
    unfold ofOutline? at read
    split at read
    case h_1 n same =>
      obtain rfl : value = .object [("Number", .number n)] := Outline.ofJson_injective same
      rw [if_neg (ne_zero_of_object deep)] at read
      cases read
      exact .number n
    case h_2 s same =>
      obtain rfl : value = .object [("String", .string s)] := Outline.ofJson_injective same
      rw [if_neg (ne_zero_of_object deep)] at read
      cases read
      exact .string s
    case h_3 b same =>
      obtain rfl : value = .object [("Bool", .bool b)] := Outline.ofJson_injective same
      rw [if_neg (ne_zero_of_object deep)] at read
      cases read
      exact .bool b
    case h_4 =>
      split at read
      · next named =>
        cases read
        exact .null ((nameOfOutline?_ofJson_iff deep).1 named)
      · cases read
  · intro encoded
    cases encoded with
    | number _ | string _ | bool _ =>
      simp only [Outline.ofJson, Outline.ofMembers, ofOutline?, if_neg (ne_zero_of_object deep)]
    | null named =>
      have read := (nameOfOutline?_ofJson_iff deep).2 named
      cases named with
      | alone => rfl
      | withNull =>
        simp only [Outline.ofJson, Outline.ofMembers] at read
        simp [Outline.ofJson, Outline.ofMembers, ofOutline?, read]

end Names

section Members

variable {members : Json.Members}

/-- Members are those of a comparison among others exactly where each of the three names has one
value. -/
theorem Comparison.exists_perm_iff {field operator literal : Json} :
    (∃ others : Json.Members,
        members.Perm
            (("field", field) :: ("operator", operator) :: ("literal", literal) :: others) ∧
          ∀ member ∈ others, member.1 ∉ memberNames) ↔
      members.valuesOf "field" = [field] ∧ members.valuesOf "operator" = [operator] ∧
        members.valuesOf "literal" = [literal] := by
  constructor
  · rintro ⟨others, perm, differ⟩
    have absent : ∀ name ∈ memberNames, Json.Members.valuesOf name others = [] := by
      intro name isName
      apply Json.Members.valuesOf_eq_nil
      rintro member isOther rfl
      exact differ member isOther isName
    have noField := absent "field" (by decide)
    have noOperator := absent "operator" (by decide)
    have noLiteral := absent "literal" (by decide)
    refine ⟨Json.Members.valuesOf_of_perm perm ?_, Json.Members.valuesOf_of_perm perm ?_,
      Json.Members.valuesOf_of_perm perm ?_⟩
    · simp [Json.Members.valuesOf_cons, noField]
    · simp [Json.Members.valuesOf_cons, noOperator]
    · simp [Json.Members.valuesOf_cons, noLiteral]
  · rintro ⟨field, operator, literal⟩
    -- Each member is taken out of what the ones before it left.
    rw [← Json.Members.valuesOf_filter_ne (show "operator" ≠ "field" by decide)] at operator
    rw [← Json.Members.valuesOf_filter_ne (show "literal" ≠ "field" by decide),
      ← Json.Members.valuesOf_filter_ne (show "literal" ≠ "operator" by decide)] at literal
    have first := Json.Members.perm_of_valuesOf field
    have second := Json.Members.perm_of_valuesOf operator
    have third := Json.Members.perm_of_valuesOf literal
    refine ⟨_, first.trans ((second.trans (third.cons _)).cons _), ?_⟩
    intro member isOther
    simp only [List.mem_filter, decide_eq_true_eq] at isOther
    simp [memberNames, isOther]

end Members

namespace Comparison.Parts

variable {levels : Nat} {parts after : Parts} {value : Json}

/-- A field is added where there was none, from a string. -/
theorem add?_field_iff :
    parts.add? levels "field" (.ofJson value) = some after ↔
      parts.field = none ∧ ∃ name, value = .string name ∧
        after = { parts with field := some name } := by
  unfold add?
  rw [if_pos rfl]
  cases parts.field with
  | some _ => simp
  | none => cases value <;> simp [Outline.ofJson, eq_comm]

/-- An operator is added where there was none, from its word. -/
theorem add?_operator_iff (deep : value.levels ≤ levels) :
    parts.add? levels "operator" (.ofJson value) = some after ↔
      parts.operator = none ∧ ∃ operator : Operator, value.Names operator.word ∧
        after = { parts with operator := some operator } := by
  simp only [← Operator.ofOutline?_ofJson_iff deep]
  unfold add?
  rw [if_neg (by decide), if_pos rfl]
  cases parts.operator with
  | some _ => simp
  | none => cases Operator.ofOutline? levels (.ofJson value) <;> simp [eq_comm]

/-- A literal is added where there was none, from one of its values. -/
theorem add?_literal_iff (deep : value.levels ≤ levels) :
    parts.add? levels "literal" (.ofJson value) = some after ↔
      parts.literal = none ∧ ∃ literal : Literal, literal.EncodedBy value ∧
        after = { parts with literal := some literal } := by
  simp only [← Literal.ofOutline?_ofJson_iff deep]
  unfold add?
  rw [if_neg (by decide), if_neg (by decide), if_pos rfl]
  cases parts.literal with
  | some _ => simp
  | none => cases Literal.ofOutline? levels (.ofJson value) <;> simp [eq_comm]

/-- A member with another name adds nothing. -/
theorem add?_other {key : String} (differ : key ∉ memberNames) :
    parts.add? levels key (.ofJson value) = some parts := by
  simp only [memberNames, List.mem_cons, List.not_mem_nil, or_false, not_or] at differ
  unfold add?
  rw [if_neg differ.1, if_neg differ.2.1, if_neg differ.2.2, Outline.wellFormed_ofJson,
    if_pos rfl]

/-- Each part is taken from the values of its name. -/
theorem addAll?_ofMembers_iff {members : Json.Members}
    (deep : Json.levelsOfMembers members ≤ levels) :
    parts.addAll? levels (Outline.ofMembers members) = some after ↔
      Takes (fun name value => value = .string name) parts.field (members.valuesOf "field")
          after.field ∧
        Takes (fun operator value => value.Names operator.word) parts.operator
          (members.valuesOf "operator") after.operator ∧
        Takes Literal.EncodedBy parts.literal (members.valuesOf "literal") after.literal := by
  -- A member adds to one part and leaves the other two, so the parts change from member to member.
  induction members generalizing parts with
  | nil =>
    cases parts
    cases after
    simp [Outline.ofMembers, addAll?, Json.Members.valuesOf, takes_nil_iff, eq_comm]
  | cons member more ih =>
    obtain ⟨key, value⟩ := member
    rw [Json.levelsOfMembers] at deep
    have own : value.levels ≤ levels := Nat.le_trans (Nat.le_max_left _ _) deep
    have moreDeep : Json.levelsOfMembers more ≤ levels := Nat.le_trans (Nat.le_max_right _ _) deep
    simp only [Outline.ofMembers, addAll?, Option.bind_eq_bind, Option.bind_some,
      Option.bind_eq_some_iff, ih moreDeep, Json.Members.valuesOf_cons]
    by_cases isField : key = "field"
    · subst isField
      rw [if_pos rfl, if_neg (by decide), if_neg (by decide), takes_cons_iff]
      simp only [add?_field_iff]
      constructor
      · rintro ⟨_, ⟨missing, name, isName, rfl⟩, field, others⟩
        exact ⟨⟨missing, name, isName, field⟩, others⟩
      · rintro ⟨⟨missing, name, isName, field⟩, others⟩
        exact ⟨_, ⟨missing, name, isName, rfl⟩, field, others⟩
    by_cases isOperator : key = "operator"
    · subst isOperator
      rw [if_neg (by decide), if_pos rfl, if_neg (by decide), takes_cons_iff]
      simp only [add?_operator_iff own]
      constructor
      · rintro ⟨_, ⟨missing, word, named, rfl⟩, field, operator, literal⟩
        exact ⟨field, ⟨missing, word, named, operator⟩, literal⟩
      · rintro ⟨field, ⟨missing, word, named, operator⟩, literal⟩
        exact ⟨_, ⟨missing, word, named, rfl⟩, field, operator, literal⟩
    by_cases isLiteral : key = "literal"
    · subst isLiteral
      rw [if_neg (by decide), if_neg (by decide), if_pos rfl, takes_cons_iff]
      simp only [add?_literal_iff own]
      constructor
      · rintro ⟨_, ⟨missing, content, encoded, rfl⟩, field, operator, literal⟩
        exact ⟨field, operator, missing, content, encoded, literal⟩
      · rintro ⟨field, operator, missing, content, encoded, literal⟩
        exact ⟨_, ⟨missing, content, encoded, rfl⟩, field, operator, literal⟩
    have differ : key ∉ memberNames := by simp [memberNames, isField, isOperator, isLiteral]
    rw [if_neg isField, if_neg isOperator, if_neg isLiteral]
    simp only [add?_other differ, Option.some.injEq, exists_eq_left']

/-- The parts make up a comparison when all three are known. -/
theorem whole?_eq_some_iff {c : Comparison} :
    parts.whole? = some c ↔ parts = ⟨some c.field, some c.operator, some c.literal⟩ := by
  obtain ⟨field, operator, literal⟩ := parts
  cases c
  cases field <;> cases operator <;> cases literal <;> simp [whole?]

end Comparison.Parts

section Comparisons

variable {levels : Nat} {value : Json}

/-- An object is read as a comparison where each of the three names has one value that is such a
part. -/
theorem Comparison.ofOutline?_object_iff {c : Comparison} {members : Json.Members}
    (deep : Json.levelsOfMembers members ≤ levels) :
    Comparison.ofOutline? (levels + 1) (.ofJson (.object members)) = some c ↔
      c.EncodedBy (.object members) := by
  have read : Comparison.ofOutline? (levels + 1) (.ofJson (.object members)) =
      (Parts.addAll? levels {} (Outline.ofMembers members)).bind Parts.whole? := rfl
  rw [read, Option.bind_eq_some_iff]
  simp only [Parts.whole?_eq_some_iff, exists_eq_right, Parts.addAll?_ofMembers_iff deep,
    takes_none_some_iff, exists_eq_right]
  constructor
  · rintro ⟨field, ⟨operator, isOperator, named⟩, literal, isLiteral, encoded⟩
    obtain ⟨others, parts, differ⟩ :=
      Comparison.exists_perm_iff.2 ⟨field, isOperator, isLiteral⟩
    exact .object named encoded parts differ
  · rintro ⟨named, encoded, parts, differ⟩
    obtain ⟨field, isOperator, isLiteral⟩ := Comparison.exists_perm_iff.1 ⟨_, parts, differ⟩
    exact ⟨field, ⟨_, isOperator, named⟩, _, isLiteral, encoded⟩

/-- A list is read as a comparison where it has the three parts in order. -/
theorem Comparison.ofOutline?_list_iff {c : Comparison} {first operator literal : Json}
    (deep : Json.levelsOfItems [first, operator, literal] ≤ levels) :
    Comparison.ofOutline? (levels + 1) (.ofJson (.array [first, operator, literal])) = some c ↔
      c.EncodedBy (.array [first, operator, literal]) := by
  simp only [Json.levelsOfItems, Nat.max_le] at deep
  obtain ⟨-, operatorDeep, literalDeep, -⟩ := deep
  have list : c.EncodedBy (.array [first, operator, literal]) ↔
      first = .string c.field ∧ operator.Names c.operator.word ∧ c.literal.EncodedBy literal := by
    constructor
    · rintro ⟨⟩
      exact ⟨rfl, by assumption, by assumption⟩
    · rintro ⟨rfl, named, encoded⟩
      exact .list named encoded
  rw [list]
  cases first with
  | string field =>
    simp only [Outline.ofJson, Outline.ofItems, ofOutline?, Option.bind_eq_bind,
      Option.bind_eq_some_iff, Operator.ofOutline?_ofJson_iff operatorDeep,
      Literal.ofOutline?_ofJson_iff literalDeep]
    constructor
    · rintro ⟨_, named, _, encoded, ⟨⟩⟩
      exact ⟨rfl, named, encoded⟩
    · rintro ⟨same, named, encoded⟩
      cases same
      exact ⟨_, named, _, encoded, rfl⟩
  | null | bool _ | number _ | array _ | object _ =>
    simp [Outline.ofJson, Outline.ofItems, ofOutline?]

/-- A comparison is read from the values that are one. -/
theorem Comparison.ofOutline?_ofJson_iff {c : Comparison} (deep : value.levels ≤ levels) :
    Comparison.ofOutline? levels (.ofJson value) = some c ↔ c.EncodedBy value := by
  cases value with
  | object members =>
    obtain ⟨levels, rfl⟩ := Nat.exists_eq_succ_of_ne_zero (ne_zero_of_object deep)
    rw [Json.levels] at deep
    exact ofOutline?_object_iff (Nat.le_of_succ_le_succ deep)
  | array items =>
    rw [Json.levels] at deep
    obtain ⟨levels, rfl⟩ := Nat.exists_eq_succ_of_ne_zero (show levels ≠ 0 by omega)
    rcases items with _ | ⟨first, _ | ⟨operator, _ | ⟨literal, _ | ⟨_, _⟩⟩⟩⟩
    case cons.cons.cons.nil => exact ofOutline?_list_iff (Nat.le_of_succ_le_succ deep)
    all_goals
      refine ⟨?_, by rintro ⟨⟩⟩
      simp [Outline.ofJson, Outline.ofItems, ofOutline?]
  | null | bool _ | number _ | string _ =>
    refine ⟨?_, by rintro ⟨⟩⟩
    simp [Outline.ofJson, ofOutline?]

end Comparisons

namespace Filter

section Nodes

/-- The filters that the contents of a member for joined filters denote. -/
def joined? : Nat → Outline → Option (List Filter)
  | levels + 1, .array items true => ofOutlines? levels items
  | _, _ => none

/-- A member named for a connective is filters joined by it. -/
theorem ofOutline?_joined (connective : Connective) (levels : Nat) (contents : Outline) :
    ofOutline? (levels + 1) (.object [(some connective.key, contents)] true) =
      (joined? levels contents).map connective.node := by
  match levels, contents with
  | levels + 1, .array items true => exact ofOutline?_key connective levels items
  | 0, _ | _ + 1, .array _ false | _ + 1, .object _ _ | _ + 1, .null | _ + 1, .bool _
  | _ + 1, .number _ | _ + 1, .string _ | _ + 1, .broken =>
    rw [ofOutline?.eq_def]
    cases connective <;> simp [Connective.key, joined?]

/-- A member with another name is no filter. -/
theorem ofOutline?_other {kind : String} (notField : kind ≠ "Field") (notNot : kind ≠ "Not")
    (notJoined : ∀ connective : Connective, kind ≠ connective.key) (levels : Nat)
    (contents : Outline) :
    ofOutline? (levels + 1) (.object [(some kind, contents)] true) = none := by
  have notAnd : kind ≠ "And" := notJoined .and
  have notOr : kind ≠ "Or" := notJoined .or
  rw [ofOutline?.eq_def]
  simp only [if_neg notField, if_neg notNot, if_neg notAnd, if_neg notOr]
  split <;> rfl

end Nodes

mutual

/-- A filter is read from the values that are one. -/
theorem ofOutline?_ofJson_iff : (value : Json) → {f : Filter} → {levels : Nat} →
    value.levels ≤ levels → (ofOutline? levels (.ofJson value) = some f ↔ f.EncodedBy value)
  | .object [(kind, contents)], f, levels, deep => by
    obtain ⟨levels, rfl⟩ := Nat.exists_eq_succ_of_ne_zero (ne_zero_of_object deep)
    have below : contents.levels ≤ levels := by
      rw [Json.levels_single] at deep
      omega
    simp only [Outline.ofJson, Outline.ofMembers]
    constructor
    · intro read
      by_cases isField : kind = "Field"
      · subst isField
        rw [ofOutline?_field, Option.map_eq_some_iff] at read
        obtain ⟨c, isRead, rfl⟩ := read
        exact .comparison ((Comparison.ofOutline?_ofJson_iff below).1 isRead)
      by_cases isNot : kind = "Not"
      · subst isNot
        rw [ofOutline?_not, Option.map_eq_some_iff] at read
        obtain ⟨operand, isRead, rfl⟩ := read
        exact .not ((ofOutline?_ofJson_iff contents below).1 isRead)
      by_cases isJoined : ∃ connective : Connective, kind = connective.key
      · obtain ⟨connective, rfl⟩ := isJoined
        rw [ofOutline?_joined, Option.map_eq_some_iff] at read
        obtain ⟨children, isRead, rfl⟩ := read
        obtain ⟨items, rfl, encoded⟩ := (joined?_ofJson_iff contents below).1 isRead
        exact .node connective encoded
      rw [ofOutline?_other isField isNot (fun connective same => isJoined ⟨connective, same⟩)]
        at read
      cases read
    · intro encoded
      cases encoded with
      | comparison encoded =>
        rw [ofOutline?_field, (Comparison.ofOutline?_ofJson_iff below).2 encoded]
        rfl
      | node connective encoded =>
        rw [ofOutline?_joined, (joined?_ofJson_iff _ below).2 ⟨_, rfl, encoded⟩]
        rfl
      | not encoded =>
        rw [ofOutline?_not, (ofOutline?_ofJson_iff contents below).2 encoded]
        rfl
  | .null, _, _, _ | .bool _, _, _, _ | .number _, _, _, _ | .string _, _, _, _
  | .array _, _, _, _ | .object [], _, _, _ | .object (_ :: _ :: _), _, _, _ => by
    refine ⟨?_, by rintro ⟨⟩⟩
    simp [Outline.ofJson, Outline.ofMembers, ofOutline?]

/-- Joined filters are read from the lists of values that are filters. -/
theorem joined?_ofJson_iff : (contents : Json) → {children : List Filter} → {levels : Nat} →
    contents.levels ≤ levels → (joined? levels (.ofJson contents) = some children ↔
      ∃ items, contents = .array items ∧ AllEncodedBy children items)
  | .array items, children, levels, deep => by
    rw [Json.levels] at deep
    obtain ⟨levels, rfl⟩ := Nat.exists_eq_succ_of_ne_zero (show levels ≠ 0 by omega)
    have read : ofOutlines? levels (Outline.ofItems items) = some children ↔
        AllEncodedBy children items :=
      ofOutlines?_ofItems_iff items (Nat.le_of_succ_le_succ deep)
    simpa [Outline.ofJson, joined?] using read
  | .null, _, _, _ | .bool _, _, _, _ | .number _, _, _, _ | .string _, _, _, _
  | .object _, _, _, _ => by
    simp [Outline.ofJson, joined?]

/-- Filters are read from values that are filters, one by one. -/
theorem ofOutlines?_ofItems_iff : (items : List Json) → {children : List Filter} →
    {levels : Nat} → Json.levelsOfItems items ≤ levels →
    (ofOutlines? levels (Outline.ofItems items) = some children ↔ AllEncodedBy children items)
  | [], children, levels, _ => by
    rw [Outline.ofItems, ofOutlines?]
    constructor
    · rintro ⟨⟩
      exact .nil
    · rintro ⟨⟩
      rfl
  | item :: more, children, levels, deep => by
    rw [Json.levelsOfItems] at deep
    have itemDeep : item.levels ≤ levels := Nat.le_trans (Nat.le_max_left _ _) deep
    have moreDeep : Json.levelsOfItems more ≤ levels := Nat.le_trans (Nat.le_max_right _ _) deep
    simp only [Outline.ofItems, ofOutlines?, Option.bind_eq_bind, Option.bind_eq_some_iff,
      ofOutline?_ofJson_iff item itemDeep, ofOutlines?_ofItems_iff more moreDeep]
    constructor
    · rintro ⟨child, first, others, later, ⟨⟩⟩
      exact .cons first later
    · intro encoded
      cases encoded with
      | cons first later => exact ⟨_, first, _, later, rfl⟩

end

/-- A filter is read from the values that are one, however deep they are. -/
theorem ofJson?_eq_some_iff {value : Json} {f : Filter} :
    ofJson? value = some f ↔ f.EncodedBy value :=
  ofOutline?_ofJson_iff value (Nat.le_refl _)

/-- A filter is read back from the value that it is written as. -/
theorem ofJson?_json (f : Filter) : ofJson? f.json = some f :=
  ofJson?_eq_some_iff.2 f.encodedBy_json

/-- A filter is read back from the value that it is written as, and from exactly the values that
differ from it in the spelling of comparisons. Writing the filter that was read from a value and
reading it again changes nothing. -/
theorem ofJson?_encodings :
    (∀ f : Filter, ofJson? f.json = some f) ∧
      (∀ (f : Filter) (value : Json), ofJson? value = some f ↔ f.EncodedBy value) ∧
      ∀ value : Json, (ofJson? value).bind (fun f => ofJson? f.json) = ofJson? value := by
  refine ⟨ofJson?_json, fun _ _ => ofJson?_eq_some_iff, fun value => ?_⟩
  cases ofJson? value with
  | none => rfl
  | some f => exact ofJson?_json f

/-- A comparison as a list, below a connective. -/
example :
    ofJson? (.object [("And", .array [.object [("Field",
        .array [.string "a", .object [("lt", .null)], .object [("Bool", .bool true)]])]])]) =
      some (.and [.comparison ⟨"a", .lt, .bool true⟩]) := by
  rfl

end Filter

end RecordSearch
