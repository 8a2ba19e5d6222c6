import RecordSearch.Filter.Encoding
import RecordSearch.Proofs.Filter.Comparisons
import RecordSearch.Proofs.Filter.RoundTrip
import RecordSearch.Proofs.Json.Rereading

/-!
# Reading back the JSON text of a filter

The JSON text of a filter nests arrays and objects: a comparison takes two levels, or three if its
literal has contents, `not` takes one more than its operand, and `and` and `or` take two more than
their deepest child. The text is read back as the filter exactly when it nests no more than a text
may and its numbers read back. The levels of a filter text are counted in another way, so some
filters that can be parsed have a JSON text that is refused.
-/

namespace RecordSearch

open Json (Outline)

/-- The JSON text of the number is read as the number. -/
def Double.ReadsBack (x : Double) : Prop :=
  ∃ n, Json.read? (Json.symbolsOf (Json.number (.double x)).text) = some (.number n) ∧
    n.toDouble = x

section Rereading

/-- The literal that the JSON text of a literal denotes. -/
def Literal.reread? : Literal → Option Literal
  | .number x => (Json.Number.double x).reread?.map fun n => .number n.toDouble
  | .string s => some (.string s)
  | .bool value => some (.bool value)
  | .null => some .null

/-- The comparison that the JSON text of a comparison denotes. -/
def Comparison.reread? (c : Comparison) : Option Comparison :=
  c.literal.reread?.map fun literal => { c with literal := literal }

mutual

/-- The filter that the JSON text of a filter denotes, as far as its depth allows. -/
def Filter.reread? : Filter → Option Filter
  | .comparison c => c.reread?.map .comparison
  | .and children => (Filter.rereadAll? children).map .and
  | .or children => (Filter.rereadAll? children).map .or
  | .not operand => (Filter.reread? operand).map .not

/-- The filters that the JSON texts of some filters denote. -/
def Filter.rereadAll? : List Filter → Option (List Filter)
  | [] => some []
  | child :: more =>
    (Filter.reread? child).bind fun child =>
      (Filter.rereadAll? more).map fun children => child :: children

end

end Rereading

section Outlines

/-- An object with one member is outlined as one. -/
theorem Json.Outline.written_single (key : String) (value : Json) :
    Outline.written (.object [(key, value)]) = .object [(some key, .written value)] true := by
  simp only [written, writtenMembers]

/-- An object with one member nests one level more than the value of the member. -/
theorem Json.levels_single (key : String) (value : Json) :
    (Json.object [(key, value)]).levels = value.levels + 1 := by
  simp only [levels, levelsOfMembers, Nat.max_zero]

/-- What is made of a value that is there under a condition is there under the condition. -/
theorem map_ite_none {α β : Type} (p : Prop) [Decidable p] (found : Option α) (f : α → β) :
    (if p then found else none).map f = if p then found.map f else none := by
  split <;> rfl

/-- A literal is read back as what its text denotes, if a level is left for its contents. -/
theorem Literal.ofOutline?_written (literal : Literal) (levels : Nat) :
    Literal.ofOutline? levels (.written literal.json) =
      if literal.json.levels ≤ levels then literal.reread? else none := by
  cases literal with
  | number x =>
    rw [Literal.json, Json.levels_single, Outline.written_single, Outline.written, reread?]
    cases (Json.Number.double x).reread? with
    | none => simp [Literal.ofOutline?, nameOfOutline?]
    | some n => cases levels <;> simp [Literal.ofOutline?, Json.levels]
  | string s =>
    rw [Literal.json, Json.levels_single, Outline.written_single, Outline.written, reread?]
    cases levels <;> simp [Literal.ofOutline?, Json.levels]
  | bool value =>
    rw [Literal.json, Json.levels_single, Outline.written_single, Outline.written, reread?]
    cases levels <;> simp [Literal.ofOutline?, Json.levels]
  | null => simp [Literal.json, Json.levels, Outline.written, Literal.ofOutline?, nameOfOutline?,
      reread?]

/-- An operator is read from its word. -/
theorem Operator.ofOutline?_word (operator : Operator) (levels : Nat) :
    Operator.ofOutline? levels (.string (some operator.word)) = some operator := by
  cases operator <;> rfl

section Parts

variable {parts : Comparison.Parts}

/-- The field of a comparison is taken once. -/
theorem Comparison.Parts.add?_field (missing : parts.field = none) (levels : Nat) (name : String) :
    parts.add? levels "field" (.string (some name)) = some { parts with field := some name } := by
  unfold add?
  simp [missing]

/-- The operator of a comparison is taken once. -/
theorem Comparison.Parts.add?_operator (missing : parts.operator = none) (levels : Nat)
    (operator : Operator) :
    parts.add? levels "operator" (.string (some operator.word)) =
      some { parts with operator := some operator } := by
  unfold add?
  simp [missing, Operator.ofOutline?_word]

/-- The literal of a comparison is taken once. -/
theorem Comparison.Parts.add?_literal (missing : parts.literal = none) (levels : Nat)
    (value : Outline) :
    parts.add? levels "literal" value =
      (Literal.ofOutline? levels value).map fun literal =>
        { parts with literal := some literal } := by
  unfold add?
  simp only [missing]
  cases Literal.ofOutline? levels value <;> rfl

end Parts

/-- A comparison is read back as what its text denotes, if its levels are left. -/
theorem Comparison.ofOutline?_written (c : Comparison) (levels : Nat) :
    Comparison.ofOutline? levels (.written c.json) =
      if c.json.levels ≤ levels then c.reread? else none := by
  have depth : c.json.levels = c.literal.json.levels + 1 := by
    simp [Comparison.json, Json.levels, Json.levelsOfMembers]
  have outline : Outline.written c.json = .object
      [(some "field", .string (some c.field)), (some "operator", .string (some c.operator.word)),
        (some "literal", .written c.literal.json)] true := by
    simp only [Comparison.json, Outline.written, Outline.writtenMembers]
  rw [depth, outline]
  cases levels with
  | zero => rfl
  | succ levels =>
    have read := Literal.ofOutline?_written c.literal levels
    have whole : Comparison.ofOutline? (levels + 1) (.object
        [(some "field", .string (some c.field)), (some "operator", .string (some c.operator.word)),
          (some "literal", .written c.literal.json)] true) =
        (Literal.ofOutline? levels (.written c.literal.json)).map fun literal =>
          { c with literal := literal } := by
      simp only [Comparison.ofOutline?, Parts.addAll?, Option.bind_eq_bind, Option.bind_some,
        Parts.add?_field, Parts.add?_operator, Parts.add?_literal]
      cases Literal.ofOutline? levels (.written c.literal.json) <;> rfl
    rw [whole, read, map_ite_none, reread?]
    simp only [Nat.add_le_add_iff_right]

section Nodes

/-- Without a level nothing is read. -/
theorem Filter.ofOutline?_zero (found : Outline) : Filter.ofOutline? 0 found = none := by
  cases found <;> rfl

/-- A member named `Field` is a comparison. -/
theorem Filter.ofOutline?_field (levels : Nat) (contents : Outline) :
    Filter.ofOutline? (levels + 1) (.object [(some "Field", contents)] true) =
      (Comparison.ofOutline? levels contents).map .comparison := by
  unfold Filter.ofOutline?
  rw [if_pos rfl]

/-- A member named `Not` is a negation. -/
theorem Filter.ofOutline?_not (levels : Nat) (contents : Outline) :
    Filter.ofOutline? (levels + 1) (.object [(some "Not", contents)] true) =
      (Filter.ofOutline? levels contents).map .not := by
  rw [Filter.ofOutline?.eq_def]
  simp

/-- The name of the member that joined filters are under. -/
def Connective.key : Connective → String
  | and => "And"
  | or => "Or"

/-- A member named for a connective is joined filters. -/
theorem Filter.ofOutline?_key (connective : Connective) (levels : Nat) (items : List Outline) :
    Filter.ofOutline? (levels + 2) (.object [(some connective.key, .array items true)] true) =
      (Filter.ofOutlines? levels items).map connective.node := by
  rw [Filter.ofOutline?.eq_def]
  cases connective with
  | and =>
    simp [Connective.key]
    rfl
  | or =>
    simp [Connective.key]
    rfl

/-- One level is too few for joined filters. -/
theorem Filter.ofOutline?_key_one (connective : Connective) (items : List Outline) :
    Filter.ofOutline? 1 (.object [(some connective.key, .array items true)] true) = none := by
  rw [Filter.ofOutline?.eq_def]
  cases connective <;> simp [Connective.key]

/-- Joined filters are read back as what their texts denote, if their levels are left. -/
theorem Filter.ofOutline?_node (connective : Connective) (children : List Filter)
    (read : ∀ levels, Filter.ofOutlines? levels (Outline.writtenItems (Filter.jsonItems children)) =
      if Json.levelsOfItems (Filter.jsonItems children) ≤ levels then Filter.rereadAll? children
      else none) (levels : Nat) :
    Filter.ofOutline? levels (.written (connective.node children).json) =
      if (connective.node children).json.levels ≤ levels then
        (Filter.rereadAll? children).map connective.node
      else none := by
  have encoded : (connective.node children).json =
      .object [(connective.key, .array (Filter.jsonItems children))] := by
    cases connective <;> rfl
  have depth : (Json.array (Filter.jsonItems children)).levels =
      Json.levelsOfItems (Filter.jsonItems children) + 1 := by
    rw [Json.levels]
  rw [encoded, Json.levels_single, Outline.written_single, Outline.written, depth]
  match levels with
  | 0 => exact Filter.ofOutline?_zero _
  | 1 => rw [Filter.ofOutline?_key_one, if_neg (by omega)]
  | levels + 2 =>
    rw [Filter.ofOutline?_key, read, map_ite_none]
    simp only [Nat.add_le_add_iff_right]

end Nodes

mutual

/-- A filter is read back as what its text denotes, if its levels are left. -/
theorem Filter.ofOutline?_written : (f : Filter) → (levels : Nat) →
    Filter.ofOutline? levels (.written f.json) =
      if f.json.levels ≤ levels then f.reread? else none
  | .comparison c, 0 => Filter.ofOutline?_zero _
  | .comparison c, levels + 1 => by
    rw [Filter.json, Json.levels_single, Outline.written_single, Filter.ofOutline?_field,
      Comparison.ofOutline?_written, map_ite_none, Filter.reread?]
    simp only [Nat.add_le_add_iff_right]
  | .not operand, 0 => Filter.ofOutline?_zero _
  | .not operand, levels + 1 => by
    rw [Filter.json, Json.levels_single, Outline.written_single, Filter.ofOutline?_not,
      Filter.ofOutline?_written operand levels, map_ite_none, Filter.reread?]
    simp only [Nat.add_le_add_iff_right]
  | .and children, levels => by
    rw [Filter.reread?]
    exact Filter.ofOutline?_node .and children (Filter.ofOutlines?_written children) levels
  | .or children, levels => by
    rw [Filter.reread?]
    exact Filter.ofOutline?_node .or children (Filter.ofOutlines?_written children) levels

/-- Filters are read back as what their texts denote, if the levels of all of them are left. -/
theorem Filter.ofOutlines?_written : (children : List Filter) → (levels : Nat) →
    Filter.ofOutlines? levels (Outline.writtenItems (Filter.jsonItems children)) =
      if Json.levelsOfItems (Filter.jsonItems children) ≤ levels then Filter.rereadAll? children
      else none
  | [], levels => by
    simp [Filter.jsonItems, Outline.writtenItems, Filter.ofOutlines?, Json.levelsOfItems,
      Filter.rereadAll?]
  | child :: more, levels => by
    have first := Filter.ofOutline?_written child levels
    have later := Filter.ofOutlines?_written more levels
    rw [Filter.jsonItems, Outline.writtenItems, Json.levelsOfItems, Filter.rereadAll?,
      Filter.ofOutlines?, first, later]
    by_cases deep : child.json.levels ≤ levels
    · by_cases laterDeep : Json.levelsOfItems (Filter.jsonItems more) ≤ levels
      · rw [if_pos deep, if_pos laterDeep, if_pos (Nat.max_le.2 ⟨deep, laterDeep⟩)]
        cases child.reread? <;> cases Filter.rereadAll? more <;> rfl
      · rw [if_pos deep, if_neg laterDeep, if_neg fun both => laterDeep (Nat.max_le.1 both).2]
        cases child.reread? <;> rfl
    · rw [if_neg deep, if_neg fun both => deep (Nat.max_le.1 both).1]
      rfl

end

end Outlines

section Numbers

/-- A literal is denoted by its text exactly when it is no number, or one that reads back. -/
theorem Literal.reread?_eq_self_iff (literal : Literal) :
    literal.reread? = some literal ↔ ∀ x, literal = .number x → x.ReadsBack := by
  cases literal with
  | number x =>
    simp [reread?, Double.ReadsBack, Json.read?_number]
  | string s => simp [reread?]
  | bool value => simp [reread?]
  | null => simp [reread?]

mutual

/-- A filter is denoted by its text exactly when all its literals are. -/
theorem Filter.reread?_eq_self_iff : (f : Filter) →
    (f.reread? = some f ↔ ∀ c ∈ f.comparisons, c.literal.reread? = some c.literal)
  | .comparison c => by
    simp only [Filter.reread?, Filter.comparisons, Comparison.reread?, List.forall_mem_singleton,
      Option.map_eq_some_iff, Filter.comparison.injEq, exists_eq_right]
    constructor
    · rintro ⟨literal, read, same⟩
      have sameLiteral : literal = c.literal := congrArg Comparison.literal same
      rw [read, sameLiteral]
    · intro read
      exact ⟨c.literal, read, rfl⟩
  | .not operand => by
    have inner := Filter.reread?_eq_self_iff operand
    simpa [Filter.reread?, Filter.comparisons] using inner
  | .and children => by
    have inner := Filter.rereadAll?_eq_self_iff children
    simpa [Filter.reread?, Filter.comparisons] using inner
  | .or children => by
    have inner := Filter.rereadAll?_eq_self_iff children
    simpa [Filter.reread?, Filter.comparisons] using inner

/-- Filters are denoted by their texts exactly when all their literals are. -/
theorem Filter.rereadAll?_eq_self_iff : (children : List Filter) →
    (Filter.rereadAll? children = some children ↔
      ∀ c ∈ Filter.comparisonsOfAll children, c.literal.reread? = some c.literal)
  | [] => by simp [Filter.rereadAll?, Filter.comparisonsOfAll]
  | child :: more => by
    have first := Filter.reread?_eq_self_iff child
    have later := Filter.rereadAll?_eq_self_iff more
    rw [Filter.rereadAll?, Filter.comparisonsOfAll, List.forall_mem_append, ← first, ← later]
    cases child.reread? <;> cases Filter.rereadAll? more <;> simp

end

end Numbers

namespace Filter

/-- The JSON text of a filter is read as what it denotes, if it nests no more than a text may. -/
theorem ofJsonText?_jsonText (f : Filter) :
    ofJsonText? f.jsonText = if f.json.levels ≤ Json.maxLevels then f.reread? else none := by
  unfold ofJsonText? jsonText
  rw [Json.outline_text]
  exact ofOutline?_written f Json.maxLevels

/-- The JSON text of a filter is read back as the filter exactly when it nests no more arrays and
objects than a text may and its numbers read back. One that nests more is refused. -/
theorem ofJsonText?_jsonText_eq_some_iff (f : Filter) :
    (ofJsonText? f.jsonText = some f ↔ f.json.levels ≤ Json.maxLevels ∧
        ∀ c ∈ f.comparisons, ∀ x, c.literal = .number x → x.ReadsBack) ∧
      (Json.maxLevels < f.json.levels → ofJsonText? f.jsonText = none) := by
  have numbers : f.reread? = some f ↔
      ∀ c ∈ f.comparisons, ∀ x, c.literal = .number x → x.ReadsBack := by
    rw [reread?_eq_self_iff]
    simp only [Literal.reread?_eq_self_iff]
  rw [ofJsonText?_jsonText]
  constructor
  · by_cases shallow : f.json.levels ≤ Json.maxLevels
    · rw [if_pos shallow, numbers]
      exact (and_iff_right shallow).symm
    · rw [if_neg shallow]
      simp [shallow]
  · intro deep
    rw [if_neg (Nat.not_le_of_lt deep)]

section Deep

/-- Some `and`s, each the first operand of the next one. -/
def nestedFirst : Nat → Filter
  | 0 => isNull "x"
  | count + 1 => .and [nestedFirst count, isNull "x"]

/-- Nested `and`s are well-formed. -/
theorem wellFormed_nestedFirst (count : Nat) : WellFormed (nestedFirst count) := by
  have leaf : WellFormed (isNull "x") :=
    .comparison (isField_letter rfl (by decide) (by decide))
  induction count with
  | zero => exact leaf
  | succ count ih =>
    refine .and (Nat.le_refl 2) ?_
    intro child isChild
    rcases List.mem_cons.1 isChild with rfl | isSecond
    · exact ih
    · rw [List.mem_singleton.1 isSecond]
      exact leaf

/-- Nested `and`s fit if a level is left for each of them. -/
theorem fitsAt_nestedFirst {count level : Nat} (shallow : level + count < maxDepth) :
    (nestedFirst count).fitsAt level = true := by
  induction count generalizing level with
  | zero => exact decide_eq_true shallow
  | succ count ih =>
    have leaf : ∀ {place}, place < maxDepth → fitsAt place (isNull "x") = true := decide_eq_true
    have first : fitsAt (contentLevel (nestedFirst count) level) (nestedFirst count) = true := by
      cases count with
      | zero =>
        show fitsAt level (isNull "x") = true
        exact leaf (by omega)
      | succ count =>
        show fitsAt (level + 1) (nestedFirst (count + 1)) = true
        exact ih (by omega)
    have later : laterFit (level + 1) [isNull "x"] = true := by
      rw [laterFit, laterFit, Bool.and_true]
      show fitsAt (level + 1) (isNull "x") = true
      exact leaf (by omega)
    have node := fitsAt_node .and level (nestedFirst count) (isNull "x") []
    rw [first, later] at node
    exact node

/-- Each of nested `and`s takes an object and an array. -/
theorem levels_nestedFirst (count : Nat) : (nestedFirst count).json.levels = 2 * count + 2 := by
  induction count with
  | zero => rfl
  | succ count ih =>
    have leaf : (isNull "x").json.levels = 2 := rfl
    rw [nestedFirst, Filter.json, Json.levels_single, Json.levels, Filter.jsonItems,
      Filter.jsonItems, Filter.jsonItems, Json.levelsOfItems, Json.levelsOfItems,
      Json.levelsOfItems, ih, leaf]
    omega

/-- With 63 nested `and`s, a filter is what its text parses to, and its JSON text is refused: it
nests 128 arrays and objects. No number is in it. -/
theorem nestedFirst_json_refused :
    parse (nestedFirst 63).text = .ok (nestedFirst 63) ∧
      (∀ c ∈ (nestedFirst 63).comparisons, c.literal = .null) ∧
      (nestedFirst 63).json.levels = 128 ∧ ofJsonText? (nestedFirst 63).jsonText = none := by
  have depth : (nestedFirst 63).json.levels = 128 := levels_nestedFirst 63
  have noNumbers : ∀ count, ∀ c ∈ (nestedFirst count).comparisons, c.literal = .null := by
    intro count
    induction count with
    | zero => simp [nestedFirst, isNull, comparisons]
    | succ count ih =>
      simp only [nestedFirst, comparisons, comparisonsOfAll, List.append_nil]
      exact List.forall_mem_append.2 ⟨ih, by simp [isNull, comparisons]⟩
  refine ⟨parse_text_of_fits (wellFormed_nestedFirst 63) (fitsAt_nestedFirst (by decide)),
    noNumbers 63, depth, ?_⟩
  rw [ofJsonText?_jsonText, depth, if_neg (by decide)]

end Deep

end Filter

end RecordSearch
