import RecordSearch.Proofs.Filter.Height

/-!
# Late changes of connective

The height of a parsed filter can be read off its lexemes, from the left to the right and without
the tree. A change of connective puts a node around all operands before it. Where one of them has a
`not` or a parenthesis the change is late: that operand was read with more levels left than there
are now. The height exceeds the levels by no more than the number of late changes, so without any
the levels bound it.
-/

namespace RecordSearch.Filter

/-- The operands that were read between the same two parentheses. -/
structure Row where
  last : Option Connective
  /-- Whether one of them has a `not` or a parenthesis. -/
  nested : Bool
  /-- The negations in front of the next one. -/
  negations : Nat
  tallest : Nat

namespace Row

/-- Before the first operand; the filter that always holds is one high too. -/
def start : Row := ⟨none, false, 0, 1⟩

/-- One more negation in front of the next operand. -/
def negate (row : Row) : Row := ⟨row.last, true, row.negations + 1, row.tallest⟩

/-- One more operand, under its negations and under the node of the run that it joins. -/
def operand (nested : Bool) (tall : Nat) (row : Row) : Row :=
  ⟨row.last, row.nested || nested, 0,
    max row.tallest (tall + row.negations + row.last.isSome.toNat)⟩

/-- A connective, which puts a node around the operands if it changes. -/
def join (connective : Connective) (row : Row) : Row :=
  ⟨some connective, row.nested, row.negations,
    if row.last = some connective then row.tallest else row.tallest + 1⟩

/-- Whether the connective changes behind a nested operand. -/
def changesLate (connective : Connective) (row : Row) : Bool :=
  decide (row.last ≠ some connective) && row.nested

end Row

/-- A tally over lexemes: the operands around the place, those that stand around them, from the
inside out, and the late changes so far. -/
structure Tally where
  row : Row
  outer : List Row
  late : Nat

namespace Tally

/-- A tally behind one more operand, with the late changes that are in it. -/
def after (nested : Bool) (late tall : Nat) (tally : Tally) : Tally :=
  ⟨tally.row.operand nested tall, tally.outer, tally.late + late⟩

/-- A tally behind one more connective. -/
def join (connective : Connective) (tally : Tally) : Tally :=
  ⟨tally.row.join connective, tally.outer, tally.late + (tally.row.changesLate connective).toNat⟩

/-- A tally behind one more lexeme. Each of the three lexemes of a comparison counts as a
comparison, which changes nothing after the first. -/
def step (tally : Tally) : Lexeme → Tally
  | .opening => ⟨.start, tally.row :: tally.outer, tally.late⟩
  | .closing =>
    match tally.outer with
    | [] => tally
    | row :: outer => ⟨row.operand true tally.row.tallest, outer, tally.late⟩
  | .word text =>
    match keyword? text with
    | some .not => ⟨tally.row.negate, tally.outer, tally.late⟩
    | some .and => tally.join .and
    | some .or => tally.join .or
    | none => tally.after false 0 1
  | .quoted _ => tally.after false 0 1

/-- A tally behind more lexemes. -/
def run (tally : Tally) (written : List Lexeme) : Tally := written.foldl step tally

/-- The tally of lexemes. -/
def ofLexemes (written : List Lexeme) : Tally := run ⟨.start, [], 0⟩ written

end Tally

/-- How often a connective of the lexemes changes behind an operand that has a `not` or a
parenthesis. -/
def lateChanges (written : List Lexeme) : Nat := (Tally.ofLexemes written).late

/-- The height of the filter that the lexemes form. -/
def lexemeHeight (written : List Lexeme) : Nat := (Tally.ofLexemes written).row.tallest

section Steps

variable {tally : Tally} {word : String}

@[simp]
theorem Tally.run_nil (tally : Tally) : tally.run [] = tally := rfl

@[simp]
theorem Tally.run_cons (tally : Tally) (first : Lexeme) (more : List Lexeme) :
    tally.run (first :: more) = (tally.step first).run more := rfl

theorem Tally.run_append (tally : Tally) (before more : List Lexeme) :
    tally.run (before ++ more) = (tally.run before).run more := List.foldl_append

/-- A `not` negates the next operand. -/
theorem Tally.step_not (spelled : Keyword.not.Spells word) :
    tally.step (.word word) = ⟨tally.row.negate, tally.outer, tally.late⟩ := by
  simp only [step, keyword?_eq_some_iff.2 spelled]

/-- A connective joins. -/
theorem Tally.step_connective {connective : Connective}
    (spelled : (connectiveKeyword connective).Spells word) :
    tally.step (.word word) = tally.join connective := by
  cases connective <;> simp only [step, keyword?_eq_some_iff.2 spelled, connectiveKeyword]

/-- Any other word counts as a comparison. -/
theorem Tally.step_plain (plain : keyword? word = none) :
    tally.step (.word word) = tally.after false 0 1 := by
  simp only [step, plain]

/-- A negated operand is a nested one and one higher. -/
theorem Row.operand_negate (row : Row) (nested : Bool) (tall : Nat) :
    row.negate.operand nested tall = row.operand true (tall + 1) := by
  have together : tall + (row.negations + 1) = tall + 1 + row.negations := by omega
  simp only [operand, negate, Bool.true_or, Bool.or_true, together]

/-- Counting a comparison once more changes nothing. -/
theorem Tally.after_after_comparison (tally : Tally) :
    (tally.after false 0 1).after false 0 1 = tally.after false 0 1 := by
  have covered : ∀ tallest joined negations : Nat,
      max (max tallest (1 + negations + joined)) (1 + 0 + joined) =
        max tallest (1 + negations + joined) := by omega
  simp only [after, Row.operand, Bool.or_false, Nat.add_zero, covered]

/-- A comparison is one operand. -/
theorem Tally.run_comparison {name : String} {operator : Operator} {last : Lexeme}
    {literal : Literal} (field : IsField name) (spelled : Operator.ofWord? word = some operator)
    (denoted : IsLiteral last literal) :
    tally.run [.word name, .word word, last] = tally.after false 0 1 := by
  have plainName : keyword? name = none := keyword?_eq_none_iff.2 field.2
  have plainWord : keyword? word = none := keyword?_of_ofWord? spelled
  have third : ∀ tally : Tally, tally.step last = tally.after false 0 1 := by
    intro tally
    cases denoted with
    | quoted => rfl
    | word plain => exact step_plain (keyword?_eq_none_iff.2 plain)
  rw [run_cons, step_plain plainName, run_cons, step_plain plainWord, run_cons, third, run_nil,
    after_after_comparison, after_after_comparison]

end Steps

section Bound

/-- What is known of the operands of a filter at `base` when the next one would be at `level`: with
the late changes so far they are no higher than the levels say, and without a nested operand each
level that was taken made them at most one higher. -/
structure Within (base level : Nat) (row : Row) (late : Nat) (operands : Operands) : Prop where
  own : operands.connective? = row.last
  ready : row.negations = 0
  tallest : row.tallest = operands.tree.height
  bound : base + operands.tree.height ≤ maxDepth + late
  flat : row.nested = false → base + operands.tree.height ≤ level + 1
  deeper : base + row.last.isSome.toNat ≤ level

/-- What is known of a unary filter at a level, with the late changes in it. -/
structure UnaryWithin (level late : Nat) (nested : Bool) (f : Filter) : Prop where
  bound : level + f.height ≤ maxDepth + late
  flat : nested = false → f.height = 1

variable {base level late more : Nat} {row : Row} {nested : Bool} {operands : Operands}
  {connective : Connective} {f : Filter}

/-- A change of connective takes a level and makes the operands one higher, which the levels that
are left bound only without a nested operand; otherwise it is late. -/
theorem Within.join (within : Within base level row late operands)
    (shallow : levelAfter row.last connective level < maxDepth)
    (operandWithin : UnaryWithin (levelAfter row.last connective level) more nested f) :
    Within base (levelAfter row.last connective level)
      ((row.join connective).operand nested f.height)
      (late + (row.changesLate connective).toNat + more) (operands.join connective f) := by
  obtain ⟨own, ready, tallest, bound, flat, deeper⟩ := within
  obtain ⟨operandBound, operandFlat⟩ := operandWithin
  by_cases same : row.last = some connective
  · have onTime : row.changesLate connective = false := by simp [Row.changesLate, same]
    have heights := height_join_same (own.trans same) f
    rw [levelAfter, if_pos same] at operandBound ⊢
    rw [same, Option.isSome_some, Bool.toNat_true] at deeper
    rw [onTime, Bool.toNat_false]
    refine ⟨connective?_join _ _ _, rfl, ?_, by omega, fun isFlat => ?_, deeper⟩
    · simp [Row.operand, Row.join, same, ready, tallest, heights]
    · obtain ⟨rowFlat, nestedFlat⟩ := Bool.or_eq_false_iff.1 isFlat
      have treeBound := flat rowFlat
      have one := operandFlat nestedFlat
      omega
  · have late : row.changesLate connective = row.nested := by simp [Row.changesLate, same]
    have heights := height_join_change (fun joined => same (own.symm.trans joined)) f
    rw [levelAfter, if_neg same] at shallow operandBound ⊢
    rw [late]
    refine ⟨connective?_join _ _ _, rfl, ?_, ?_, fun isFlat => ?_, ?_⟩
    · simp [Row.operand, Row.join, same, ready, tallest, heights, Nat.add_max_add_right]
    · cases isNested : row.nested with
      | true =>
        rw [Bool.toNat_true]
        omega
      | false =>
        have treeBound := flat isNested
        rw [Bool.toNat_false]
        omega
    · obtain ⟨rowFlat, nestedFlat⟩ := Bool.or_eq_false_iff.1 isFlat
      have treeBound := flat rowFlat
      have one := operandFlat nestedFlat
      omega
    · exact Nat.add_le_add_right ((Nat.le_add_right _ _).trans deeper) 1

/-- The tally of a unary filter is that of an operand of its height. -/
def TalliedUnary (level : Nat) (written : List Lexeme) (f : Filter) : Prop :=
  ∃ nested late, (∀ tally : Tally, tally.run written = tally.after nested late f.height) ∧
    UnaryWithin level late nested f

/-- The tally of a filter has its height, and late changes that bound it. -/
def TalliedJoined (level : Nat) (written : List Lexeme) (f : Filter) : Prop :=
  ∃ row late, (∀ outer before,
      (Tally.mk .start outer before).run written = ⟨row, outer, before + late⟩) ∧
    row.tallest = f.height ∧ level + f.height ≤ maxDepth + late

/-- A tally that goes on over further operands has the height of all of them, and late changes that
bound it. -/
def TalliedLater (level : Nat) (last : Option Connective) (written : List Lexeme)
    (later : List (Connective × Filter)) : Prop :=
  ∀ {base late row operands}, row.last = last → Within base level row late operands →
    ∃ next all, (∀ outer before,
        (Tally.mk row outer (before + late)).run written = ⟨next, outer, before + all⟩) ∧
      next.tallest = (operands.joinAll later).tree.height ∧
        base + (operands.joinAll later).tree.height ≤ maxDepth + all

/-- A filter behind `not` is a nested one. -/
theorem TalliedUnary.not {written : List Lexeme} {word : String}
    (spelled : Keyword.not.Spells word) (inner : TalliedUnary (level + 1) written f) :
    TalliedUnary level (.word word :: written) (.not f) := by
  obtain ⟨nested, late, runAll, within⟩ := inner
  have bound := within.bound
  refine ⟨true, late, fun tally => ?_, ?_, fun flat => by simp at flat⟩
  · rw [Tally.run_cons, Tally.step_not spelled, runAll, Tally.after, Row.operand_negate]
    rfl
  · rw [height]
    omega

/-- A filter in parentheses is a nested one. -/
theorem TalliedJoined.group {written : List Lexeme}
    (inner : TalliedJoined (level + 1) written f) :
    TalliedUnary level (.opening :: written ++ [.closing]) f := by
  obtain ⟨row, late, runAll, tallest, bound⟩ := inner
  refine ⟨true, late, fun tally => ?_, by omega, fun flat => by simp at flat⟩
  rw [List.cons_append, Tally.run_cons, Tally.step, Tally.run_append, runAll, ← tallest]
  rfl

/-- A comparison is one high and has no late changes. -/
theorem talliedUnary_comparison {name word : String} {operator : Operator} {last : Lexeme}
    {literal : Literal} (shallow : level < maxDepth) (field : IsField name)
    (spelled : Operator.ofWord? word = some operator) (denoted : IsLiteral last literal) :
    TalliedUnary level [.word name, .word word, last] (.comparison ⟨name, operator, literal⟩) :=
  ⟨false, 0, fun _ => Tally.run_comparison field spelled denoted, shallow, fun _ => rfl⟩

/-- Operands are tallied one after another. -/
theorem TalliedUnary.joined {first rest : List Lexeme} {later : List (Connective × Filter)}
    (firstTallied : TalliedUnary level first f)
    (laterTallied : TalliedLater level none rest later) :
    TalliedJoined level (first ++ rest) (grouped f later) := by
  obtain ⟨nested, late, runFirst, within⟩ := firstTallied
  have withinFirst : Within level level (Row.start.operand nested f.height) late (.single f) := by
    refine ⟨rfl, rfl, ?_, within.bound, fun flat => ?_, Nat.le_refl _⟩
    · exact Nat.max_eq_right (height_pos f)
    · exact Nat.add_le_add_left (within.flat flat).le _
  obtain ⟨row, all, runLater, tallest, bound⟩ := laterTallied rfl withinFirst
  rw [tree_joinAll_single] at tallest bound
  refine ⟨row, all, fun outer before => ?_, tallest, bound⟩
  rw [Tally.run_append, runFirst]
  exact runLater outer before

/-- A connective and its operand are tallied in front of further ones. -/
theorem TalliedUnary.next {last : Option Connective} {word : String} {first rest : List Lexeme}
    {later : List (Connective × Filter)} (spelled : (connectiveKeyword connective).Spells word)
    (shallow : levelAfter last connective level < maxDepth)
    (firstTallied : TalliedUnary (levelAfter last connective level) first f)
    (laterTallied : TalliedLater (levelAfter last connective level) (some connective) rest later) :
    TalliedLater level last (.word word :: first ++ rest) ((connective, f) :: later) := by
  rintro base late row operands rfl within
  obtain ⟨nested, more, runFirst, operandWithin⟩ := firstTallied
  obtain ⟨next, all, runLater, heights⟩ := laterTallied rfl (within.join shallow operandWithin)
  refine ⟨next, all, fun outer before => ?_, heights⟩
  rw [List.cons_append, Tally.run_cons, Tally.step_connective spelled, Tally.run_append, runFirst,
    ← runLater outer before]
  simp only [Tally.join, Tally.after, Nat.add_assoc]

/-- Every filter is tallied like this. The induction on its derivation also goes through unary
filters and through further operands. -/
theorem talliedJoined_of_joined {written : List Lexeme} (derived : Joined level written f) :
    TalliedJoined level written f := by
  refine @Joined.rec (fun level written f _ => TalliedUnary level written f)
    (fun level written f _ => TalliedJoined level written f)
    (fun level last written later _ => TalliedLater level last written later)
    ?negation ?group ?comparison ?operands ?none ?next level written f derived
  case negation =>
    intro _ _ _ _ _ spelled _ inner
    exact inner.not spelled
  case group =>
    intro _ _ _ _ _ inner
    exact inner.group
  case comparison =>
    intro _ _ _ _ _ _ shallow field spelled denoted
    exact talliedUnary_comparison shallow field spelled denoted
  case operands =>
    intro _ _ _ _ _ _ _ firstTallied laterTallied
    exact firstTallied.joined laterTallied
  case none =>
    intro _ _ _ late row _ _ within
    exact ⟨row, late, fun _ _ => rfl, within.tallest, within.bound⟩
  case next =>
    intro _ _ _ _ _ _ _ _ spelled shallow _ _ firstTallied laterTallied
    exact firstTallied.next spelled shallow laterTallied

end Bound

/-- The height of what a text parses to is that of its lexemes. Without late changes of connective
it is at most the number of levels, each late change adds at most one, and it is at most 2018. -/
theorem height_of_parse (text : String) (tokens : List Token) (f : Filter)
    (cut : tokenize text = .ok tokens) (parsed : parse text = .ok f) :
    f.height = lexemeHeight (lexemes tokens) ∧
      f.height ≤ maxDepth + lateChanges (lexemes tokens) ∧ f.height ≤ 2018 := by
  have most : f.height ≤ 2018 := isGreatest_height.2 ⟨text, f, parsed, rfl⟩
  obtain ⟨others, cutOthers, derived⟩ := (parse_eq_ok_iff_derives text f).1 parsed
  cases cut.symm.trans cutOthers
  rcases derived with ⟨rfl, rfl⟩ | joined
  · exact ⟨rfl, by decide, most⟩
  · obtain ⟨row, late, runAll, tallest, bound⟩ := talliedJoined_of_joined joined
    have tally : Tally.ofLexemes (lexemes tokens) = ⟨row, [], 0 + late⟩ := runAll [] 0
    rw [Nat.zero_add] at bound tally
    rw [lexemeHeight, lateChanges, tally]
    exact ⟨tallest.symm, bound, most⟩

/-- Negations make a filter as much higher as they are many. -/
theorem height_negations (count : Nat) (f : Filter) :
    (negations count f).height = f.height + count := by
  induction count with
  | zero => rfl
  | succ count ih =>
    have step : (negations (count + 1) f).height = (negations count f).height + 1 := rfl
    rw [step, ih, Nat.add_assoc]

/-- The connectives behind negations make the operands two higher. -/
theorem height_negatedFirst (count : Nat) : (negatedFirst count).height = count + 3 := by
  have negated := height_negations count (isNull "x")
  have one : ∀ name, (isNull name).height = 1 := fun _ => rfl
  simp only [negatedFirst, height, heightOfAll, negated, one]
  omega

/-- The connectives behind a negation are late changes. -/
theorem height_of_parse_negatedFirst :
    ∃ tokens, tokenize (negatedFirstText 1) = .ok tokens ∧
      parse (negatedFirstText 1) = .ok (negatedFirst 1) ∧ lateChanges (lexemes tokens) = 2 ∧
        lexemeHeight (lexemes tokens) = 4 ∧ (negatedFirst 1).height ≤ maxDepth + 2 := by
  obtain ⟨tokens, cut, same⟩ := tokenize_of_lexes (lexes_negatedFirstText 1)
  have parsed : parse (negatedFirstText 1) = .ok (negatedFirst 1) :=
    parse_negatedFirstText (by decide)
  have late : lateChanges (lexemes tokens) = 2 := by
    rw [same]
    decide
  obtain ⟨read, bound, -⟩ := height_of_parse _ _ _ cut parsed
  rw [height_negatedFirst] at read
  rw [late] at bound
  exact ⟨tokens, cut, parsed, late, read.symm, bound⟩

/-- With as many negations as levels allow, two changes of connective behind them make the filter
two higher than there are levels. -/
theorem negatedFirst_exceeds_levels :
    parse (negatedFirstText 63) = .ok (negatedFirst 63) ∧
      (negatedFirst 63).height = maxDepth + 2 :=
  ⟨parse_negatedFirstText (by decide), height_negatedFirst 63⟩

end RecordSearch.Filter
