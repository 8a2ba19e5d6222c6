import Mathlib.Order.Bounds.Defs
import RecordSearch.Proofs.Filter.RoundTrip

/-!
# The height of a parsed filter

A filter takes its level, and so do `not`, parentheses and every change of connective; but a change
of connective also puts a node around all operands before it, and those were read with the levels
that were left then. So there can be more nodes above each other than there are levels. The levels
below a filter bound its height by what `tallestOperand` counts, and some text reaches that.
-/

namespace RecordSearch.Filter

mutual

/-- The height of a filter: a comparison is one high, and every node is one higher than its highest
child. -/
def height : Filter → Nat
  | .comparison _ => 1
  | .and children | .or children => heightOfAll children + 1
  | .not operand => operand.height + 1

/-- The height of the highest of some filters. -/
def heightOfAll : List Filter → Nat
  | [] => 0
  | child :: more => max child.height (heightOfAll more)

end

section Heights

/-- Every filter has a height. -/
theorem height_pos (f : Filter) : 0 < f.height := by
  cases f <;> simp [height]

/-- The highest of two lists of filters is the higher of the highest of both. -/
theorem heightOfAll_append (left right : List Filter) :
    heightOfAll (left ++ right) = max (heightOfAll left) (heightOfAll right) := by
  induction left with
  | nil => simp [heightOfAll]
  | cons child more ih => simp only [List.cons_append, heightOfAll, ih, Nat.max_assoc]

/-- A node is one higher than its highest child. -/
theorem height_node (connective : Connective) (children : List Filter) :
    (connective.node children).height = heightOfAll children + 1 := by
  cases connective <;> simp [Connective.node, height]

variable {operands : Operands} {connective : Connective}

/-- An operand that joins a run stands under the node of the run. -/
theorem height_join_same (same : operands.connective? = some connective) (operand : Filter) :
    (operands.join connective operand).tree.height =
      max operands.tree.height (operand.height + 1) := by
  cases operands with
  | single first => cases same
  | run own children =>
    cases same
    simp only [Operands.join, if_true, Operands.tree, height_node, Array.toList_push,
      heightOfAll_append, heightOfAll]
    omega

/-- A change of connective puts a node around all operands so far. -/
theorem height_join_change (change : operands.connective? ≠ some connective) (operand : Filter) :
    (operands.join connective operand).tree.height =
      max operands.tree.height operand.height + 1 := by
  cases operands with
  | single first =>
    simp [Operands.join, Operands.tree, height_node, heightOfAll]
  | run own children =>
    have other : own ≠ connective := fun same => change (congrArg some same)
    simp [Operands.join, other, Operands.tree, height_node, heightOfAll]

end Heights

section Bound

/-- The height of the highest unary filter that has `n` levels below its own. -/
def tallestOperand : Nat → Nat
  | 0 => 1
  | n + 1 => tallestOperand n + max 1 n

/-- More levels leave room for more height. -/
theorem tallestOperand_succ (n : Nat) :
    tallestOperand n + 1 ≤ tallestOperand (n + 1) ∧
      tallestOperand n + n ≤ tallestOperand (n + 1) := by
  rw [tallestOperand]
  omega

/-- Every unary filter is at least one high. -/
theorem tallestOperand_pos (n : Nat) : 0 < tallestOperand n := by
  cases n with
  | zero => exact Nat.one_pos
  | succ n =>
    have step := (tallestOperand_succ n).1
    omega

/-- A unary filter is derived at a level that there is. -/
theorem shallow_of_unary {level : Nat} {written : List Lexeme} {f : Filter}
    (derived : Unary level written f) : level < maxDepth := by
  cases derived <;> assumption

/-- A filter is derived at a level that there is. -/
theorem shallow_of_joined {level : Nat} {written : List Lexeme} {f : Filter}
    (derived : Joined level written f) : level < maxDepth := by
  cases derived with
  | operands first _ => exact shallow_of_unary first

/-- Below a level that there is are the other ones. -/
theorem exists_below {level : Nat} (shallow : level < maxDepth) :
    ∃ n, level + n + 1 = maxDepth :=
  ⟨maxDepth - level - 1, by omega⟩

/-- The operands and those that can still follow them, with `n` levels below, come to no more than
the cap. An operand that joins a run stands under its node, which is one more. -/
def HasRoom (n cap : Nat) (operands : Operands) : Prop :=
  operands.tree.height + n ≤ cap ∧
    tallestOperand n + n + (if operands.connective?.isSome then 1 else 0) ≤ cap

/-- An operand that was read with the levels below it leaves room for others. -/
theorem HasRoom.join {level n m cap : Nat} {operands : Operands} {connective : Connective}
    {operand : Filter} (room : HasRoom n cap operands) (levels : level + n + 1 = maxDepth)
    (below : levelAfter operands.connective? connective level + m + 1 = maxDepth)
    (bound : operand.height ≤ tallestOperand m) :
    HasRoom m cap (operands.join connective operand) := by
  obtain ⟨tree, more⟩ := room
  unfold HasRoom
  rw [connective?_join, Option.isSome_some, if_pos rfl]
  by_cases same : operands.connective? = some connective
  · rw [levelAfter, if_pos same] at below
    rw [same, Option.isSome_some, if_pos rfl] at more
    obtain rfl : m = n := by omega
    rw [height_join_same same]
    omega
  · rw [levelAfter, if_neg same] at below
    obtain rfl : n = m + 1 := by omega
    have step := (tallestOperand_succ m).1
    rw [height_join_change same]
    omega

/-- A filter is at most as high as the levels below it allow. The induction on its derivation also
goes through unary filters, and through further operands, for which there has to be room. -/
theorem height_le_of_joined {level : Nat} {written : List Lexeme} {f : Filter}
    (derived : Joined level written f) {n : Nat} (levels : level + n + 1 = maxDepth) :
    f.height ≤ tallestOperand n + n := by
  refine @Joined.rec
    (fun level _ f _ => ∀ {n}, level + n + 1 = maxDepth → f.height ≤ tallestOperand n)
    (fun level _ f _ => ∀ {n}, level + n + 1 = maxDepth → f.height ≤ tallestOperand n + n)
    (fun level last _ later _ => ∀ {n cap operands}, level + n + 1 = maxDepth →
      operands.connective? = last → HasRoom n cap operands →
        (operands.joinAll later).tree.height ≤ cap)
    ?negation ?group ?comparison ?operands ?none ?next level written f derived n levels
  case negation =>
    intro _ _ _ _ _ _ inner bound n levels
    obtain ⟨m, below⟩ := exists_below (shallow_of_unary inner)
    obtain rfl : n = m + 1 := by omega
    rw [height]
    exact (Nat.add_le_add_right (bound below) 1).trans (tallestOperand_succ m).1
  case group =>
    intro _ _ _ _ inner bound n levels
    obtain ⟨m, below⟩ := exists_below (shallow_of_joined inner)
    obtain rfl : n = m + 1 := by omega
    exact (bound below).trans (tallestOperand_succ m).2
  case comparison =>
    intro _ _ _ _ _ _ _ _ _ _ n _
    exact tallestOperand_pos n
  case operands =>
    intro _ _ _ first _ _ _ bound boundLater n levels
    have room : HasRoom n (tallestOperand n + n) (.single first) :=
      ⟨Nat.add_le_add_right (bound levels) n, Nat.le_refl _⟩
    rw [← tree_joinAll_single]
    exact boundLater levels rfl room
  case none =>
    intro _ _ n _ _ _ _ room
    exact (Nat.le_add_right _ n).trans room.1
  case next =>
    intro _ _ _ _ _ _ _ _ _ shallow _ _ bound boundLater n cap operands levels own room
    obtain ⟨m, below⟩ := exists_below shallow
    have next := room.join levels (own ▸ below) (bound below)
    exact boundLater below (connective?_join _ _ _) next

end Bound

section Attained

/-- Some text is cut into the lexemes, whatever follows it. -/
def HasText (written : List Lexeme) : Prop := ∃ text, ∀ rest, Lexes text written rest

/-- Lexemes that have texts have one together. -/
theorem HasText.append {before after : List Lexeme} (first : HasText before)
    (second : HasText after) : HasText (before ++ after) := by
  obtain ⟨left, cutLeft⟩ := first
  obtain ⟨right, cutRight⟩ := second
  exact ⟨left ++ right, fun rest => (cutLeft _).append (cutRight rest)⟩

/-- A keyword with a blank behind it has a text. -/
theorem hasText_keyword (keyword : Keyword) : HasText [.word keyword.word] := by
  refine ⟨keyword.word.toList ++ [' '], fun rest => ?_⟩
  have word : Lexes keyword.word.toList [.word keyword.word] ([' '] ++ rest) :=
    lexes_letters (by cases keyword <;> decide) (by cases keyword <;> decide)
      (startsNoWord_blank rest)
  exact word.append (lexes_blank (by decide))

/-- The comparison of `x` with null, with a blank behind it, has a text. -/
theorem hasText_isNull : HasText (isNull "x").written :=
  ⟨(isNull "x").chars ++ [' '], fun rest =>
    (lexes_chars (isNull "x") (.comparison isField_negatedFirst.1) (startsNoWord_blank rest)).append
      (lexes_blank (by decide))⟩

/-- What has a text has one in parentheses. -/
theorem HasText.group {written : List Lexeme} (inner : HasText written) :
    HasText (.opening :: written ++ [.closing]) := by
  obtain ⟨text, cut⟩ := inner
  exact ⟨'(' :: text ++ [')'], fun rest => (lexes_opening.append (cut _)).append lexes_closing⟩

/-- A connective that differs from the one before it. -/
def otherConnective : Option Connective → Connective
  | some .and => .or
  | _ => .and

/-- It differs. -/
theorem ne_otherConnective (last : Option Connective) : last ≠ some (otherConnective last) := by
  rcases last with _ | _ | _ <;> decide

/-- As many comparisons as there are levels can follow operands, each with another connective, and
each makes the operands one higher. -/
theorem exists_later {n level : Nat} (levels : level + n < maxDepth) (last : Option Connective) :
    ∃ written later, Later level last written later ∧ HasText written ∧
      ∀ operands : Operands, operands.connective? = last →
        (operands.joinAll later).tree.height = operands.tree.height + n := by
  induction n generalizing level last with
  | zero => exact ⟨[], [], .none, ⟨[], fun _ => lexes_nil⟩, fun _ _ => rfl⟩
  | succ n ih =>
    have other := ne_otherConnective last
    have next : levelAfter last (otherConnective last) level = level + 1 := if_neg other
    have below : level + 1 < maxDepth := by omega
    obtain ⟨written, later, joined, hasText, higher⟩ :=
      @ih (level + 1) (by omega) (some (otherConnective last))
    have comparison := unary_isNull isField_negatedFirst.1 below
    rw [← next] at below comparison joined
    refine ⟨_, _, .next (Keyword.spells_word _) below comparison joined,
      ((hasText_keyword _).append hasText_isNull).append hasText, ?_⟩
    rintro operands rfl
    have positive := height_pos operands.tree
    have one : (isNull "x").height = 1 := rfl
    have joinedFirst := height_join_change other (isNull "x")
    have joinedAll := higher _ (connective?_join _ (isNull "x") operands)
    rw [Operands.joinAll, List.foldl_cons, ← Operands.joinAll, joinedAll, joinedFirst, one]
    omega

/-- Behind a unary filter there are as many levels for changes of connective as below it. -/
theorem exists_joined_of_unary {n level : Nat} (levels : level + n < maxDepth)
    {written : List Lexeme} {f : Filter} (derived : Unary level written f)
    (hasText : HasText written) :
    ∃ all g, Joined level all g ∧ g.height = f.height + n ∧ HasText all := by
  obtain ⟨more, later, joined, hasMore, higher⟩ := exists_later levels none
  refine ⟨written ++ more, grouped f later, .operands derived joined, ?_, hasText.append hasMore⟩
  rw [← tree_joinAll_single]
  exact higher (.single f) rfl

/-- A unary filter that is as high as the levels below it allow: a comparison, its negation, and
above it groups in parentheses of such a filter and comparisons that each change the connective. -/
theorem exists_tallest (n : Nat) {level : Nat} (levels : level + n < maxDepth) :
    ∃ written f, Unary level written f ∧ f.height = tallestOperand n ∧ HasText written := by
  induction n generalizing level with
  | zero =>
    exact ⟨_, _, unary_isNull isField_negatedFirst.1 levels, rfl, hasText_isNull⟩
  | succ n ih =>
    obtain ⟨written, f, derived, high, hasText⟩ := @ih (level + 1) (by omega)
    cases n with
    | zero =>
      refine ⟨_, .not f, .negation (by omega) (Keyword.spells_word _) derived, ?_,
        (hasText_keyword .not).append hasText⟩
      rw [height, high]
      rfl
    | succ n =>
      obtain ⟨all, g, joined, higher, hasAll⟩ :=
        exists_joined_of_unary (n := n + 1) (by omega) derived hasText
      refine ⟨_, g, .group (by omega) joined, ?_, hasAll.group⟩
      rw [higher, high, tallestOperand.eq_def (n + 1 + 1)]
      simp

end Attained

/-- The filters that texts parse to are at most 2018 high, and one is that high. -/
theorem isGreatest_height :
    IsGreatest {h | ∃ text f, parse text = .ok f ∧ f.height = h} 2018 := by
  have greatest : tallestOperand 63 + 63 = 2018 := by decide
  constructor
  · obtain ⟨written, f, derived, high, hasText⟩ := @exists_tallest 63 0 (by decide)
    obtain ⟨all, g, joined, higher, text, cut⟩ :=
      exists_joined_of_unary (n := 63) (by decide) derived hasText
    have cutText : Lexes (String.ofList text).toList all [] := by
      rw [String.toList_ofList]
      exact cut []
    obtain ⟨tokens, tokenized, same⟩ := tokenize_of_lexes cutText
    rw [← same] at joined
    have parsed := (parse_eq_ok_iff_derives _ g).2 ⟨tokens, tokenized, .inr joined⟩
    exact ⟨String.ofList text, g, parsed, by rw [higher, high, greatest]⟩
  · rintro _ ⟨text, f, parsed, rfl⟩
    obtain ⟨tokens, -, ⟨-, rfl⟩ | joined⟩ := (parse_eq_ok_iff_derives text f).1 parsed
    · decide
    · rw [← greatest]
      exact height_le_of_joined joined rfl

end RecordSearch.Filter
