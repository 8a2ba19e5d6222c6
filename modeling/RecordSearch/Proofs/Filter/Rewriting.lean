import Mathlib.Logic.Relation
import RecordSearch.Proofs.Filter.Walks

/-!
# Filters with the same walk

A node can be spread out among the children of a node of the same connective, `not` can be moved to
the children of a node, and two of them can be left out, anywhere in a filter: its walk asks for
the same comparisons in the same order and comes to the same result, even where comparisons cannot
be decided.
-/

namespace RecordSearch

/-- The connective that `not` turns this one into. -/
def Connective.dual : Connective → Connective
  | and => .or
  | or => .and

/-- The dual connective has the other neutral truth value. -/
theorem Connective.neutral_dual (connective : Connective) :
    connective.dual.neutral = !connective.neutral := by
  cases connective <;> rfl

namespace Filter

/-- The filters are walked alike, whatever decides their comparisons. -/
def SameWalk (f g : Filter) : Prop :=
  ∀ (ε : Type) (decide : Comparison → Except ε Bool), f.walk decide = g.walk decide

/-- One filter becomes the other by one rewriting of a part of it. -/
inductive Rewrites : Filter → Filter → Prop where
  /-- A node among the children of a node of its connective is spread out. -/
  | spread (connective : Connective) (before inner after : List Filter) :
    Rewrites (connective.node (before ++ connective.node inner :: after))
      (connective.node (before ++ inner ++ after))
  /-- `not` is moved to the children of a node. -/
  | moveNot (connective : Connective) (children : List Filter) :
    Rewrites (.not (connective.node children)) (connective.dual.node (children.map .not))
  /-- Two `not` are left out. -/
  | dropNots (operand : Filter) : Rewrites (.not (.not operand)) operand
  /-- The part is in a child of a node. -/
  | child (connective : Connective) (before after : List Filter) {f g : Filter}
    (within : Rewrites f g) :
    Rewrites (connective.node (before ++ f :: after)) (connective.node (before ++ g :: after))
  /-- The part is in the operand of `not`. -/
  | operand {f g : Filter} (within : Rewrites f g) : Rewrites (.not f) (.not g)

/-- A child can be replaced by one that is walked alike. -/
theorem SameWalk.child {f g : Filter} (same : SameWalk f g) (connective : Connective)
    (before after : List Filter) :
    SameWalk (connective.node (before ++ f :: after))
      (connective.node (before ++ g :: after)) := by
  intro ε decide
  rw [walk_node_append, walk_node_append, walk_node_cons, walk_node_cons, same ε decide]

/-- The operand of `not` can be replaced by one that is walked alike. -/
theorem SameWalk.operand {f g : Filter} (same : SameWalk f g) : SameWalk (.not f) (.not g) := by
  intro ε decide
  rw [walk_not, walk_not, same ε decide]

/-- A node among the children of a node of its connective is walked as its own children are. -/
theorem sameWalk_spread (connective : Connective) (before inner after : List Filter) :
    SameWalk (connective.node (before ++ connective.node inner :: after))
      (connective.node (before ++ inner ++ after)) := by
  intro ε decide
  rw [walk_node_append, walk_node_cons, walk_node_append, walk_node_append, Walk.next_assoc]

/-- A negated node is walked as the dual node of the negated children. -/
theorem sameWalk_moveNot (connective : Connective) (children : List Filter) :
    SameWalk (.not (connective.node children)) (connective.dual.node (children.map .not)) := by
  intro ε decide
  rw [walk_not]
  induction children with
  | nil =>
    rw [List.map_nil, walk_node_nil, walk_node_nil, Connective.neutral_dual]
    rfl
  | cons child more ih =>
    rw [List.map_cons, walk_node_cons, walk_node_cons, Walk.negate_next, ih, walk_not,
      Connective.neutral_dual]

/-- Two `not` are walked as if they were left out. -/
theorem sameWalk_dropNots (operand : Filter) : SameWalk (.not (.not operand)) operand := by
  intro ε decide
  rw [walk_not, walk_not, Walk.negate_negate]

/-- Rewriting a part of a filter leaves its walk unchanged. -/
theorem sameWalk_of_rewrites {f g : Filter} (rewrites : Rewrites f g) : SameWalk f g := by
  induction rewrites with
  | spread connective before inner after => exact sameWalk_spread connective before inner after
  | moveNot connective children => exact sameWalk_moveNot connective children
  | dropNots operand => exact sameWalk_dropNots operand
  | child connective before after within same => exact same.child connective before after
  | operand within same => exact same.operand

/-- Rewriting parts of a filter any number of times, in either direction, leaves its walk
unchanged. -/
theorem sameWalk_of_eqvGen {f g : Filter} (rewritten : Relation.EqvGen Rewrites f g) :
    SameWalk f g := by
  intro ε decide
  induction rewritten with
  | rel f g rewrites => exact sameWalk_of_rewrites rewrites ε decide
  | refl f => rfl
  | symm f g _ same => exact same.symm
  | trans f g h _ _ first second => exact first.trans second

end Filter

end RecordSearch
