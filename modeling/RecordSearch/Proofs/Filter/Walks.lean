import RecordSearch.Proofs.Filter.Comparisons

/-!
# Walks through filters

The walks through `and` and through `or` are one: a node goes on to its next child where a child
comes to the truth value that the connective has without children, and every other child ends it.
Negating a walk turns the one into the other. A walk asks for the comparisons of its filter in
order, ends with the first one that cannot be decided, and otherwise comes to the truth value that
the filter has however the comparisons it skipped turn out.
-/

namespace RecordSearch

/-- The truth value of the node without children. -/
def Connective.neutral : Connective → Bool
  | and => true
  | or => false

namespace Walk

variable {ε : Type}

/-- The walk that asks for nothing. -/
def settled (holds : Bool) : Walk ε := ⟨[], .ok holds⟩

/-- The walk with its truth value replaced by the other one. -/
def negate (walk : Walk ε) : Walk ε := ⟨walk.asked, walk.result.map (!·)⟩

/-- The walk, with another one after it if it comes to this truth value. -/
def next (walk : Walk ε) (wanted : Bool) (later : Walk ε) : Walk ε :=
  match walk.result with
  | .ok holds => if holds = wanted then later.after walk.asked else walk
  | .error _ => walk

variable {walk later last : Walk ε} {wanted : Bool}

/-- A walk that comes to the wanted truth value goes on. -/
theorem next_of_eq (comes : walk.result = .ok wanted) :
    walk.next wanted later = later.after walk.asked := by
  rw [next, comes]
  exact if_pos rfl

/-- A walk that comes to anything else ends. -/
theorem next_of_ne (ends : walk.result ≠ .ok wanted) : walk.next wanted later = walk := by
  unfold next
  split
  · next holds came =>
    apply if_neg
    rintro rfl
    exact ends came
  · rfl

/-- Nothing goes on with the other walk. -/
theorem settled_next : (settled wanted).next wanted later = later := by
  rw [next_of_eq rfl]
  rfl

/-- Walks that follow each other can be grouped in either way. -/
theorem next_assoc :
    (walk.next wanted later).next wanted last = walk.next wanted (later.next wanted last) := by
  by_cases comes : walk.result = .ok wanted
  · rw [next_of_eq comes, next_of_eq comes]
    by_cases goesOn : later.result = .ok wanted
    · have bothCome : (later.after walk.asked).result = .ok wanted := goesOn
      rw [next_of_eq goesOn, next_of_eq bothCome]
      simp only [after, List.append_assoc]
    · have bothEnd : (later.after walk.asked).result ≠ .ok wanted := goesOn
      rw [next_of_ne goesOn, next_of_ne bothEnd]
  · rw [next_of_ne comes, next_of_ne comes, next_of_ne comes]

/-- The negated walk comes to the other truth value. -/
theorem result_negate_eq_iff : walk.negate.result = .ok wanted ↔ walk.result = .ok !wanted := by
  unfold negate
  cases walk.result with
  | error error => simp [Except.map]
  | ok holds => cases holds <;> cases wanted <;> simp [Except.map]

/-- Negating twice changes nothing. -/
theorem negate_negate : walk.negate.negate = walk := by
  obtain ⟨asked, result⟩ := walk
  cases result with
  | error error => rfl
  | ok holds => simp [negate, Except.map]

/-- The negated walk goes on with the negated one where the walk goes on. -/
theorem negate_next :
    (walk.next wanted later).negate = walk.negate.next (!wanted) later.negate := by
  have same : walk.negate.result = .ok (!wanted) ↔ walk.result = .ok wanted := by
    rw [result_negate_eq_iff, Bool.not_not]
  by_cases comes : walk.result = .ok wanted
  · rw [next_of_eq comes, next_of_eq (same.2 comes)]
    rfl
  · rw [next_of_ne comes, next_of_ne (mt same.1 comes)]

end Walk

namespace Filter

variable {ε : Type} (decide : Comparison → Except ε Bool)

/-- What holds of comparisons and is kept by nodes and by `not` holds of every filter. -/
@[elab_as_elim]
theorem induction_nodes {motive : Filter → Prop} (comparison : ∀ c, motive (.comparison c))
    (node : ∀ (connective : Connective) (children : List Filter),
      (∀ child ∈ children, motive child) → motive (connective.node children))
    (not : ∀ operand, motive operand → motive (.not operand)) (f : Filter) : motive f := by
  match f with
  | .comparison c => exact comparison c
  | .and children =>
    exact node .and children fun child _ => induction_nodes comparison node not child
  | .or children =>
    exact node .or children fun child _ => induction_nodes comparison node not child
  | .not operand => exact not operand (induction_nodes comparison node not operand)

/-- A node without children asks for nothing. -/
theorem walk_node_nil (connective : Connective) :
    walk decide (connective.node []) = .settled connective.neutral := by
  cases connective <;> rfl

/-- A node goes on to its later children where the first one comes to the neutral truth value. -/
theorem walk_node_cons (connective : Connective) (child : Filter) (more : List Filter) :
    walk decide (connective.node (child :: more)) =
      (walk decide child).next connective.neutral (walk decide (connective.node more)) := by
  cases connective with
  | and =>
    rw [Connective.node, walk, walkAnd, Walk.next]
    cases (walk decide child).result with
    | error error => rfl
    | ok holds => cases holds <;> rfl
  | or =>
    rw [Connective.node, walk, walkOr, Walk.next]
    cases (walk decide child).result with
    | error error => rfl
    | ok holds => cases holds <;> rfl

/-- The children of a node are walked one after another. -/
theorem walk_node_append (connective : Connective) (before after : List Filter) :
    walk decide (connective.node (before ++ after)) =
      (walk decide (connective.node before)).next connective.neutral
        (walk decide (connective.node after)) := by
  induction before with
  | nil => rw [walk_node_nil, List.nil_append, Walk.settled_next]
  | cons child before ih =>
    rw [List.cons_append, walk_node_cons, walk_node_cons, ih, Walk.next_assoc]

/-- `not` negates the walk of its operand. -/
theorem walk_not (operand : Filter) : walk decide (.not operand) = (walk decide operand).negate :=
  rfl

end Filter

end RecordSearch
