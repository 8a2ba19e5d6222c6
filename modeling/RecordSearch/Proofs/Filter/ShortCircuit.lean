import RecordSearch.Proofs.Filter.Walks

/-!
# What a walk asks for and comes to

A walk asks for some of the comparisons of its filter, in their order. The first one that cannot be
decided is the last one asked for and gives the result. If there is none, the result is the truth
value of the filter, whatever truth values the comparisons have that were not asked for. So nothing
that was not asked for makes a difference.
-/

namespace RecordSearch

namespace Filter

mutual

/-- The truth value of a filter whose comparisons all have one. -/
def truth (assignment : Comparison → Bool) : Filter → Bool
  | .comparison c => assignment c
  | .and children => allTrue assignment children
  | .or children => someTrue assignment children
  | .not operand => !truth assignment operand

/-- Whether all of some filters are true. -/
def allTrue (assignment : Comparison → Bool) : List Filter → Bool
  | [] => true
  | child :: more => truth assignment child && allTrue assignment more

/-- Whether one of some filters is true. -/
def someTrue (assignment : Comparison → Bool) : List Filter → Bool
  | [] => false
  | child :: more => truth assignment child || someTrue assignment more

end

/-- A node without children has the neutral truth value. -/
theorem truth_node_nil (assignment : Comparison → Bool) (connective : Connective) :
    truth assignment (connective.node []) = connective.neutral := by
  cases connective <;> rfl

/-- A child that has not the neutral truth value settles its node. -/
theorem truth_node_cons (assignment : Comparison → Bool) (connective : Connective)
    (child : Filter) (more : List Filter) :
    truth assignment (connective.node (child :: more)) =
      if truth assignment child = connective.neutral then
        truth assignment (connective.node more)
      else truth assignment child := by
  cases connective with
  | and =>
    rw [Connective.node, truth, allTrue]
    cases truth assignment child <;> rfl
  | or =>
    rw [Connective.node, truth, someTrue]
    cases truth assignment child <;> rfl

/-- The comparisons of a node are those of its children. -/
theorem comparisons_node (connective : Connective) (children : List Filter) :
    comparisons (connective.node children) = comparisonsOfAll children := by
  cases connective <;> rfl

end Filter

namespace Walk

variable {ε : Type} {decide : Comparison → Except ε Bool}

/-- The walk asks for some of these comparisons in order, ends with the first one that cannot be
decided, and otherwise comes to this truth value. -/
structure Follows (decide : Comparison → Except ε Bool) (walk : Walk ε)
    (comparisons : List Comparison) (truth : (Comparison → Bool) → Bool) : Prop where
  inOrder : walk.asked.Sublist comparisons
  endsAtError : ∀ before c after error, walk.asked = before ++ c :: after →
    decide c = .error error → after = [] ∧ walk.result = .error error
  comesTo : ∀ assignment, (∀ c ∈ walk.asked, decide c = .ok (assignment c)) →
    walk.result = .ok (truth assignment)

/-- A walk that asks for one comparison follows it. -/
theorem follows_comparison (c : Comparison) :
    Follows decide ⟨[c], decide c⟩ [c] fun assignment => assignment c where
  inOrder := List.Sublist.refl _
  endsAtError := by
    intro before other after error split undecided
    cases before with
    | nil =>
      obtain ⟨rfl, rfl⟩ := List.cons.inj split
      exact ⟨rfl, undecided⟩
    | cons first before => simp at split
  comesTo := fun _ extended => extended c (List.mem_singleton_self c)

/-- A walk that asks for nothing comes to its truth value. -/
theorem follows_settled (holds : Bool) : Follows decide (.settled holds) [] fun _ => holds where
  inOrder := List.Sublist.refl _
  endsAtError := by
    intro before c after error split
    simp [settled] at split
  comesTo := fun _ _ => rfl

/-- The negated walk asks for the same and comes to the other truth value. -/
theorem Follows.negate {walk : Walk ε} {comparisons : List Comparison}
    {truth : (Comparison → Bool) → Bool} (follows : Follows decide walk comparisons truth) :
    Follows decide walk.negate comparisons fun assignment => !truth assignment where
  inOrder := follows.inOrder
  endsAtError := by
    intro before c after error split undecided
    obtain ⟨isLast, fails⟩ := follows.endsAtError before c after error split undecided
    refine ⟨isLast, ?_⟩
    rw [Walk.negate, fails]
    rfl
  comesTo := by
    intro assignment extended
    rw [Walk.negate, follows.comesTo assignment extended]
    rfl

/-- Walks one after another follow the comparisons of both. The later ones are skipped where the
first walk settles the truth value. -/
theorem Follows.next {walk later : Walk ε} {comparisons others : List Comparison}
    {truth truthLater : (Comparison → Bool) → Bool} {wanted : Bool}
    (follows : Follows decide walk comparisons truth)
    (followsLater : Follows decide later others truthLater) :
    Follows decide (walk.next wanted later) (comparisons ++ others) fun assignment =>
      if truth assignment = wanted then truthLater assignment else truth assignment := by
  by_cases comes : walk.result = .ok wanted
  · rw [next_of_eq comes]
    constructor
    · exact follows.inOrder.append followsLater.inOrder
    · intro before c after error split undecided
      -- The first walk came to a truth value, so the comparison belongs to the later one.
      rcases List.append_eq_append_iff.1 split with ⟨more, rfl, inLater⟩ | ⟨more, inFirst, rest⟩
      · exact followsLater.endsAtError more c after error inLater undecided
      · cases more with
        | nil =>
          exact followsLater.endsAtError [] c after error rest.symm undecided
        | cons first more =>
          obtain ⟨rfl, -⟩ := List.cons.inj rest
          have fails := (follows.endsAtError before c more error inFirst undecided).2
          rw [comes] at fails
          cases fails
    · intro assignment extended
      have first : walk.result = .ok (truth assignment) :=
        follows.comesTo assignment fun c isAsked => extended c (List.mem_append_left _ isAsked)
      have second : later.result = .ok (truthLater assignment) :=
        followsLater.comesTo assignment fun c isAsked =>
          extended c (List.mem_append_right _ isAsked)
      have same : truth assignment = wanted := Except.ok.inj (first.symm.trans comes)
      rw [if_pos same]
      exact second
  · rw [next_of_ne comes]
    constructor
    · exact follows.inOrder.trans (List.sublist_append_left _ _)
    · exact follows.endsAtError
    · intro assignment extended
      have settles := follows.comesTo assignment extended
      have different : truth assignment ≠ wanted := by
        intro same
        exact comes (same ▸ settles)
      rw [if_neg different]
      exact settles

/-- Answers that are truth values are those of an assignment. -/
theorem exists_assignment_of_decided {asked : List Comparison}
    (decided : ∀ c ∈ asked, ∃ holds, decide c = .ok holds) :
    ∃ assignment : Comparison → Bool, ∀ c ∈ asked, decide c = .ok (assignment c) := by
  refine ⟨fun c => (decide c).toOption.getD false, ?_⟩
  intro c isAsked
  obtain ⟨holds, came⟩ := decided c isAsked
  simp only [came]
  rfl

/-- The error of a walk is that of a comparison asked for. -/
theorem Follows.exists_undecided {walk : Walk ε} {comparisons : List Comparison}
    {truth : (Comparison → Bool) → Bool} (follows : Follows decide walk comparisons truth)
    {error : ε} (fails : walk.result = .error error) :
    ∃ c ∈ walk.asked, decide c = .error error := by
  by_cases undecided : ∃ c ∈ walk.asked, ∃ own, decide c = .error own
  · obtain ⟨c, isAsked, own, answer⟩ := undecided
    obtain ⟨before, after, split⟩ := List.append_of_mem isAsked
    have same : walk.result = .error own := (follows.endsAtError before c after own split answer).2
    rw [fails] at same
    cases same
    exact ⟨c, isAsked, answer⟩
  · have decided : ∀ c ∈ walk.asked, ∃ holds, decide c = .ok holds := by
      intro c isAsked
      cases answer : decide c with
      | error own => exact absurd ⟨c, isAsked, own, answer⟩ undecided
      | ok holds => exact ⟨holds, rfl⟩
    obtain ⟨assignment, extended⟩ := exists_assignment_of_decided decided
    rw [follows.comesTo assignment extended] at fails
    cases fails

end Walk

namespace Filter

variable {ε : Type} (decide : Comparison → Except ε Bool)

/-- The walk through a filter follows its comparisons and its truth value. -/
theorem follows_walk (f : Filter) :
    Walk.Follows decide (f.walk decide) f.comparisons fun assignment => f.truth assignment := by
  induction f using induction_nodes with
  | comparison c => exact Walk.follows_comparison c
  | node connective children ih =>
    rw [comparisons_node]
    induction children with
    | nil =>
      simp only [walk_node_nil, truth_node_nil, comparisonsOfAll]
      exact Walk.follows_settled _
    | cons child more ihMore =>
      have first := ih child List.mem_cons_self
      have later := ihMore fun other isLater => ih other (List.mem_cons_of_mem _ isLater)
      simp only [walk_node_cons, truth_node_cons, comparisonsOfAll]
      exact first.next later
  | not operand ih => exact ih.negate

/-- Another way to decide comparisons gives the same walk, if it agrees on those asked for. -/
theorem walk_eq_of_agree {decide other : Comparison → Except ε Bool} {f : Filter}
    (agree : ∀ c ∈ (f.walk decide).asked, other c = decide c) : f.walk other = f.walk decide := by
  induction f using induction_nodes with
  | comparison c =>
    have same : other c = decide c := agree c (List.mem_singleton_self c)
    rw [walk, walk, same]
  | node connective children ih =>
    induction children with
    | nil => rw [walk_node_nil, walk_node_nil]
    | cons child more ihMore =>
      rw [walk_node_cons] at agree ⊢
      by_cases comes : (child.walk decide).result = .ok connective.neutral
      · rw [Walk.next_of_eq comes] at agree
        have first : child.walk other = child.walk decide :=
          ih child List.mem_cons_self fun c isAsked => agree c (List.mem_append_left _ isAsked)
        have later : walk other (connective.node more) = walk decide (connective.node more) :=
          ihMore (fun later isLater => ih later (List.mem_cons_of_mem _ isLater))
            fun c isAsked => agree c (List.mem_append_right _ isAsked)
        rw [walk_node_cons, first, later]
      · rw [Walk.next_of_ne comes] at agree
        have first := ih child List.mem_cons_self agree
        rw [walk_node_cons, first, Walk.next_of_ne comes, Walk.next_of_ne comes]
  | not operand ih =>
    rw [walk_not, walk_not, ih agree]

/-- A walk asks for comparisons of its filter from left to right, each of them at most once. If one
of those cannot be decided, it is the last one asked for and its error is the result. Otherwise the
result is the truth value of the filter for every assignment of truth values that extends the
answers. Another way to decide comparisons that agrees on those asked for gives the same walk. -/
theorem walk_shortCircuits (f : Filter) :
    (f.walk decide).asked.Sublist f.comparisons ∧
      (∀ before c after error, (f.walk decide).asked = before ++ c :: after →
        decide c = .error error → after = [] ∧ (f.walk decide).result = .error error) ∧
      ((∀ c ∈ (f.walk decide).asked, ∃ holds, decide c = .ok holds) →
        ∃ holds, (f.walk decide).result = .ok holds ∧
          ∀ assignment : Comparison → Bool,
            (∀ c ∈ (f.walk decide).asked, decide c = .ok (assignment c)) →
              f.truth assignment = holds) ∧
      ∀ other : Comparison → Except ε Bool,
        (∀ c ∈ (f.walk decide).asked, other c = decide c) → f.walk other = f.walk decide := by
  have follows := follows_walk decide f
  refine ⟨follows.inOrder, follows.endsAtError, ?_, fun other => walk_eq_of_agree⟩
  intro decided
  obtain ⟨answers, answered⟩ := Walk.exists_assignment_of_decided decided
  refine ⟨f.truth answers, follows.comesTo answers answered, ?_⟩
  intro assignment extended
  have sameResult : Except.ok (f.truth assignment) = .ok (f.truth answers) :=
    (follows.comesTo assignment extended).symm.trans (follows.comesTo answers answered)
  exact Except.ok.inj sameResult

end Filter

end RecordSearch
