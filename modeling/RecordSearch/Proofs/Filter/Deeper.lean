import RecordSearch.Proofs.Filter.Grammar

/-!
# Reading at a deeper level

The level at which a reader starts decides one thing only: whether its levels suffice. Started at a
deeper level, a reader comes to the same filter, the same rest or the same refusal, unless it is
refused for its nesting before. So tokens that form a filter form the same one wherever they stand,
or stand too deep.

Seen from the whole text, a reader goes from an index of its tokens to another one, or comes to a
syntax error; the level decides on these no more than on the rest.
-/

namespace RecordSearch.Filter

/-- The reading is refused for its nesting. -/
def NestingRefused (reading : Reading) : Prop :=
  ∃ place, reading = .error ⟨.shallower, place⟩

/-- The deeper one of two readings comes to what the other one does, or is refused for its
nesting. -/
def AgreesUnlessNested (deeper reading : Reading) : Prop :=
  NestingRefused deeper ∨ deeper = reading

section Readings

variable {deeper reading : Reading}

/-- Two steps agree where the first ones do, and the second ones after what the first came to. -/
theorem AgreesUnlessNested.bind {deeperNext next : Filter × List Token → Reading}
    (first : AgreesUnlessNested deeper reading)
    (second : ∀ found, reading = .ok found → AgreesUnlessNested (deeperNext found) (next found)) :
    AgreesUnlessNested (deeper.bind deeperNext) (reading.bind next) := by
  rcases first with ⟨place, refused⟩ | rfl
  · exact .inl ⟨place, by rw [refused]; rfl⟩
  · cases deeper with
    | error refusal => exact .inr rfl
    | ok found => exact second found rfl

/-- What is made of two readings agrees where they do. -/
theorem AgreesUnlessNested.map (next : Filter × List Token → Filter × List Token)
    (first : AgreesUnlessNested deeper reading) :
    AgreesUnlessNested (deeper.map next) (reading.map next) := by
  rcases first with ⟨place, refused⟩ | rfl
  · exact .inl ⟨place, by rw [refused]; rfl⟩
  · exact .inr rfl

end Readings

/-- Operands that start at a deeper level go on at one. -/
theorem levelAfter_le_levelAfter {level deep : Nat} (le : level ≤ deep) (last : Option Connective)
    (connective : Connective) :
    levelAfter last connective level ≤ levelAfter last connective deep := by
  unfold levelAfter
  split
  · exact le
  · exact Nat.succ_le_succ le

mutual

/-- A unary filter is read at a deeper level as before, unless it is refused for its nesting. -/
theorem readUnary_deeper {level deep : Nat} (le : level ≤ deep) (tokens : List Token) :
    AgreesUnlessNested (readUnary deep tokens) (readUnary level tokens) := by
  by_cases tooDeep : maxDepth ≤ deep
  · exact .inl ⟨tokens, readUnary_deep tooDeep tokens⟩
  have deepShallow : deep < maxDepth := Nat.lt_of_not_le tooDeep
  have shallow : level < maxDepth := Nat.lt_of_le_of_lt le deepShallow
  match tokens with
  | [] => exact .inr (by rw [readUnary_nil deepShallow, readUnary_nil shallow])
  | token :: rest =>
    by_cases isNot : token.keyword? = some .not
    · rw [readUnary_not deepShallow isNot, readUnary_not shallow isNot]
      exact (readUnary_deeper (Nat.succ_le_succ le) rest).map _
    by_cases opening : token.lexeme = .opening
    · rw [readUnary_opening deepShallow opening, readUnary_opening shallow opening]
      exact (readFilter_deeper (Nat.succ_le_succ le) rest).bind fun _ _ => .inr rfl
    · exact .inr (by rw [readUnary_comparison deepShallow isNot opening,
        readUnary_comparison shallow isNot opening])
termination_by (tokens.length, 0)

/-- A filter is read at a deeper level as before, unless it is refused for its nesting. -/
theorem readFilter_deeper {level deep : Nat} (le : level ≤ deep) (tokens : List Token) :
    AgreesUnlessNested (readFilter deep tokens) (readFilter level tokens) := by
  rw [readFilter_eq, readFilter_eq]
  refine (readUnary_deeper le tokens).bind fun found first => ?_
  have fewer : found.2.length < tokens.length := length_of_readUnary first
  exact readOperands_deeper le (.single found.1) found.2
termination_by (tokens.length, 1)

/-- Operands are read at a deeper level as before, unless they are refused for their nesting. -/
theorem readOperands_deeper {level deep : Nat} (le : level ≤ deep) (operands : Operands)
    (tokens : List Token) :
    AgreesUnlessNested (readOperands deep operands tokens)
      (readOperands level operands tokens) := by
  match tokens with
  | [] => exact .inr (by rw [readOperands_nil, readOperands_nil])
  | token :: rest =>
    cases joins : token.connective? with
    | none => exact .inr (by rw [readOperands_stop joins, readOperands_stop joins])
    | some connective =>
      have next := levelAfter_le_levelAfter le operands.connective? connective
      by_cases tooDeep : maxDepth ≤ levelAfter operands.connective? connective deep
      · exact .inl ⟨token :: rest, readOperands_deep joins tooDeep⟩
      have deepShallow := Nat.lt_of_not_le tooDeep
      rw [readOperands_join joins deepShallow,
        readOperands_join joins (Nat.lt_of_le_of_lt next deepShallow)]
      refine (readUnary_deeper next rest).bind fun found first => ?_
      have fewer : found.2.length < rest.length := length_of_readUnary first
      exact readOperands_deeper next (operands.join connective found.1) found.2
termination_by (tokens.length, 0)

end

section Indices

/-- What a reader comes to from an index of the tokens of a text of so many bytes: a filter and the
index at which it stops, or a syntax error. -/
def readFrom (read : List Token → Reading) (bytes : Nat) (tokens : List Token) (start : Nat) :
    Except SyntaxError (Filter × Nat) :=
  match read (tokens.drop start) with
  | .ok (f, rest) => .ok (f, tokens.length - rest.length)
  | .error refusal => .error (refusal.syntaxError bytes)

/-- The outcome is the error for nesting. -/
def IsNestingError (outcome : Except SyntaxError (Filter × Nat)) : Prop :=
  ∃ position found, outcome = .error ⟨position, .shallower, found⟩

variable {read deeper shallower : List Token → Reading} {bytes start : Nat} {tokens : List Token}

/-- A reader stops at the index from which on it leaves the tokens, if it leaves the last ones. -/
theorem readFrom_eq_ok_iff {f : Filter} {stop : Nat}
    (leaves : ∀ {f rest}, read (tokens.drop start) = .ok (f, rest) →
      ∃ used, tokens.drop start = used ++ rest) :
    readFrom read bytes tokens start = .ok (f, stop) ↔
      stop ≤ tokens.length ∧ read (tokens.drop start) = .ok (f, tokens.drop stop) := by
  unfold readFrom
  constructor
  · intro stops
    cases reading : read (tokens.drop start) with
    | error refusal =>
      rw [reading] at stops
      cases stops
    | ok found =>
      obtain ⟨g, rest⟩ := found
      rw [reading] at stops
      cases stops
      obtain ⟨used, split⟩ := leaves reading
      have suffix : rest <:+ tokens := (List.suffix_append used rest).trans
        (split ▸ List.drop_suffix start tokens)
      refine ⟨Nat.sub_le _ _, ?_⟩
      rw [← List.suffix_iff_eq_drop.1 suffix]
  · rintro ⟨inside, reading⟩
    have length : tokens.length - (tokens.drop stop).length = stop := by
      rw [List.length_drop]
      omega
    simp only [reading, length]

/-- A refusal for nesting is the error for nesting. -/
theorem isNestingError_readFrom (refused : NestingRefused (read (tokens.drop start))) :
    IsNestingError (readFrom read bytes tokens start) := by
  obtain ⟨place, refused⟩ := refused
  unfold readFrom
  rw [refused]
  cases place with
  | nil => exact ⟨_, _, rfl⟩
  | cons token rest => exact ⟨_, _, rfl⟩

/-- Readers that agree unless one is refused for its nesting come to the same from an index, unless
that one comes to the error for nesting. -/
theorem readFrom_eq_of_agrees
    (agrees : AgreesUnlessNested (deeper (tokens.drop start)) (shallower (tokens.drop start)))
    (settled : ¬IsNestingError (readFrom deeper bytes tokens start)) :
    readFrom shallower bytes tokens start = readFrom deeper bytes tokens start := by
  rcases agrees with refused | same
  · exact absurd (isNestingError_readFrom refused) settled
  · unfold readFrom
    rw [same]

end Indices

/-- What a filter or a unary filter is read as from an index, and where its reading stops, or the
error that it comes to, is the same at every smaller level, unless the error is that for nesting. -/
theorem readFrom_level {level deep : Nat} (le : level ≤ deep) (bytes : Nat) (tokens : List Token)
    (start : Nat) :
    (¬IsNestingError (readFrom (readFilter deep) bytes tokens start) →
        readFrom (readFilter level) bytes tokens start =
          readFrom (readFilter deep) bytes tokens start) ∧
      (¬IsNestingError (readFrom (readUnary deep) bytes tokens start) →
        readFrom (readUnary level) bytes tokens start =
          readFrom (readUnary deep) bytes tokens start) :=
  ⟨readFrom_eq_of_agrees (readFilter_deeper le (tokens.drop start)),
    readFrom_eq_of_agrees (readUnary_deeper le (tokens.drop start))⟩

/-- The tokens of a negated comparison in parentheses. -/
def negatedTokens : List Token :=
  [⟨.opening, 0⟩, ⟨.word "not", 1⟩, ⟨.word "x", 5⟩, ⟨.word "eq", 7⟩, ⟨.quoted "y", 10⟩,
    ⟨.closing, 13⟩]

/-- From the second token a negation is read, up to the parenthesis behind it; it takes the last
levels that there are, and it is the same at the first ones. -/
theorem readFrom_level_negated :
    0 ≤ 62 ∧ ¬IsNestingError (readFrom (readUnary 62) 14 negatedTokens 1) ∧
      readFrom (readUnary 0) 14 negatedTokens 1 =
        .ok (.not (.comparison ⟨"x", .eq, .string "y"⟩), 5) := by
  have operand : readComparison (negatedTokens.drop 2) =
      .ok (.comparison ⟨"x", .eq, .string "y"⟩, negatedTokens.drop 5) :=
    readComparison_eq_ok_iff.2
      ⟨_, _, _, "x", .eq, .string "y", rfl, by decide, by decide, rfl, rfl⟩
  have inner : readUnary 63 (negatedTokens.drop 2) = readComparison (negatedTokens.drop 2) :=
    readUnary_comparison (by decide) (by decide) (by decide)
  have reading : readUnary 62 (negatedTokens.drop 1) =
      .ok (.not (.comparison ⟨"x", .eq, .string "y"⟩), negatedTokens.drop 5) := by
    calc
      readUnary 62 (negatedTokens.drop 1) =
          (readUnary 63 (negatedTokens.drop 2)).map fun found => (.not found.1, found.2) :=
        readUnary_not (by decide) (by decide)
      _ = .ok (.not (.comparison ⟨"x", .eq, .string "y"⟩), negatedTokens.drop 5) := by
        rw [inner, operand]
        rfl
  have deepest : readFrom (readUnary 62) 14 negatedTokens 1 =
      .ok (.not (.comparison ⟨"x", .eq, .string "y"⟩), 5) := by
    apply (readFrom_eq_ok_iff ?_).2 ⟨by decide, reading⟩
    intro f rest read
    obtain ⟨used, split, -⟩ := unary_of_readUnary read
    exact ⟨used, split⟩
  have settled : ¬IsNestingError (readFrom (readUnary 62) 14 negatedTokens 1) := by
    rintro ⟨position, found, refused⟩
    rw [deepest] at refused
    cases refused
  have same := (readFrom_level (Nat.zero_le 62) 14 negatedTokens 1).2 settled
  exact ⟨Nat.zero_le 62, settled, same.trans deepest⟩

end RecordSearch.Filter
