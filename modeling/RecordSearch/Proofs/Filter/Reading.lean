import RecordSearch.Filter.Parser
import RecordSearch.Proofs.Results

/-!
# The readers, equation by equation

The readers of filters return what they read with the fact that fewer tokens are left. Here each is
a reading without that fact: a filter and the tokens after it, or a refusal. Every reader has one
equation for each way in which its tokens can start, and theorems about parsing rest on these
equations alone.
-/

namespace RecordSearch.Filter

/-- What a reader comes to: a filter and the tokens after it, or why there is none. -/
abbrev Reading := Except Refusal (Filter × List Token)

/-- What was read, without the bound on what is left. -/
def Parsed.unbounded {bound : Nat} (parsed : Parsed bound) : Filter × List Token :=
  (parsed.tree, parsed.rest)

/-- The reading of a comparison. -/
def readComparison (tokens : List Token) : Reading := (comparisonAt tokens).map Parsed.unbounded

/-- The reading of a unary filter. -/
def readUnary (depth : Nat) (tokens : List Token) : Reading :=
  (unaryAt depth tokens).map Parsed.unbounded

/-- The reading of a filter. -/
def readFilter (depth : Nat) (tokens : List Token) : Reading :=
  (filterAt depth tokens).map Parsed.unbounded

/-- The reading of the operands after those read so far. -/
def readOperands (level : Nat) (operands : Operands) (tokens : List Token) : Reading :=
  (operandsAt level operands tokens).map Parsed.unbounded

/-- The end of a group: a closing parenthesis has to come after its filter. -/
def closeGroup (inner : Filter) : List Token → Reading
  | [] => .error ⟨.closingOrConnective, []⟩
  | next :: after =>
    if next.lexeme = .closing then .ok (inner, after)
    else .error ⟨.closingOrConnective, next :: after⟩

/-- The level of an operand: a connective other than the one before it takes a level. -/
def levelAfter (last : Option Connective) (connective : Connective) (level : Nat) : Nat :=
  if last = some connective then level else level + 1

/-- A reading of at most as many tokens leaves fewer. -/
theorem length_of_unbounded {bound : Nat} {result : Except Refusal (Parsed bound)} {f : Filter}
    {rest : List Token} (read : result.map Parsed.unbounded = .ok (f, rest)) :
    rest.length < bound := by
  obtain ⟨parsed, -, same⟩ := map_eq_ok_iff.1 read
  cases same
  exact parsed.fewer

/-- A unary filter takes at least one token. -/
theorem length_of_readUnary {depth : Nat} {tokens rest : List Token} {f : Filter}
    (read : readUnary depth tokens = .ok (f, rest)) : rest.length < tokens.length :=
  length_of_unbounded read

/-- A comparison is a field, an operator and a literal. -/
theorem readComparison_eq (tokens : List Token) :
    readComparison tokens =
      match tokens.head?.bind Token.field? with
      | none => .error ⟨.fieldName, tokens⟩
      | some field =>
        match (tokens.drop 1).head?.bind Token.operator? with
        | none => .error ⟨.operator, tokens.drop 1⟩
        | some operator =>
          match (tokens.drop 2).head?.bind Token.literal? with
          | none => .error ⟨.literal, tokens.drop 2⟩
          | some literal => .ok (.comparison ⟨field, operator, literal⟩, tokens.drop 3) := by
  unfold readComparison comparisonAt
  split
  · next named => simp only [named, Except.map]
  · next field named =>
    simp only [named]
    cases (tokens.drop 1).head?.bind Token.operator? with
    | none => rfl
    | some operator =>
      cases (tokens.drop 2).head?.bind Token.literal? with
      | none => rfl
      | some literal => rfl

/-- A comparison is read exactly from three tokens that are a field, an operator and a literal. -/
theorem readComparison_eq_ok_iff {tokens rest : List Token} {f : Filter} :
    readComparison tokens = .ok (f, rest) ↔
      ∃ first second third name operator literal,
        tokens = first :: second :: third :: rest ∧ Token.field? first = some name ∧
          Token.operator? second = some operator ∧ Token.literal? third = some literal ∧
          f = .comparison ⟨name, operator, literal⟩ := by
  rw [readComparison_eq]
  constructor
  · intro read
    split at read
    · cases read
    · next name named =>
      split at read
      · cases read
      · next operator spelled =>
        split at read
        · cases read
        · next literal denoted =>
          obtain ⟨first, startsWith, isField⟩ := Option.bind_eq_some_iff.1 named
          obtain ⟨second, goesOn, isOperator⟩ := Option.bind_eq_some_iff.1 spelled
          obtain ⟨third, ends, isLiteral⟩ := Option.bind_eq_some_iff.1 denoted
          match tokens with
          | [] | [_] | [_, _] => simp at startsWith goesOn ends
          | _ :: _ :: _ :: _ =>
            cases startsWith
            cases goesOn
            cases ends
            cases read
            exact ⟨_, _, _, _, _, _, rfl, isField, isOperator, isLiteral, rfl⟩
  · rintro ⟨first, second, third, name, operator, literal, rfl, isField, isOperator, isLiteral, rfl⟩
    simp [isField, isOperator, isLiteral]

section Unary

variable {depth : Nat} {token : Token} {rest : List Token}

/-- Nothing is read below the deepest level. -/
theorem readUnary_deep (deep : maxDepth ≤ depth) (tokens : List Token) :
    readUnary depth tokens = .error ⟨.shallower, tokens⟩ := by
  unfold readUnary unaryAt
  rw [if_pos deep]
  rfl

/-- A unary filter cannot be empty. -/
theorem readUnary_nil (shallow : depth < maxDepth) :
    readUnary depth [] = .error ⟨.fieldName, []⟩ := by
  unfold readUnary unaryAt
  rw [if_neg (Nat.not_le.2 shallow)]
  rfl

/-- `not` takes a level and a unary filter. -/
theorem readUnary_not (shallow : depth < maxDepth) (isNot : token.keyword? = some .not) :
    readUnary depth (token :: rest) =
      (readUnary (depth + 1) rest).map fun found => (.not found.1, found.2) := by
  unfold readUnary
  rw [unaryAt.eq_def]
  simp only [if_neg (Nat.not_le.2 shallow), if_pos isNot]
  cases unaryAt (depth + 1) rest with
  | error refusal => rfl
  | ok operand => rfl

/-- A parenthesis takes a level, a filter and the closing parenthesis. -/
theorem readUnary_opening (shallow : depth < maxDepth) (opening : token.lexeme = .opening) :
    readUnary depth (token :: rest) =
      (readFilter (depth + 1) rest).bind fun found => closeGroup found.1 found.2 := by
  have notKeyword : token.keyword? ≠ some .not := by simp [Token.keyword?, opening]
  unfold readUnary readFilter
  rw [unaryAt.eq_def]
  simp only [if_neg (Nat.not_le.2 shallow), if_neg notKeyword, if_pos opening]
  cases filterAt (depth + 1) rest with
  | error refusal => rfl
  | ok inner =>
    obtain ⟨tree, left, fewer⟩ := inner
    cases left with
    | nil => rfl
    | cons next after =>
      by_cases closing : next.lexeme = .closing
      · simp [closing, closeGroup, bind, Except.bind, Except.map, Parsed.unbounded, pure,
          Except.pure]
      · simp [closing, closeGroup, bind, Except.bind, Except.map, Parsed.unbounded]

/-- Anything else that starts a unary filter starts a comparison. -/
theorem readUnary_comparison (shallow : depth < maxDepth) (notKeyword : token.keyword? ≠ some .not)
    (notOpening : token.lexeme ≠ .opening) :
    readUnary depth (token :: rest) = readComparison (token :: rest) := by
  unfold readUnary readComparison
  rw [unaryAt.eq_def]
  simp only [if_neg (Nat.not_le.2 shallow), if_neg notKeyword, if_neg notOpening]

end Unary

/-- A filter is a unary filter and the operands after it. -/
theorem readFilter_eq (depth : Nat) (tokens : List Token) :
    readFilter depth tokens =
      (readUnary depth tokens).bind fun first => readOperands depth (.single first.1) first.2 := by
  unfold readFilter readUnary readOperands
  rw [filterAt.eq_def]
  cases unaryAt depth tokens with
  | error refusal => rfl
  | ok first =>
    simp only [bind, Except.bind, Except.map, Parsed.unbounded]
    cases operandsAt depth (.single first.tree) first.rest with
    | error refusal => rfl
    | ok all => rfl

section Operands

variable {level : Nat} {operands : Operands} {token : Token} {rest : List Token}

/-- The operands end with the tokens. -/
theorem readOperands_nil : readOperands level operands [] = .ok (operands.tree, []) := by
  unfold readOperands
  rw [operandsAt.eq_def]
  rfl

/-- The operands end before a token that is no connective. -/
theorem readOperands_stop (ended : token.connective? = none) :
    readOperands level operands (token :: rest) = .ok (operands.tree, token :: rest) := by
  unfold readOperands
  rw [operandsAt.eq_def]
  simp only [ended, Except.map, Parsed.unbounded]

/-- A connective that would take a level too many is refused. -/
theorem readOperands_deep {connective : Connective} (joins : token.connective? = some connective)
    (deep : maxDepth ≤ levelAfter operands.connective? connective level) :
    readOperands level operands (token :: rest) = .error ⟨.shallower, token :: rest⟩ := by
  unfold readOperands
  unfold levelAfter at deep
  rw [operandsAt.eq_def]
  simp only [joins, if_pos deep, Except.map]

/-- A connective is followed by a unary filter, which joins the operands before it. -/
theorem readOperands_join {connective : Connective} (joins : token.connective? = some connective)
    (shallow : levelAfter operands.connective? connective level < maxDepth) :
    readOperands level operands (token :: rest) =
      (readUnary (levelAfter operands.connective? connective level) rest).bind fun operand =>
        readOperands (levelAfter operands.connective? connective level)
          (operands.join connective operand.1) operand.2 := by
  unfold readOperands readUnary
  unfold levelAfter at shallow ⊢
  rw [operandsAt.eq_def]
  simp only [joins, if_neg (Nat.not_le.2 shallow)]
  cases unaryAt (if operands.connective? = some connective then level else level + 1) rest with
  | error refusal => rfl
  | ok operand =>
    simp only [bind, Except.bind, Except.map, Parsed.unbounded]
    cases operandsAt (if operands.connective? = some connective then level else level + 1)
      (operands.join connective operand.tree) operand.rest with
    | error refusal => rfl
    | ok all => rfl

end Operands

/-- The tokens of a filter are read from the first level and used up. -/
theorem ofTokens_eq (tokens : List Token) :
    ofTokens tokens =
      if tokens = [] then .ok always
      else (readFilter 0 tokens).bind fun all =>
        if all.2 = [] then .ok all.1 else .error ⟨.connectiveOrEnd, all.2⟩ := by
  unfold ofTokens readFilter
  by_cases none : tokens = []
  · rw [if_pos none, if_pos none]
  · rw [if_neg none, if_neg none]
    cases filterAt 0 tokens with
    | error refusal => rfl
    | ok all => rfl

end RecordSearch.Filter
