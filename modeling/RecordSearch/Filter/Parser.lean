import RecordSearch.Filter.Lexer
import RecordSearch.Filter.Word

/-!
# From tokens to a filter

A unary filter is `not` and a unary filter, a filter in parentheses, or a comparison. A filter is
unary filters joined by `and` and `or`, which bind alike and group to the left; a run of one
connective is one node. Parentheses, `not` and every change of connective take a level, and there
are `maxDepth` levels.

Every reader returns the tokens after what it read with the fact that they are fewer, which is why
the recursion ends.
-/

namespace RecordSearch.Filter

/-- Why tokens are refused: what was expected in front of the remaining ones. -/
structure Refusal where
  expected : Expected
  rest : List Token
  deriving DecidableEq

/-- A filter and the tokens after it, fewer than `bound`. -/
structure Parsed (bound : Nat) where
  tree : Filter
  rest : List Token
  fewer : rest.length < bound

namespace Token

/-- The keyword that the token is. -/
def keyword? (token : Token) : Option Keyword :=
  match token.lexeme with
  | .word text => Filter.keyword? text
  | _ => none

/-- `peek_connective` — the connective that the token is. -/
def connective? (token : Token) : Option Connective := token.keyword?.bind Keyword.connective?

/-- The field that the token names. -/
def field? (token : Token) : Option String :=
  match token.lexeme with
  | .word text => if isFieldName text ∧ Filter.keyword? text = none then some text else none
  | _ => none

/-- The operator that the token spells. -/
def operator? (token : Token) : Option Operator :=
  match token.lexeme with
  | .word text => Operator.ofWord? text
  | _ => none

/-- `parse_literal` — the literal that the token denotes. -/
def literal? (token : Token) : Option Literal :=
  match token.lexeme with
  | .quoted text => some (.string text)
  | .word text => if Filter.keyword? text = none then some (wordLiteral text) else none
  | _ => none

end Token

/-- The operands read so far at one level. -/
inductive Operands where
  | single (operand : Filter)
  /-- A run of one connective, which more operands can join. -/
  | run (connective : Connective) (children : Array Filter)

namespace Operands

/-- The connective of the run. -/
def connective? : Operands → Option Connective
  | single _ => none
  | run connective _ => some connective

/-- The filter that the operands form. -/
def tree : Operands → Filter
  | single operand => operand
  | run connective children => connective.node children.toList

/-- One more operand: it joins a run of its connective and starts a new run otherwise. -/
def join (connective : Connective) (operand : Filter) : Operands → Operands
  | single first => run connective #[first, operand]
  | run own children =>
    if own = connective then run own (children.push operand)
    else run connective #[own.node children.toList, operand]

end Operands

/-- `parse_comparison` — a comparison: field, operator and literal. -/
def comparisonAt (tokens : List Token) : Except Refusal (Parsed tokens.length) :=
  match named : tokens.head?.bind Token.field? with
  | none => .error ⟨.fieldName, tokens⟩
  | some field =>
    match (tokens.drop 1).head?.bind Token.operator? with
    | none => .error ⟨.operator, tokens.drop 1⟩
    | some operator =>
      match (tokens.drop 2).head?.bind Token.literal? with
      | none => .error ⟨.literal, tokens.drop 2⟩
      | some literal =>
        .ok ⟨.comparison ⟨field, operator, literal⟩, tokens.drop 3, by
          cases tokens with
          | nil => simp at named
          | cons _ _ => simp only [List.length_drop, List.length_cons]; omega⟩

mutual

/-- `parse_unary` — a unary filter at a level. -/
def unaryAt (depth : Nat) (tokens : List Token) : Except Refusal (Parsed tokens.length) :=
  if maxDepth ≤ depth then .error ⟨.shallower, tokens⟩
  else
    match tokens with
    | [] => comparisonAt []
    | token :: rest =>
      if token.keyword? = some .not then do
        let operand ← unaryAt (depth + 1) rest
        return ⟨.not operand.tree, operand.rest, Nat.lt_succ_of_lt operand.fewer⟩
      else if token.lexeme = .opening then do
        let inner ← filterAt (depth + 1) rest
        match found : inner.rest with
        | [] => .error ⟨.closingOrConnective, []⟩
        | next :: after =>
          if next.lexeme = .closing then
            return ⟨inner.tree, after, by
              have fewer := inner.fewer
              simp only [found, List.length_cons] at fewer ⊢
              omega⟩
          else .error ⟨.closingOrConnective, next :: after⟩
      else comparisonAt (token :: rest)
termination_by (tokens.length, 0)

/-- `parse_expr` — a filter whose first operand is at a level. -/
def filterAt (depth : Nat) (tokens : List Token) : Except Refusal (Parsed tokens.length) := do
  let first ← unaryAt depth tokens
  have := first.fewer
  let all ← operandsAt depth (.single first.tree) first.rest
  return ⟨all.tree, all.rest, Nat.lt_of_lt_of_le all.fewer first.fewer⟩
termination_by (tokens.length, 1)

/-- The loop of `parse_expr`: the operands after those read so far. A connective other than that of
the run takes a level. -/
def operandsAt (level : Nat) (operands : Operands) (tokens : List Token) :
    Except Refusal (Parsed (tokens.length + 1)) :=
  match tokens with
  | [] => .ok ⟨operands.tree, [], by simp⟩
  | token :: rest =>
    match token.connective? with
    | none => .ok ⟨operands.tree, token :: rest, Nat.lt_succ_self _⟩
    | some connective =>
      let next := if operands.connective? = some connective then level else level + 1
      if maxDepth ≤ next then .error ⟨.shallower, token :: rest⟩
      else do
        let operand ← unaryAt next rest
        have := operand.fewer
        let all ← operandsAt next (operands.join connective operand.tree) operand.rest
        return ⟨all.tree, all.rest, by
          have fewer := all.fewer
          have := operand.fewer
          simp only [List.length_cons]
          omega⟩
termination_by (tokens.length, 0)

end

/-- The filter that all the tokens form; no tokens form the filter that always holds. -/
def ofTokens (tokens : List Token) : Except Refusal Filter :=
  if tokens = [] then .ok always
  else do
    let all ← filterAt 0 tokens
    if all.rest = [] then return all.tree
    else .error ⟨.connectiveOrEnd, all.rest⟩

/-- `unexpected` — the place of a refusal in a text of so many bytes: its first remaining token, or
the end. -/
def Refusal.syntaxError (bytes : Nat) (refusal : Refusal) : SyntaxError :=
  match refusal.rest with
  | [] => ⟨bytes, refusal.expected, .endOfInput⟩
  | token :: _ => ⟨token.position, refusal.expected, .lexeme token.lexeme⟩

/-- `parse_filter` — the filter that a text denotes, or its first syntax error. -/
def parse (text : String) : Except SyntaxError Filter := do
  let tokens ← tokenize text
  (ofTokens tokens).mapError (Refusal.syntaxError (Text.byteCount text.toList))

end RecordSearch.Filter
