import RecordSearch.Filter.Tree
import RecordSearch.Record

/-!
# Whether a filter holds of a record

The walk through a filter asks for the truth of one comparison after another, from left to right,
and no more of them than it needs. It does not depend on how a comparison is decided; the rules for
that are `Comparison.holdsOf`.
-/

namespace RecordSearch

/-- Which comparisons were asked for, in order, and what came of them. -/
structure Walk (ε : Type) where
  asked : List Comparison
  result : Except ε Bool

/-- The walk with comparisons asked before it. -/
def Walk.after {ε : Type} (asked : List Comparison) (walk : Walk ε) : Walk ε :=
  ⟨asked ++ walk.asked, walk.result⟩

namespace Filter

variable {ε : Type}

mutual

/-- `eval_filter_with` — the walk through a filter: `and` ends at the first child that does not
hold, `or` at the first one that does, and an error ends the whole walk. -/
def walk (decide : Comparison → Except ε Bool) : Filter → Walk ε
  | .comparison c => ⟨[c], decide c⟩
  | .and children => walkAnd decide children
  | .or children => walkOr decide children
  | .not operand =>
    let inner := walk decide operand
    ⟨inner.asked, inner.result.map (!·)⟩

/-- The walk through the children of an `and`. -/
def walkAnd (decide : Comparison → Except ε Bool) : List Filter → Walk ε
  | [] => ⟨[], .ok true⟩
  | child :: more =>
    let first := walk decide child
    match first.result with
    | .ok true => (walkAnd decide more).after first.asked
    | _ => first

/-- The walk through the children of an `or`. -/
def walkOr (decide : Comparison → Except ε Bool) : List Filter → Walk ε
  | [] => ⟨[], .ok false⟩
  | child :: more =>
    let first := walk decide child
    match first.result with
    | .ok false => (walkOr decide more).after first.asked
    | _ => first

end

end Filter

/-- `QueryError::Type` — an ordering operator met two strings. -/
structure TypeError where
  field : String
  operator : Operator
  deriving DecidableEq

namespace TypeError

/-- The message of a type error. -/
def message (e : TypeError) : String :=
  "type error: operator `" ++ e.operator.word ++ "` cannot order string values of field `" ++
    e.field ++ "`"

end TypeError

namespace Operator

/-- `matches_ordering` — whether the operator holds of operands in this order. -/
def holdsOfOrder : Operator → Ordering → Bool
  | eq, order => order == .eq
  | ne, order => order != .eq
  | gt, order => order == .gt
  | gte, order => order != .lt
  | lt, order => order == .lt
  | lte, order => order != .gt

/-- Whether the operator holds of operands that are only known to be equal or not. -/
def holdsOfEquality : Operator → Bool → Bool
  | eq, same => same
  | ne, same => !same
  | _, _ => false

end Operator

/-- `StrictComparator::compare` — whether a comparison holds of a record. Numbers are ordered;
strings, truth values and null are equal or not, and it is an error to order strings; where the
field is absent, holds an array or an object, or has another type than the literal, no comparison
holds. -/
def Comparison.holdsOf (record : Record) (c : Comparison) : Except TypeError Bool :=
  match record.get? c.field, c.literal with
  | some (.number actual), .number wanted =>
    .ok (c.operator.holdsOfOrder (actual.toDouble.compare wanted))
  | some (.string actual), .string wanted =>
    if c.operator.isOrdering then .error ⟨c.field, c.operator⟩
    else .ok (c.operator.holdsOfEquality (actual == wanted))
  | some (.bool actual), .bool wanted => .ok (c.operator.holdsOfEquality (actual == wanted))
  | some .null, .null => .ok (c.operator.holdsOfEquality true)
  | _, _ => .ok false

/-- `eval_filter` — whether a filter holds of a record. -/
def Filter.holdsOf (record : Record) (f : Filter) : Except TypeError Bool :=
  (f.walk fun c => c.holdsOf record).result

end RecordSearch
