import RecordSearch.Number.Double
import RecordSearch.Text.Letters

/-!
# Filters

A filter is a tree of comparisons under `and`, `or` and `not`. The empty `and` holds of every
record.
-/

namespace RecordSearch

/-- `Operator` — how a comparison relates the value of a field to its literal. -/
inductive Operator where
  | eq | ne | gt | gte | lt | lte
  deriving DecidableEq

namespace Operator

/-- `Operator::ALL` — all operators in the order in which they are listed to clients. -/
def all : List Operator := [eq, ne, gt, gte, lt, lte]

/-- `Operator::as_str` — the operator as written. -/
def word : Operator → String
  | eq => "eq"
  | ne => "ne"
  | gt => "gt"
  | gte => "gte"
  | lt => "lt"
  | lte => "lte"

/-- Every spelling that is read; two operators have a short one as well. -/
def spellings : List (String × Operator) :=
  all.map (fun operator => (operator.word, operator)) ++ [("ge", gte), ("le", lte)]

/-- `Operator::from_keyword` — the operator that a word spells, in any letter case. -/
def ofWord? (word : String) : Option Operator :=
  (spellings.find? fun spelling => Text.sameLetters spelling.1 word).map Prod.snd

/-- `Operator::is_ordering` — whether the operator needs an order between its operands. -/
def isOrdering : Operator → Bool
  | eq | ne => false
  | _ => true

/-- Every operator reads back from its word. -/
theorem ofWord?_word (operator : Operator) : ofWord? operator.word = some operator := by
  cases operator <;> decide

end Operator

/-- `Literal` — what the value of a field is compared with. -/
inductive Literal where
  | number (value : Double)
  | string (value : String)
  | bool (value : Bool)
  | null
  deriving DecidableEq

/-- `Comparison` — one comparison. -/
structure Comparison where
  /-- The dotted path of the compared value. -/
  field : String
  operator : Operator
  literal : Literal
  deriving DecidableEq

/-- `Connective` — the two words that join filters. -/
inductive Connective where
  | and | or
  deriving DecidableEq

/-- `Filter` — a filter on records. -/
inductive Filter where
  | comparison (c : Comparison)
  | and (children : List Filter)
  | or (children : List Filter)
  | not (operand : Filter)

/-- `Connective::join` — the node of a connective. -/
def Connective.node : Connective → List Filter → Filter
  | and, children => .and children
  | or, children => .or children

namespace Filter

/-- `Filter::always` — the filter that holds of every record. -/
def always : Filter := .and []

/-- `Filter::is_always` — whether the filter is `always` as written. -/
def isAlways : Filter → Bool
  | .and [] => true
  | _ => false

mutual

/-- Whether two filters are equal; the reason is part of the answer. -/
def decideEq : (left right : Filter) → Decidable (left = right)
  | .comparison c, .comparison d =>
    if same : c = d then isTrue (congrArg comparison same)
    else isFalse fun h => same (by cases h; rfl)
  | .and children, .and others =>
    match decideEqChildren children others with
    | isTrue same => isTrue (congrArg and same)
    | isFalse differ => isFalse fun h => differ (by cases h; rfl)
  | .or children, .or others =>
    match decideEqChildren children others with
    | isTrue same => isTrue (congrArg or same)
    | isFalse differ => isFalse fun h => differ (by cases h; rfl)
  | .not operand, .not other =>
    match decideEq operand other with
    | isTrue same => isTrue (congrArg not same)
    | isFalse differ => isFalse fun h => differ (by cases h; rfl)
  | .comparison _, .and _ | .comparison _, .or _ | .comparison _, .not _ => isFalse (by simp)
  | .and _, .comparison _ | .and _, .or _ | .and _, .not _ => isFalse (by simp)
  | .or _, .comparison _ | .or _, .and _ | .or _, .not _ => isFalse (by simp)
  | .not _, .comparison _ | .not _, .and _ | .not _, .or _ => isFalse (by simp)

/-- Whether two lists of filters are equal. -/
def decideEqChildren : (left right : List Filter) → Decidable (left = right)
  | [], [] => isTrue rfl
  | [], _ :: _ => isFalse (by simp)
  | _ :: _, [] => isFalse (by simp)
  | child :: more, other :: others =>
    match decideEq child other, decideEqChildren more others with
    | isTrue sameChild, isTrue sameMore => isTrue (by rw [sameChild, sameMore])
    | isFalse differ, _ => isFalse fun h => differ (List.cons.inj h).1
    | _, isFalse differ => isFalse fun h => differ (List.cons.inj h).2

end

instance : DecidableEq Filter := decideEq

end Filter

end RecordSearch
