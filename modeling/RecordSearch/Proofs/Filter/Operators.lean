import RecordSearch.Attributes
import RecordSearch.Filter.Evaluation
import RecordSearch.Proofs.Number.Order
import Mathlib.Logic.ExistsUnique

/-!
# How the operators go together

For two numbers the six operators are those of one order, the order of the exact values. For two
texts, two truth values and two nulls `eq` and `ne` are equality and its negation; the ordering
operators are errors for texts and hold of nothing else. Where the field has no scalar of the
literal's type no operator holds, not even `ne`, so that this is the only case in which `ne` is not
the negation of `eq`.
-/

namespace RecordSearch

/-- Exactly one of `lt`, `eq` and `gt` holds, and the other operators are their negations. -/
structure Operator.IsOrder (holds : Operator → Bool) : Prop where
  exactlyOne : ∃! operator, operator ∈ [Operator.lt, .eq, .gt] ∧ holds operator = true
  ne : holds .ne = !holds .eq
  gte : holds .gte = !holds .lt
  lte : holds .lte = !holds .gt

/-- Operators that are decided by an order of their operands go together. -/
theorem Operator.isOrder_holdsOfOrder (order : Ordering) :
    IsOrder fun operator => operator.holdsOfOrder order := by
  refine ⟨?_, rfl, rfl, rfl⟩
  cases order with
  | lt => exact ⟨.lt, by decide, by rintro (_ | _) <;> decide⟩
  | eq => exact ⟨.eq, by decide, by rintro (_ | _) <;> decide⟩
  | gt => exact ⟨.gt, by decide, by rintro (_ | _) <;> decide⟩

/-- Nothing that is only equal or not is in order. -/
theorem Operator.holdsOfEquality_of_isOrdering {operator : Operator}
    (ordering : operator.isOrdering = true) (same : Bool) :
    operator.holdsOfEquality same = false := by
  cases operator with
  | eq | ne => cases ordering
  | gt | gte | lt | lte => rfl

/-- The type of a literal. -/
def Literal.dataType : Literal → DataType
  | number _ => .number
  | string _ => .string
  | bool _ => .boolean
  | null => .null

namespace Comparison

variable (record : Record) (field : String) (literal : Literal)

/-- What the comparison of a field with a literal comes to under each operator. -/
def outcome (operator : Operator) : Except TypeError Bool :=
  holdsOf record ⟨field, operator, literal⟩

/-- The field leads to a scalar of the literal's type. -/
def SameType : Prop :=
  ∃ value, record.get? field = some value ∧ value.isScalar = true ∧
    DataType.ofJson value = literal.dataType

variable {record field literal}

/-- Two numbers are compared by their exact values. -/
theorem outcome_numbers {actual : Json.Number} {wanted : Double}
    (found : record.get? field = some (.number actual)) (operator : Operator) :
    outcome record field (.number wanted) operator = .ok (operator.holdsOfOrder
      (compare actual.toDouble.signedUnits wanted.signedUnits)) := by
  rw [← Double.compare_eq_compare_signedUnits, outcome, holdsOf, found]

/-- Two texts are equal or not, and cannot be ordered. -/
theorem outcome_strings {actual wanted : String}
    (found : record.get? field = some (.string actual)) (operator : Operator) :
    outcome record field (.string wanted) operator =
      if operator.isOrdering then .error ⟨field, operator⟩
      else .ok (operator.holdsOfEquality (actual == wanted)) := by
  rw [outcome, holdsOf, found]

/-- Two truth values are equal or not. -/
theorem outcome_bools {actual wanted : Bool}
    (found : record.get? field = some (.bool actual)) (operator : Operator) :
    outcome record field (.bool wanted) operator =
      .ok (operator.holdsOfEquality (actual == wanted)) := by
  rw [outcome, holdsOf, found]

/-- Two nulls are equal. -/
theorem outcome_nulls (found : record.get? field = some .null) (operator : Operator) :
    outcome record field .null operator = .ok (operator.holdsOfEquality true) := by
  rw [outcome, holdsOf, found]

/-- No operator holds where the field has no scalar of the literal's type. -/
theorem outcome_of_not_sameType (differ : ¬SameType record field literal) (operator : Operator) :
    outcome record field literal operator = .ok false := by
  unfold outcome holdsOf
  split
  case h_1 found denoted | h_2 found denoted | h_3 found denoted | h_4 found denoted =>
    exact absurd ⟨_, found, rfl, congrArg Literal.dataType denoted.symm⟩ differ
  case h_5 => rfl

/-- Where the field has a scalar of the literal's type, `ne` is the negation of `eq`. -/
theorem outcome_ne_of_sameType (same : SameType record field literal) :
    outcome record field literal .ne = (outcome record field literal .eq).map (!·) := by
  obtain ⟨value, found, isScalar, sameType⟩ := same
  cases value with
  | object members => cases isScalar
  | array items => cases isScalar
  | number actual =>
    cases literal with
    | number wanted =>
      rw [outcome_numbers found, outcome_numbers found]
      rfl
    | string _ | bool _ | null => cases sameType
  | string actual =>
    cases literal with
    | string wanted =>
      rw [outcome_strings found, outcome_strings found]
      rfl
    | number _ | bool _ | null => cases sameType
  | bool actual =>
    cases literal with
    | bool wanted =>
      rw [outcome_bools found, outcome_bools found]
      rfl
    | number _ | string _ | null => cases sameType
  | null =>
    cases literal with
    | null =>
      rw [outcome_nulls found, outcome_nulls found]
      rfl
    | number _ | string _ | bool _ => cases sameType

variable (record field literal)

/-- What the six operators come to for the value under a field and a literal. -/
structure Coherent : Prop where
  /-- Numbers are in the order of their exact values. -/
  numbers : ∀ actual wanted, record.get? field = some (.number actual) →
    literal = .number wanted →
      ∃ holds, (∀ operator, outcome record field literal operator = .ok (holds operator)) ∧
        Operator.IsOrder holds ∧
        (holds .lt = true ↔ actual.toDouble.signedUnits < wanted.signedUnits) ∧
        (holds .eq = true ↔ actual.toDouble.signedUnits = wanted.signedUnits)
  /-- Texts are equal or not, and it is an error to order them. -/
  strings : ∀ actual wanted, record.get? field = some (.string actual) →
    literal = .string wanted →
      outcome record field literal .eq = .ok (decide (actual = wanted)) ∧
        outcome record field literal .ne = .ok (!decide (actual = wanted)) ∧
        ∀ operator, operator.isOrdering = true →
          outcome record field literal operator = .error ⟨field, operator⟩
  /-- Truth values are equal or not, and have no order. -/
  bools : ∀ actual wanted, record.get? field = some (.bool actual) → literal = .bool wanted →
      outcome record field literal .eq = .ok (decide (actual = wanted)) ∧
        outcome record field literal .ne = .ok (!decide (actual = wanted)) ∧
        ∀ operator, operator.isOrdering = true → outcome record field literal operator = .ok false
  /-- Nulls are equal, and have no order. -/
  nulls : record.get? field = some .null → literal = .null →
      outcome record field literal .eq = .ok true ∧ outcome record field literal .ne = .ok false ∧
        ∀ operator, operator.isOrdering = true → outcome record field literal operator = .ok false
  /-- In every other case no operator holds. -/
  others : ¬SameType record field literal →
    ∀ operator, outcome record field literal operator = .ok false
  /-- Only in the other cases `ne` is not the negation of `eq`. -/
  negation : outcome record field literal .ne = (outcome record field literal .eq).map (!·) ↔
    SameType record field literal

/-- The six operators go together, whatever the record, the field and the literal are. -/
theorem operators_coherent : Coherent record field literal where
  numbers := by
    rintro actual wanted found rfl
    refine ⟨_, outcome_numbers found, Operator.isOrder_holdsOfOrder _, ?_, ?_⟩
    · exact beq_iff_eq.trans Int.compare_eq_lt
    · exact beq_iff_eq.trans Int.compare_eq_eq
  strings := by
    rintro actual wanted found rfl
    refine ⟨outcome_strings found .eq, outcome_strings found .ne, ?_⟩
    intro operator ordering
    rw [outcome_strings found, if_pos ordering]
  bools := by
    rintro actual wanted found rfl
    refine ⟨outcome_bools found .eq, outcome_bools found .ne, ?_⟩
    intro operator ordering
    rw [outcome_bools found, Operator.holdsOfEquality_of_isOrdering ordering]
  nulls := by
    rintro found rfl
    refine ⟨outcome_nulls found .eq, outcome_nulls found .ne, ?_⟩
    intro operator ordering
    rw [outcome_nulls found, Operator.holdsOfEquality_of_isOrdering ordering]
  others := outcome_of_not_sameType
  negation := by
    refine ⟨fun negated => ?_, outcome_ne_of_sameType⟩
    by_cases same : SameType record field literal
    · exact same
    · rw [outcome_of_not_sameType same, outcome_of_not_sameType same] at negated
      cases negated

end Comparison

end RecordSearch
