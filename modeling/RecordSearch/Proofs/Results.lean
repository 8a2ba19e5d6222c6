/-!
# Results of steps that can fail

When a result that was changed, or that two steps come to, is a value.
-/

namespace RecordSearch

variable {ε ε' α β : Type}

/-- A mapped result is a value exactly when the result is one. -/
theorem map_eq_ok_iff {result : Except ε α} {f : α → β} {value : β} :
    result.map f = .ok value ↔ ∃ found, result = .ok found ∧ f found = value := by
  cases result with
  | error refused => simp [Except.map]
  | ok found => simp [Except.map]

/-- Two steps come to a value exactly when the first does and the second does after it. -/
theorem bind_eq_ok_iff {result : Except ε α} {next : α → Except ε β} {value : β} :
    result.bind next = .ok value ↔ ∃ found, result = .ok found ∧ next found = .ok value := by
  cases result with
  | error refused => simp [Except.bind]
  | ok found => simp [Except.bind]

/-- A result with its error replaced is a value exactly when the result is that value. -/
theorem mapError_eq_ok_iff {result : Except ε α} {f : ε → ε'} {value : α} :
    result.mapError f = .ok value ↔ result = .ok value := by
  cases result with
  | error refused =>
    constructor
    · intro same; cases same
    · intro same; cases same
  | ok found =>
    constructor
    · intro same; cases same; rfl
    · intro same; cases same; rfl

end RecordSearch
