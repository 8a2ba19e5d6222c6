import RecordSearch.Number.Double

/-!
# JSON values

Objects keep their members in the order in which the keys first came; `put` replaces a value in
place. Integers of 64 bits stay integers; every other number is a double.
-/

namespace RecordSearch

namespace Json

/-- The least integer of 64 bits, `-2 ^ 63`. -/
def leastInteger : Int := -9223372036854775808

/-- The first integer beyond 64 bits, `2 ^ 64`. -/
def integerEnd : Int := 18446744073709551616

end Json

/-- A JSON number. -/
inductive Json.Number where
  /-- An integer that fits 64 bits, signed or unsigned. -/
  | integer (value : Int) (low : leastInteger ≤ value) (high : value < integerEnd)
  /-- Any other number. -/
  | double (value : Double)
  deriving DecidableEq

/-- A JSON value. -/
inductive Json where
  | null
  | bool (value : Bool)
  | number (value : Json.Number)
  | string (value : String)
  | array (items : List Json)
  | object (members : List (String × Json))

namespace Json

/-- The members of an object, in order. -/
abbrev Members := List (String × Json)

/-- The double nearest to a number. -/
def Number.toDouble : Number → Double
  | integer value low high => Double.ofInt value (by
    unfold leastInteger at low
    unfold integerEnd at high
    omega)
  | double value => value

/-- Whether the value is neither an array nor an object. -/
def isScalar : Json → Bool
  | array _ => false
  | object _ => false
  | _ => true

/-- The string that a value is. -/
def string? : Json → Option String
  | string value => some value
  | _ => none

/-- The members with one value set: in place where the key is there, else at the end. -/
def Members.put (key : String) (value : Json) : Members → Members
  | [] => [(key, value)]
  | (other, old) :: rest =>
    if other = key then (key, value) :: rest else (other, old) :: Members.put key value rest

/-- The value of a key. -/
def Members.get? : Members → String → Option Json
  | [], _ => none
  | (other, value) :: rest, key => if other = key then some value else Members.get? rest key

/-- The keys in order. -/
def Members.keys (members : Members) : List String := members.map Prod.fst

/-- A key reads as the value that was put last. -/
theorem Members.get?_put_self (key : String) (value : Json) (members : Members) :
    Members.get? (Members.put key value members) key = some value := by
  induction members with
  | nil => simp [put, get?]
  | cons member rest ih =>
    obtain ⟨other, old⟩ := member
    by_cases same : other = key <;> simp [put, get?, same, ih]

/-- Setting one key leaves the others as they were. -/
theorem Members.get?_put_of_ne {key wanted : String} (value : Json) (members : Members)
    (different : key ≠ wanted) :
    Members.get? (Members.put key value members) wanted = Members.get? members wanted := by
  induction members with
  | nil => simp [put, get?, different]
  | cons member rest ih =>
    obtain ⟨other, old⟩ := member
    by_cases same : other = key
    · subst same
      simp [put, get?, different]
    · simp [put, get?, same, ih]

/-- A key keeps the place where it came first. -/
theorem Members.keys_put (key : String) (value : Json) (members : Members) :
    Members.keys (Members.put key value members) =
      if key ∈ Members.keys members then Members.keys members
      else Members.keys members ++ [key] := by
  induction members with
  | nil => simp [put, keys]
  | cons member rest ih =>
    obtain ⟨other, old⟩ := member
    by_cases same : other = key
    · simp [put, same, keys]
    · by_cases later : key ∈ Members.keys rest <;>
        simp_all [put, keys, Ne.symm same]

end Json

end RecordSearch
