/-!
# TOML values

The values of a TOML document as far as settings need them. A date or time is only known to be one,
and a float only by whether it has a finite value.
-/

namespace RecordSearch

/-- A TOML value. -/
inductive Toml where
  | string (value : String)
  | integer (value : Int)
  /-- A float; `inRange` unless its digits denote more than the largest double. -/
  | float (inRange : Bool)
  | bool (value : Bool)
  | datetime
  | array (items : List Toml)
  | table (entries : List (String × Toml))

namespace Toml

mutual

/-- Whether every number in the value can be read: integers in 128 bits, floats in range. -/
def isReadable : Toml → Bool
  | integer value =>
    -0x80000000000000000000000000000000 ≤ value && value < 0x100000000000000000000000000000000
  | float inRange => inRange
  | array items => areReadable items
  | table entries => areReadableEntries entries
  | _ => true

/-- Whether every number in the items can be read. -/
def areReadable : List Toml → Bool
  | [] => true
  | item :: more => item.isReadable && areReadable more

/-- Whether every number in the entries can be read. -/
def areReadableEntries : List (String × Toml) → Bool
  | [] => true
  | (_, value) :: more => value.isReadable && areReadableEntries more

end

/-- The text of a string. -/
def string? : Toml → Option String
  | string value => some value
  | _ => none

/-- The integer below a bound, if it is not negative. -/
def natural? (bound : Nat) : Toml → Option Nat
  | integer value => if 0 ≤ value ∧ value < bound then some value.toNat else none
  | _ => none

end Toml

end RecordSearch
