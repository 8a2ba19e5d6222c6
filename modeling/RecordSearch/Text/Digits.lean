/-!
# Digits

The values of digits in bases up to sixteen, and the sign in front of a number.
-/

namespace RecordSearch.Text

/-- The value of a hexadecimal digit, in either letter case. -/
def hexDigit? (c : Char) : Option Nat :=
  if c.isDigit then some (c.toNat - '0'.toNat)
  else if 'a' ≤ c ∧ c ≤ 'f' then some (c.toNat - 'a'.toNat + 10)
  else if 'A' ≤ c ∧ c ≤ 'F' then some (c.toNat - 'A'.toNat + 10)
  else none

/-- Whether a character is a hexadecimal digit. -/
def isHexDigit (c : Char) : Bool := (hexDigit? c).isSome

/-- The value of digits in a base, most significant first. -/
def digitsValue (base : Nat) (ds : List Nat) : Nat :=
  ds.foldl (fun value d => value * base + d) 0

/-- The value of digits as written; characters other than digits count as zero. -/
def numeralValue (base : Nat) (cs : List Char) : Nat :=
  digitsValue base (cs.map fun c => (hexDigit? c).getD 0)

/-- Whether a minus stands at the start of a text, and the text after its sign. -/
def signed : List Char → Bool × List Char
  | '-' :: rest => (true, rest)
  | '+' :: rest => (false, rest)
  | text => (false, text)

/-- A number with the sign read before it. -/
def withSign (negative : Bool) (value : Nat) : Int := if negative then -value else value

end RecordSearch.Text
