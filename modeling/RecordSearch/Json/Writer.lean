import RecordSearch.Json.Value
import RecordSearch.Number.Numeral

/-!
# Compact JSON text

A value is written without blanks. Strings escape the quote, the backslash and the control
characters below U+0020, and nothing else.
-/

namespace RecordSearch.Json

/-- Doubles are positional while the leading digit counts from `1e-5` up to `1e15`, a whole one ends
in `.0`, and of two equally near decimals the even one is written. -/
def numeralStyle : NumeralStyle where
  tie := .even
  positional := fun exponent => -5 ≤ exponent && exponent < 16
  wholeMark := ['.', '0']

/-- The text of a number. -/
def Number.chars : Number → List Char
  | integer value _ _ => (if value < 0 then ['-'] else []) ++ Nat.toDigits 10 value.natAbs
  | double value => value.chars numeralStyle

/-- Two lower-case hexadecimal digits. -/
def hexPair (n : Nat) : List Char := [Nat.digitChar (n / 16), Nat.digitChar (n % 16)]

/-- One character of a written string. -/
def stringChar (c : Char) : List Char :=
  if c = '"' then ['\\', '"']
  else if c = '\\' then ['\\', '\\']
  else if c = '\x08' then ['\\', 'b']
  else if c = '\t' then ['\\', 't']
  else if c = '\n' then ['\\', 'n']
  else if c = '\x0c' then ['\\', 'f']
  else if c = '\r' then ['\\', 'r']
  else if c.toNat < 0x20 then ['\\', 'u', '0', '0'] ++ hexPair c.toNat
  else [c]

/-- A string in quotes. -/
def stringChars (s : String) : List Char := '"' :: s.toList.flatMap stringChar ++ ['"']

mutual

/-- The text of a value, as characters. -/
def chars : Json → List Char
  | null => ['n', 'u', 'l', 'l']
  | bool true => ['t', 'r', 'u', 'e']
  | bool false => ['f', 'a', 'l', 's', 'e']
  | number value => value.chars
  | string value => stringChars value
  | array [] => ['[', ']']
  | array (item :: more) => '[' :: item.chars ++ moreItems more ++ [']']
  | object [] => ['\x7b', '\x7d']
  | object ((key, value) :: more) =>
    '\x7b' :: stringChars key ++ ':' :: value.chars ++ moreMembers more ++ ['\x7d']

/-- The items after the first one. -/
def moreItems : List Json → List Char
  | [] => []
  | item :: more => ',' :: item.chars ++ moreItems more

/-- The members after the first one. -/
def moreMembers : List (String × Json) → List Char
  | [] => []
  | (key, value) :: more => ',' :: stringChars key ++ ':' :: value.chars ++ moreMembers more

end

/-- The text of a value. -/
def text (value : Json) : String := String.ofList value.chars

end RecordSearch.Json
