import RecordSearch.Text.Blank
import RecordSearch.Text.Printable

/-!
# Described strings

A string as a message shows it: in double quotes, on one line, with every character that would not
be seen on its own written as an escape.
-/

namespace RecordSearch.Text

/-- Whether the character is visible on its own. -/
def isShown (c : Char) : Bool :=
  !inRanges unprintableRanges c.toNat && !inRanges combiningRanges c.toNat

/-- The lower-case hexadecimal code point in braces. -/
def codePointEscape (c : Char) : List Char :=
  ['\\', 'u', '\x7b'] ++ Nat.toDigits 16 c.toNat ++ ['\x7d']

/-- One character of a described string. -/
def describedChar (c : Char) : List Char :=
  if c = '\x00' then ['\\', '0']
  else if c = '\t' then ['\\', 't']
  else if c = '\r' then ['\\', 'r']
  else if c = '\n' then ['\\', 'n']
  else if c = '"' then ['\\', '"']
  else if c = '\\' then ['\\', '\\']
  else if isShown c then [c]
  else codePointEscape c

/-- The string in double quotes. -/
def described (s : String) : String :=
  String.ofList ('"' :: s.toList.flatMap describedChar ++ ['"'])

end RecordSearch.Text
