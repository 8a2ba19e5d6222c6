import RecordSearch.Filter.Tree
import RecordSearch.Number.Numeral

/-!
# Filters as text

A filter is written so that it reads back as the same tree: operands that are themselves joined
stand in parentheses, strings in double quotes, numbers without an exponent.
-/

namespace RecordSearch

/-- Numbers in a filter are positional throughout, whole ones without a point; of two equally near
shortest decimals the larger one is written. -/
def Literal.numeralStyle : NumeralStyle where
  tie := .up
  positional := fun _ => true
  wholeMark := []

/-- One character of a string literal. -/
def Literal.stringChar (c : Char) : List Char :=
  if c = '"' then ['\\', '"']
  else if c = '\\' then ['\\', '\\']
  else if c = '\n' then ['\\', 'n']
  else if c = '\t' then ['\\', 't']
  else [c]

/-- `Literal::fmt` — the text of a literal. -/
def Literal.chars : Literal → List Char
  | number value => value.chars numeralStyle
  | string value => '"' :: value.toList.flatMap stringChar ++ ['"']
  | bool true => "true".toList
  | bool false => "false".toList
  | null => "null".toList

/-- `Comparison::fmt` — the text of a comparison: field, operator and literal. -/
def Comparison.chars (c : Comparison) : List Char :=
  c.field.toList ++ ' ' :: c.operator.word.toList ++ ' ' :: c.literal.chars

/-- The text of a comparison. -/
def Comparison.text (c : Comparison) : String := String.ofList c.chars

namespace Filter

/-- `Filter::fmt_operand` — the text of an operand: in parentheses if its node joins others. -/
def enclosed (operand : Filter) (text : List Char) : List Char :=
  match operand with
  | .and _ | .or _ => '(' :: text ++ [')']
  | _ => text

mutual

/-- `Filter::fmt` — the text of a filter, as characters. -/
def chars : Filter → List Char
  | .comparison c => c.chars
  | .and children => joinedChars " and ".toList children
  | .or children => joinedChars " or ".toList children
  | .not operand => "not ".toList ++ enclosed operand operand.chars

/-- The operands with a joiner between them. -/
def joinedChars (joiner : List Char) : List Filter → List Char
  | [] => []
  | child :: more => enclosed child child.chars ++ laterChars joiner more

/-- Each of the later operands after a joiner. -/
def laterChars (joiner : List Char) : List Filter → List Char
  | [] => []
  | child :: more => joiner ++ enclosed child child.chars ++ laterChars joiner more

end

/-- The text of a filter. -/
def text (f : Filter) : String := String.ofList f.chars

end Filter

end RecordSearch
