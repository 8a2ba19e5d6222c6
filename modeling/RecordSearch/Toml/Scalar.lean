import RecordSearch.Number.Decimal
import RecordSearch.Text.Digits
import RecordSearch.Toml.Value

/-!
# TOML scalars

A scalar without quotes is a truth value, a number, or a date or time; `ofChars?` reads one from its
characters.
-/

namespace RecordSearch.Toml

open RecordSearch.Text (isHexDigit numeralValue signed withSign)

/-- The digits with single underscores between them taken out; a digit stands at both ends. -/
def digitRun? (isDigit : Char → Bool) : List Char → Option (List Char)
  | [] => none
  | [c] => if isDigit c then some [c] else none
  | c :: '_' :: rest => if isDigit c then (digitRun? isDigit rest).map (c :: ·) else none
  | c :: rest => if isDigit c then (digitRun? isDigit rest).map (c :: ·) else none

/-- The digits of a decimal number without leading zeros. -/
def wholeDigits? (cs : List Char) : Option (List Char) :=
  match digitRun? Char.isDigit cs with
  | some ('0' :: _ :: _) => none
  | found => found

/-- An integer: decimal with an optional sign, or in base 16, 8 or 2. -/
def integer? : List Char → Option Int
  | '0' :: 'x' :: rest => (digitRun? isHexDigit rest).map fun ds => numeralValue 16 ds
  | '0' :: 'o' :: rest =>
    (digitRun? (fun c => '0' ≤ c && c ≤ '7') rest).map fun ds => numeralValue 8 ds
  | '0' :: 'b' :: rest =>
    (digitRun? (fun c => c == '0' || c == '1') rest).map fun ds => numeralValue 2 ds
  | cs =>
    let (negative, unsigned) := signed cs
    (wholeDigits? unsigned).map fun ds =>
      withSign negative (numeralValue 10 ds)

/-- The part of a list before the first element of a kind, and the part from there on. -/
def cut (p : Char → Bool) (cs : List Char) : List Char × List Char :=
  (cs.takeWhile (!p ·), cs.dropWhile (!p ·))

/-- The exponent at the end of a float: none, or a letter, a sign and digits. -/
def exponent? : List Char → Option Int
  | [] => some 0
  | _ :: rest =>
    let (negative, unsigned) := signed rest
    (digitRun? Char.isDigit unsigned).map fun ds =>
      withSign negative (numeralValue 10 ds)

/-- The digits after the point of a float; without a point there are none. -/
def decimals? : List Char → Option (List Char)
  | [] => some []
  | _ :: rest => digitRun? Char.isDigit rest

/-- Whether the characters are a float, and if so whether it is in range. -/
def float? (cs : List Char) : Option Bool := do
  let (_, unsigned) := signed cs
  if unsigned = "inf".toList ∨ unsigned = "nan".toList then return true
  let (mantissa, exponent) := cut (fun c => c == 'e' || c == 'E') unsigned
  let (whole, fraction) := cut (· == '.') mantissa
  if exponent = [] ∧ fraction = [] then none
  let whole ← wholeDigits? whole
  let decimals ← decimals? fraction
  let power ← exponent? exponent
  return (Decimal.nearest? false
    ⟨numeralValue 10 (whole ++ decimals), power - decimals.length⟩).isSome

section DatesAndTimes

/-- The value of exactly `count` decimal digits. -/
def field? (count : Nat) (cs : List Char) : Option Nat :=
  if cs.length = count ∧ cs.all Char.isDigit then some (numeralValue 10 cs) else none

/-- The number of days of a month. -/
def daysIn (year month : Nat) : Nat :=
  if month = 2 then
    if year % 4 = 0 ∧ (year % 100 ≠ 0 ∨ year % 400 = 0) then 29 else 28
  else if month = 4 ∨ month = 6 ∨ month = 9 ∨ month = 11 then 30
  else 31

/-- Whether the characters are a date: year, month and day. -/
def isDate (cs : List Char) : Bool :=
  match field? 4 (cs.take 4), field? 2 ((cs.drop 5).take 2), field? 2 (cs.drop 8) with
  | some year, some month, some day =>
    cs[4]? == some '-' && cs[7]? == some '-' && 1 ≤ month && month ≤ 12 && 1 ≤ day &&
      day ≤ daysIn year month
  | _, _, _ => false

/-- Whether the characters are an hour and a minute. -/
def isHourMinute (cs : List Char) : Bool :=
  match field? 2 (cs.take 2), field? 2 (cs.drop 3) with
  | some hour, some minute => cs[2]? == some ':' && hour ≤ 23 && minute ≤ 59
  | _, _ => false

/-- Whether the characters are seconds after a colon, with an optional fraction. -/
def areSeconds : List Char → Bool
  | [] => true
  | ':' :: rest =>
    match field? 2 (rest.take 2), rest.drop 2 with
    | some second, [] => second ≤ 60
    | some second, '.' :: fraction =>
      second ≤ 60 && !fraction.isEmpty && fraction.all Char.isDigit
    | _, _ => false
  | _ => false

/-- Whether the characters are a time of day. -/
def isTime (cs : List Char) : Bool := isHourMinute (cs.take 5) && areSeconds (cs.drop 5)

/-- Whether the characters are a time of day with an optional offset. -/
def isOffsetTime (cs : List Char) : Bool :=
  let (time, offset) := cut (fun c => c == 'Z' || c == 'z' || c == '+' || c == '-') cs
  isTime time &&
    match offset with
    | [] => true
    | ['Z'] | ['z'] => true
    | '+' :: rest | '-' :: rest => isHourMinute rest
    | _ => false

/-- Whether the characters are a date, a time, or both. -/
def isDatetime (cs : List Char) : Bool :=
  isTime cs || isDate cs ||
    (isDate (cs.take 10) &&
      (cs[10]? == some 'T' || cs[10]? == some 't' || cs[10]? == some ' ') &&
      isOffsetTime (cs.drop 11))

end DatesAndTimes

/-- The scalar that the characters are. -/
def ofChars? (cs : List Char) : Option Toml :=
  if cs = "true".toList then some (bool true)
  else if cs = "false".toList then some (bool false)
  else
    match integer? cs, float? cs with
    | some value, _ => some (integer value)
    | none, some inRange => some (float inRange)
    | none, none => if isDatetime cs then some datetime else none

/-- Whether a character can stand in a scalar without quotes. -/
def isScalarChar (c : Char) : Bool :=
  c.isAlphanum || c == '_' || c == '+' || c == '-' || c == '.' || c == ':'

/-- The scalar at the start of a text and the text after it. A space between a date and a time is
part of the scalar. -/
def scalar? (text : List Char) : Option (Toml × List Char) :=
  let first := text.takeWhile isScalarChar
  let rest := text.dropWhile isScalarChar
  match rest with
  | ' ' :: c :: more =>
    if isDate first ∧ c.isDigit then
      (ofChars? (first ++ ' ' :: c :: more.takeWhile isScalarChar)).map
        (·, more.dropWhile isScalarChar)
    else (ofChars? first).map (·, rest)
  | _ => (ofChars? first).map (·, rest)

end RecordSearch.Toml
