import RecordSearch.Json.Outline
import RecordSearch.Number.Decimal
import RecordSearch.Text.Digits
import RecordSearch.Text.Utf8

/-!
# Reading JSON text

`outline` reads symbols as far as the grammar goes and never fails; `read?` asks for a whole value
with nothing after it. A number with a fraction or an exponent is the double of its leading digits,
as many as fit 64 bits, shifted by a power of ten.
-/

namespace RecordSearch.Json

open RecordSearch.Text (Symbol)

/-- The four characters that may stand between tokens. -/
def isBlank : Symbol → Bool
  | some ' ' | some '\t' | some '\n' | some '\r' => true
  | _ => false

/-- The text from its first token on. -/
def skipBlanks (text : List Symbol) : List Symbol := text.dropWhile isBlank

section Strings

/-- A part of a string as written. -/
inductive Piece where
  /-- A character, plain or escaped by a letter. -/
  | char (c : Char)
  /-- Four hexadecimal digits: a UTF-16 unit. -/
  | unit (value : Nat)
  /-- A byte that is part of no character. -/
  | gap

/-- The UTF-16 unit that four symbols spell. -/
def unit? (a b c d : Symbol) : Option Nat := do
  let a ← a >>= Text.hexDigit?
  let b ← b >>= Text.hexDigit?
  let c ← c >>= Text.hexDigit?
  let d ← d >>= Text.hexDigit?
  return ((a * 16 + b) * 16 + c) * 16 + d

/-- The character that a letter after a backslash stands for. -/
def escape? : Symbol → Option Char
  | some '"' => some '"'
  | some '\\' => some '\\'
  | some '/' => some '/'
  | some 'b' => some '\x08'
  | some 'f' => some '\x0c'
  | some 'n' => some '\n'
  | some 'r' => some '\r'
  | some 't' => some '\t'
  | _ => none

/-- The pieces up to the closing quote and the text after it. Raw control characters and unknown
escapes break the text. -/
def stringPieces? : List Symbol → Option (List Piece × List Symbol)
  | [] => none
  | some '"' :: rest => some ([], rest)
  | some '\\' :: some 'u' :: a :: b :: c :: d :: rest => do
    let value ← unit? a b c d
    let (pieces, rest) ← stringPieces? rest
    return (.unit value :: pieces, rest)
  | some '\\' :: letter :: rest => do
    let c ← escape? letter
    let (pieces, rest) ← stringPieces? rest
    return (.char c :: pieces, rest)
  | some c :: rest => do
    if c = '\\' ∨ c.toNat < 0x20 then none
    let (pieces, rest) ← stringPieces? rest
    return (.char c :: pieces, rest)
  | none :: rest => do
    let (pieces, rest) ← stringPieces? rest
    return (.gap :: pieces, rest)

/-- Whether a unit is the first half of a surrogate pair. -/
def isHighSurrogate (value : Nat) : Bool := 0xd800 ≤ value && value < 0xdc00

/-- Whether a unit is the second half of a surrogate pair. -/
def isLowSurrogate (value : Nat) : Bool := 0xdc00 ≤ value && value < 0xe000

/-- The characters of the pieces: units stand for themselves or in surrogate pairs. -/
def pieceChars? : List Piece → Option (List Char)
  | [] => some []
  | .char c :: rest => (pieceChars? rest).map (c :: ·)
  | .gap :: _ => none
  | .unit value :: rest =>
    if isHighSurrogate value then
      match rest with
      | .unit low :: rest =>
        if isLowSurrogate low then
          (pieceChars? rest).map
            (Char.ofNat (0x10000 + (value - 0xd800) * 0x400 + (low - 0xdc00)) :: ·)
        else none
      | _ => none
    else if isLowSurrogate value then none
    else (pieceChars? rest).map (Char.ofNat value :: ·)

end Strings

section Numbers

/-- The parts of a number as written. -/
structure Numeral where
  negative : Bool
  /-- The digits before the point. -/
  whole : List Nat
  /-- The digits after the point; empty where there is no point. -/
  fraction : List Nat
  /-- The exponent part, if there is one. -/
  exponent : Option Int

/-- The decimal digits at the start of the text and the text after them. -/
def digits : List Symbol → List Nat × List Symbol
  | some c :: rest =>
    if c.isDigit then
      let (more, rest) := digits rest
      ((c.toNat - '0'.toNat) :: more, rest)
    else ([], some c :: rest)
  | text => ([], text)

/-- The digits after a point, none without a point; a point needs a digit after it. -/
def fraction? : List Symbol → Option (List Nat × List Symbol)
  | some '.' :: rest =>
    match digits rest with
    | ([], _) => none
    | found => some found
  | text => some ([], text)

/-- The exponent digits after their sign; at least one is needed. -/
def exponentDigits? (negative : Bool) (text : List Symbol) : Option (Option Int × List Symbol) :=
  match digits text with
  | ([], _) => none
  | (ds, rest) => some (some (Text.withSign negative (Text.digitsValue 10 ds)), rest)

/-- The exponent part, if the text goes on with one. -/
def exponent? : List Symbol → Option (Option Int × List Symbol)
  | some 'e' :: some '-' :: rest | some 'E' :: some '-' :: rest => exponentDigits? true rest
  | some 'e' :: some '+' :: rest | some 'E' :: some '+' :: rest => exponentDigits? false rest
  | some 'e' :: rest | some 'E' :: rest => exponentDigits? false rest
  | text => some (none, text)

/-- The number at the start of the text, without its sign: a leading zero stands alone. -/
def unsignedNumeral? (negative : Bool) (text : List Symbol) : Option (Numeral × List Symbol) :=
  match digits text with
  | ([], _) => none
  | (0 :: _ :: _, _) => none
  | (whole, rest) => do
    let (fraction, rest) ← fraction? rest
    let (exponent, rest) ← exponent? rest
    return (⟨negative, whole, fraction, exponent⟩, rest)

/-- The number at the start of the text. -/
def numeral? : List Symbol → Option (Numeral × List Symbol)
  | some '-' :: rest => unsignedNumeral? true rest
  | text => unsignedNumeral? false text

/-- The digits appended to a value while it fits 64 bits, and those left over. -/
def gather (value : Nat) : List Nat → Nat × List Nat
  | [] => (value, [])
  | d :: rest => if value * 10 + d < 18446744073709551616 then gather (value * 10 + d) rest
    else (value, d :: rest)

/-- The value of a number, none where it is out of range. Whole digits past 64 bits count as powers
of ten and fraction digits past them are dropped; the fraction is gathered on its own after that. -/
def Numeral.value? (n : Numeral) : Option Number :=
  let (leading, excess) := gather 0 n.whole
  let (significand, dropped) := gather leading n.fraction
  let shift : Int := excess.length - (n.fraction.length - dropped.length : Nat) + n.exponent.getD 0
  let unshifted := Double.ofUnits? n.negative (significand * Nat.pow 2 unitPlaces) 1
  let shifted : Option Number := (unshifted.bind (·.shifted? shift)).map .double
  if n.fraction.isEmpty ∧ n.exponent.isNone ∧ excess.isEmpty then
    let value : Int := if n.negative then -significand else significand
    if fits : leastInteger ≤ value ∧ value < integerEnd ∧ ¬(n.negative ∧ significand = 0) then
      some (.integer value fits.1 fits.2.1)
    else shifted
  else shifted

end Numbers

mutual

/-- The outline of the value at the start of the text, and the text after it. The fuel bounds the
calls; twice the length of the text is enough. -/
def outlineWith : Nat → List Symbol → Outline × List Symbol
  | 0, _ => (.broken, [])
  | fuel + 1, text =>
    match skipBlanks text with
    | some 'n' :: some 'u' :: some 'l' :: some 'l' :: rest => (.null, rest)
    | some 't' :: some 'r' :: some 'u' :: some 'e' :: rest => (.bool true, rest)
    | some 'f' :: some 'a' :: some 'l' :: some 's' :: some 'e' :: rest => (.bool false, rest)
    | some '"' :: rest =>
      match stringPieces? rest with
      | some (pieces, rest) => (.string ((pieceChars? pieces).map String.ofList), rest)
      | none => (.broken, [])
    | some '[' :: rest =>
      match skipBlanks rest with
      | some ']' :: rest => (.array [] true, rest)
      | _ =>
        let (items, closed, rest) := itemsWith fuel rest
        (.array items closed, rest)
    | some '\x7b' :: rest =>
      match skipBlanks rest with
      | some '\x7d' :: rest => (.object [] true, rest)
      | _ =>
        let (members, closed, rest) := membersWith fuel rest
        (.object members closed, rest)
    | text =>
      match numeral? text with
      | some (numeral, rest) => (.number numeral.value?, rest)
      | none => (.broken, [])

/-- The items up to the closing bracket, whether it was reached, and the text after it. -/
def itemsWith : Nat → List Symbol → List Outline × Bool × List Symbol
  | 0, _ => ([], false, [])
  | fuel + 1, text =>
    let (item, rest) := outlineWith fuel text
    match skipBlanks rest with
    | some ',' :: rest =>
      let (more, closed, rest) := itemsWith fuel rest
      (item :: more, closed, rest)
    | some ']' :: rest => ([item], true, rest)
    | _ => ([item], false, [])

/-- The members up to the closing brace, whether it was reached, and the text after it. -/
def membersWith : Nat → List Symbol → List (Option String × Outline) × Bool × List Symbol
  | 0, _ => ([], false, [])
  | fuel + 1, text =>
    match skipBlanks text with
    | some '"' :: rest =>
      match stringPieces? rest with
      | none => ([], false, [])
      | some (pieces, rest) =>
        let key := (pieceChars? pieces).map String.ofList
        match skipBlanks rest with
        | some ':' :: rest =>
          let (value, rest) := outlineWith fuel rest
          match skipBlanks rest with
          | some ',' :: rest =>
            let (more, closed, rest) := membersWith fuel rest
            ((key, value) :: more, closed, rest)
          | some '\x7d' :: rest => ([(key, value)], true, rest)
          | _ => ([(key, value)], false, [])
        | _ => ([(key, .broken)], false, [])
    | _ => ([], false, [])

end

/-- The outline of a text, and whether nothing but blanks follows the value. -/
def outline (text : List Symbol) : Outline × Bool :=
  let (found, rest) := outlineWith (2 * text.length + 2) text
  (found, (skipBlanks rest).isEmpty)

/-- The value that the whole text is. -/
def read? (text : List Symbol) : Option Json :=
  match outline text with
  | (found, true) => found.value? maxLevels
  | (_, false) => none

/-- The symbols of a string: it has no gaps. -/
def symbolsOf (s : String) : List Symbol := s.toList.map some

end RecordSearch.Json
