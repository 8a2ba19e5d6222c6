import RecordSearch.Number.Decimal

/-!
# The text of a double

The shortest decimal of a number, written positionally or with an exponent part as a style says.
-/

namespace RecordSearch

/-- How a format writes numbers. -/
structure NumeralStyle where
  /-- Which of two equally near shortest decimals is taken. -/
  tie : Tie
  /-- Whether a number whose leading digit has this exponent is written without an exponent part. -/
  positional : Int → Bool
  /-- What follows the digits of a whole number written positionally. -/
  wholeMark : List Char

namespace Decimal

/-- The decimal digits, `0` for zero. -/
def digitChars (d : Decimal) : List Char := Nat.toDigits 10 d.digits

/-- The exponent of the leading digit. -/
def leadingExponent (d : Decimal) : Int := d.exponent + d.digitChars.length - 1

/-- All digits with a point, or with the mark of a whole number. -/
def positionalChars (wholeMark : List Char) (d : Decimal) : List Char :=
  let digits := d.digitChars
  let fraction := (-d.exponent).toNat
  if 0 ≤ d.exponent then digits ++ List.replicate d.exponent.toNat '0' ++ wholeMark
  else if fraction < digits.length then
    digits.take (digits.length - fraction) ++ '.' :: digits.drop (digits.length - fraction)
  else '0' :: '.' :: List.replicate (fraction - digits.length) '0' ++ digits

/-- One digit, the others after a point, and the signed exponent. -/
def exponentChars (d : Decimal) : List Char :=
  let more := d.digitChars.drop 1
  let sign := if d.leadingExponent < 0 then '-' else '+'
  d.digitChars.take 1 ++ (if more.isEmpty then [] else '.' :: more) ++
    'e' :: sign :: Nat.toDigits 10 d.leadingExponent.natAbs

end Decimal

/-- The text of a number in a style. The sign of negative zero is written. -/
def Double.chars (style : NumeralStyle) (x : Double) : List Char :=
  let d := x.shortest style.tie
  let unsigned :=
    if style.positional d.leadingExponent then d.positionalChars style.wholeMark
    else d.exponentChars
  if x.negative then '-' :: unsigned else unsigned

end RecordSearch
