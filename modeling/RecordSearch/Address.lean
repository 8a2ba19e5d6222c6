import RecordSearch.Text.Digits

/-!
# Network addresses

IP addresses of both versions as texts, read in every notation and written in the canonical one, and
the endpoints that a service listens on.
-/

namespace RecordSearch

/-- An IP address. -/
inductive Address where
  | v4 (first second third fourth : UInt8)
  | v6 (groups : List UInt16) (eight : groups.length = 8)
  deriving DecidableEq

namespace Address

section Reading

/-- The octet at the start of a text: a decimal number without leading zeros. -/
def octet? (text : List Char) : Option (UInt8 × List Char) :=
  let digits := text.takeWhile Char.isDigit
  let value := Text.numeralValue 10 digits
  let leadingZero := digits.head? = some '0' ∧ digits.length ≠ 1
  if digits ≠ [] ∧ digits.length ≤ 3 ∧ value ≤ 255 ∧ ¬leadingZero then
    some (value.toUInt8, text.drop digits.length)
  else none

/-- The octet after a point. -/
def nextOctet? : List Char → Option (UInt8 × List Char)
  | '.' :: rest => octet? rest
  | _ => none

/-- Four octets and the text after them. -/
abbrev Octets := UInt8 × UInt8 × UInt8 × UInt8

/-- The four octets at the start of a text. -/
def octets? (text : List Char) : Option (Octets × List Char) := do
  let (first, rest) ← octet? text
  let (second, rest) ← nextOctet? rest
  let (third, rest) ← nextOctet? rest
  let (fourth, rest) ← nextOctet? rest
  return ((first, second, third, fourth), rest)

/-- The group at the start of a text: up to four hexadecimal digits. -/
def group? (text : List Char) : Option (UInt16 × List Char) :=
  let digits := text.takeWhile Text.isHexDigit
  if digits ≠ [] ∧ digits.length ≤ 4 then
    some ((Text.numeralValue 16 digits).toUInt16, text.drop digits.length)
  else none

/-- The group that two octets form. -/
def groupOf (high low : UInt8) : UInt16 := high.toUInt16 * 256 + low.toUInt16

/-- Groups between colons, no more than `limit`, and the text after them. -/
structure Groups (limit : Nat) where
  groups : List UInt16
  /-- Whether four octets stand for the last two groups. -/
  octets : Bool
  rest : List Char
  within : groups.length ≤ limit

/-- No groups. -/
def Groups.none (limit : Nat) (text : List Char) : Groups limit := ⟨[], false, text, Nat.zero_le _⟩

/-- The text after the colon that stands before every group but the first. -/
def afterColon? (first : Bool) (text : List Char) : Option (List Char) :=
  if first then some text
  else
    match text with
    | ':' :: rest => some rest
    | _ => Option.none

/-- As many groups as stand at the start of a text. -/
def groupsAt : (limit : Nat) → (first : Bool) → List Char → Groups limit
  | 0, _, text => .none 0 text
  | 1, first, text =>
    match (afterColon? first text).bind group? with
    | some (group, rest) => ⟨[group], false, rest, Nat.le_refl _⟩
    | Option.none => .none 1 text
  | limit + 2, first, text =>
    match (afterColon? first text).bind octets? with
    | some ((a, b, c, d), rest) => ⟨[groupOf a b, groupOf c d], true, rest, by simp⟩
    | Option.none =>
      match (afterColon? first text).bind group? with
      | some (group, rest) =>
        let more := groupsAt (limit + 1) false rest
        ⟨group :: more.groups, more.octets, more.rest, Nat.succ_le_succ more.within⟩
      | Option.none => .none (limit + 2) text

/-- The groups on both sides of a gap of zeros. -/
def withGap (head : List UInt16) (tail : Groups (7 - head.length)) (short : head.length < 8) :
    Address :=
  .v6 (head ++ List.replicate (8 - head.length - tail.groups.length) 0 ++ tail.groups) (by
    have := tail.within
    simp only [List.length_append, List.length_replicate]
    omega)

/-- The address of version 6 at the start of a text. Octets cannot stand before a gap. -/
def v6? (text : List Char) : Option (Address × List Char) :=
  let head := groupsAt 8 true text
  if eight : head.groups.length = 8 then some (.v6 head.groups eight, head.rest)
  else if head.octets then Option.none
  else
    match head.rest with
    | ':' :: ':' :: rest =>
      let tail := groupsAt (7 - head.groups.length) true rest
      some (withGap head.groups tail (Nat.lt_of_le_of_ne head.within eight), tail.rest)
    | _ => Option.none

/-- The address that a text denotes. -/
def ofText? (text : String) : Option Address :=
  match octets? text.toList, v6? text.toList with
  | some ((a, b, c, d), []), _ => some (.v4 a b c d)
  | _, some (address, []) => some address
  | _, _ => Option.none

end Reading

section Writing

/-- Four octets with points between them. -/
def octetsText (first second third fourth : UInt8) : String :=
  ".".intercalate ([first, second, third, fourth].map fun octet => toString octet.toNat)

/-- Groups with colons between them, in lower-case hexadecimal digits. -/
def groupsText (groups : List UInt16) : String :=
  ":".intercalate (groups.map fun group => String.ofList (Nat.toDigits 16 group.toNat))

/-- The number of zeros at the start of some groups. -/
def zerosAt (groups : List UInt16) : Nat := (groups.takeWhile (· == 0)).length

/-- The place of the first longest run of zeros. -/
def gapAt (groups : List UInt16) : Nat :=
  (List.range groups.length).foldl
    (fun best place =>
      if zerosAt (groups.drop best) < zerosAt (groups.drop place) then place else best) 0

/-- The text of groups: two or more zeros give way to a gap, at the first longest run. -/
def gappedText (groups : List UInt16) : String :=
  let place := gapAt groups
  let zeros := zerosAt (groups.drop place)
  if 1 < zeros then
    groupsText (groups.take place) ++ "::" ++ groupsText (groups.drop (place + zeros))
  else groupsText groups

/-- The canonical text of an address. Addresses of version 4 inside version 6 keep their octets. -/
def text : Address → String
  | v4 first second third fourth => octetsText first second third fourth
  | v6 [0, 0, 0, 0, 0, 0xffff, high, low] _ =>
    "::ffff:" ++ octetsText (high / 256).toUInt8 high.toUInt8 (low / 256).toUInt8 low.toUInt8
  | v6 groups _ => gappedText groups

end Writing

end Address

/-- What a service listens on. -/
structure Endpoint where
  address : Address
  port : UInt16
  deriving DecidableEq

/-- The text of an endpoint; addresses of version 6 stand in brackets. -/
def Endpoint.text (endpoint : Endpoint) : String :=
  let address :=
    match endpoint.address with
    | .v4 .. => endpoint.address.text
    | .v6 .. => "[" ++ endpoint.address.text ++ "]"
  address ++ ":" ++ toString endpoint.port.toNat

end RecordSearch
