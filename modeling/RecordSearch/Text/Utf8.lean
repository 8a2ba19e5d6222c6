/-!
# UTF-8

Bytes are read as symbols: characters, and one gap for each byte that belongs to no character. No
gap takes in a byte below `0x80`, so the ASCII structure of a damaged text stays readable.
-/

namespace RecordSearch.Text

/-- A character of a text, or a gap: a byte that is part of no character. -/
abbrev Symbol := Option Char

/-- How many UTF-8 bytes the characters take. -/
def byteCount : List Char → Nat
  | [] => 0
  | c :: rest => c.utf8Size + byteCount rest

/-- Texts that follow each other take the bytes of both. -/
theorem byteCount_append (left right : List Char) :
    byteCount (left ++ right) = byteCount left + byteCount right := by
  induction left with
  | nil => simp [byteCount]
  | cons c rest ih => simp only [List.cons_append, byteCount, ih, Nat.add_assoc]

/-- The bytes of the characters are the size of the string. -/
theorem byteCount_toList (text : String) : byteCount text.toList = text.utf8ByteSize := by
  have ofList : ∀ cs : List Char, byteCount cs = (String.ofList cs).utf8ByteSize := by
    intro cs
    induction cs with
    | nil => rfl
    | cons c rest ih =>
      rw [String.ofList_cons, String.utf8ByteSize_append, String.utf8ByteSize_singleton, ← ih,
        byteCount]
  rw [ofList, String.ofList_toList]

/-- How many bytes follow a leading byte; none where no character starts with it. -/
def followers? (lead : UInt8) : Option Nat :=
  if lead < 0x80 then some 0
  else if lead < 0xc2 then none
  else if lead < 0xe0 then some 1
  else if lead < 0xf0 then some 2
  else if lead < 0xf5 then some 3
  else none

/-- Whether the byte continues a character. -/
def continues (byte : UInt8) : Bool := 0x80 ≤ byte && byte < 0xc0

/-- The bits that a leading byte with this many followers gives to the code point. -/
def leadBits (lead : UInt8) : Nat → Nat
  | 0 => lead.toNat
  | 1 => lead.toNat % 32
  | 2 => lead.toNat % 16
  | _ => lead.toNat % 8

/-- The least code point that needs this many followers. -/
def leastCodePoint : Nat → Nat
  | 0 => 0
  | 1 => 0x80
  | 2 => 0x800
  | _ => 0x10000

/-- The character of a leading byte and its followers, if they form one in its shortest spelling. -/
def character? (lead : UInt8) (count : Nat) (tail : List UInt8) : Option Char :=
  let codePoint := tail.foldl (fun value byte => value * 64 + byte.toNat % 64) (leadBits lead count)
  if tail.length = count ∧ tail.all continues ∧ leastCodePoint count ≤ codePoint ∧
      codePoint.isValidChar then
    some (Char.ofNat codePoint)
  else none

/-- The symbols of a byte string. -/
def symbols : List UInt8 → List Symbol
  | [] => []
  | lead :: rest =>
    match followers? lead with
    | none => none :: symbols rest
    | some count =>
      match character? lead count (rest.take count) with
      | none => none :: symbols rest
      | some c => some c :: symbols (rest.drop count)
termination_by bytes => bytes.length
decreasing_by all_goals simp only [List.length_drop, List.length_cons]; omega

/-- The characters of a byte string without gaps. -/
def characters? (bytes : List UInt8) : Option (List Char) := (symbols bytes).mapM id

end RecordSearch.Text
