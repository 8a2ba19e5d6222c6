import RecordSearch.Proofs.Text.ByteOrder
import RecordSearch.Text.Utf8

/-!
# Texts in bytes

The bytes of a text are read as the characters of the text. Each character is read from its own
bytes, one case for each number of bytes.
-/

namespace RecordSearch.Text

section Bytes

variable {n : Nat}

/-- A small number is the value of the byte that it makes. -/
theorem toNat_ofNat_of_lt (isByte : n < 256) : (UInt8.ofNat n).toNat = n := by
  rw [UInt8.toNat_ofNat']
  exact Nat.mod_eq_of_lt isByte

/-- How many bytes follow a byte, by its value. -/
theorem followers?_eq (lead : UInt8) :
    followers? lead =
      if lead.toNat < 0x80 then some 0
      else if lead.toNat < 0xc2 then none
      else if lead.toNat < 0xe0 then some 1
      else if lead.toNat < 0xf0 then some 2
      else if lead.toNat < 0xf5 then some 3
      else none := by
  simp [followers?, UInt8.lt_iff_toNat_lt]

/-- Six bits make a byte that continues a character. -/
theorem continues_ofNat (bits : n < 64) : continues (UInt8.ofNat (n + 0x80)) = true := by
  simp [continues, UInt8.lt_iff_toNat_lt, UInt8.le_iff_toNat_le]
  omega

end Bytes

variable {c : Char} {lead : UInt8} {count : Nat} {tail rest : List UInt8}

/-- A character is read from bytes that have its code point and no shorter spelling. -/
theorem character?_of_value (length : tail.length = count) (continuing : tail.all continues = true)
    (least : leastCodePoint count ≤ c.toNat)
    (value : tail.foldl (fun value byte => value * 64 + byte.toNat % 64) (leadBits lead count) =
      c.toNat) :
    character? lead count tail = some c := by
  unfold character?
  dsimp only
  rw [value, if_pos ⟨length, continuing, least, c.valid⟩, Char.ofNat_toNat]

/-- The symbols of a character's bytes are the character. -/
theorem symbols_of_character? (owns : followers? lead = some count) (length : tail.length = count)
    (spells : character? lead count tail = some c) :
    symbols (lead :: (tail ++ rest)) = some c :: symbols rest := by
  have taken : (tail ++ rest).take count = tail := by rw [← length, List.take_left]
  have dropped : (tail ++ rest).drop count = rest := by rw [← length, List.drop_left]
  rw [symbols, owns]
  dsimp only
  rw [taken, spells]
  dsimp only
  rw [dropped]

/-- The bytes of a character are read as the character, whatever follows them. -/
theorem symbols_utf8EncodeChar (c : Char) (rest : List UInt8) :
    symbols (String.utf8EncodeChar c ++ rest) = some c :: symbols rest := by
  have isCode : c.toNat < 1114112 := by
    rcases c.valid with low | ⟨-, high⟩
    · exact Nat.lt_trans low (by decide)
    · exact high
  have later : ∀ n, continues (UInt8.ofNat (n % 64 + 0x80)) = true := fun n =>
    continues_ofNat (Nat.mod_lt n (by decide))
  unfold String.utf8EncodeChar
  rw [show c.val.toNat = c.toNat from rfl]
  dsimp only
  by_cases one : c.toNat ≤ 127
  · rw [if_pos one]
    have value : (UInt8.ofNat c.toNat).toNat = c.toNat := toNat_ofNat_of_lt (by omega)
    have owns : followers? (UInt8.ofNat c.toNat) = some 0 := by
      rw [followers?_eq, value, if_pos (by omega)]
    exact symbols_of_character? owns rfl (character?_of_value rfl rfl (Nat.zero_le _) value)
  rw [if_neg one]
  by_cases two : c.toNat ≤ 2047
  · rw [if_pos two]
    have lead := toNat_ofNat_of_lt (show c.toNat / 64 % 32 + 192 < 256 by omega)
    have last := toNat_ofNat_of_lt (show c.toNat % 64 + 128 < 256 by omega)
    have owns : followers? (UInt8.ofNat (c.toNat / 64 % 32 + 192)) = some 1 := by
      rw [followers?_eq, lead, if_neg (by omega), if_neg (by omega), if_pos (by omega)]
    refine symbols_of_character? owns rfl (character?_of_value rfl ?_ ?_ ?_)
    · simp only [List.all_cons, List.all_nil, later, Bool.and_self]
    · exact Nat.lt_of_not_le one
    · change (UInt8.ofNat _).toNat % 32 * 64 + (UInt8.ofNat _).toNat % 64 = c.toNat
      rw [lead, last]
      omega
  rw [if_neg two]
  by_cases three : c.toNat ≤ 65535
  · rw [if_pos three]
    have lead := toNat_ofNat_of_lt (show c.toNat / 4096 % 16 + 224 < 256 by omega)
    have second := toNat_ofNat_of_lt (show c.toNat / 64 % 64 + 128 < 256 by omega)
    have last := toNat_ofNat_of_lt (show c.toNat % 64 + 128 < 256 by omega)
    have owns : followers? (UInt8.ofNat (c.toNat / 4096 % 16 + 224)) = some 2 := by
      rw [followers?_eq, lead, if_neg (by omega), if_neg (by omega), if_neg (by omega),
        if_pos (by omega)]
    refine symbols_of_character? owns rfl (character?_of_value rfl ?_ ?_ ?_)
    · simp only [List.all_cons, List.all_nil, later, Bool.and_self]
    · exact Nat.lt_of_not_le two
    · change ((UInt8.ofNat _).toNat % 16 * 64 + (UInt8.ofNat _).toNat % 64) * 64 +
        (UInt8.ofNat _).toNat % 64 = c.toNat
      rw [lead, second, last]
      omega
  rw [if_neg three]
  have lead := toNat_ofNat_of_lt (show c.toNat / 262144 % 8 + 240 < 256 by omega)
  have second := toNat_ofNat_of_lt (show c.toNat / 4096 % 64 + 128 < 256 by omega)
  have third := toNat_ofNat_of_lt (show c.toNat / 64 % 64 + 128 < 256 by omega)
  have last := toNat_ofNat_of_lt (show c.toNat % 64 + 128 < 256 by omega)
  have owns : followers? (UInt8.ofNat (c.toNat / 262144 % 8 + 240)) = some 3 := by
    rw [followers?_eq, lead, if_neg (by omega), if_neg (by omega), if_neg (by omega),
      if_neg (by omega), if_pos (by omega)]
  refine symbols_of_character? owns rfl (character?_of_value rfl ?_ ?_ ?_)
  · simp only [List.all_cons, List.all_nil, later, Bool.and_self]
  · exact Nat.lt_of_not_le three
  · change (((UInt8.ofNat _).toNat % 8 * 64 + (UInt8.ofNat _).toNat % 64) * 64 +
      (UInt8.ofNat _).toNat % 64) * 64 + (UInt8.ofNat _).toNat % 64 = c.toNat
    rw [lead, second, third, last]
    omega

/-- The bytes of a text are read as its characters. -/
theorem symbols_bytes (text : String) : symbols (bytes text) = text.toList.map some := by
  rw [bytes_eq_flatMap]
  induction text.toList with
  | nil => rw [List.flatMap_nil, symbols, List.map_nil]
  | cons c more ih => rw [List.flatMap_cons, symbols_utf8EncodeChar, ih, List.map_cons]

end RecordSearch.Text
