/-!
# The order of texts by their bytes

UTF-8 keeps the order of characters: where two characters differ, the first byte in which their
spellings differ is smaller for the smaller character. So texts in the order of their characters are
in the order of their bytes.
-/

namespace RecordSearch.Text

/-- The UTF-8 bytes of a text. -/
def bytes (text : String) : List UInt8 := text.toByteArray.data.toList

/-- The bytes of a text are those of its characters in order. -/
theorem bytes_eq_flatMap (text : String) :
    bytes text = text.toList.flatMap String.utf8EncodeChar := by
  unfold bytes
  rw [← String.utf8Encode_toList, List.utf8Encode, List.data_toByteArray]

/-- Bytes are in order if the first ones are, or are equal and the later ones are in order. -/
theorem cons_lt_cons_of_le {x y : Nat} {left right : List UInt8} (isByte : y < 256) (le : x ≤ y)
    (later : x = y → left < right) : UInt8.ofNat x :: left < UInt8.ofNat y :: right := by
  rw [List.cons_lt_cons_iff]
  rcases Nat.lt_or_eq_of_le le with less | rfl
  · left
    rw [UInt8.lt_iff_toNat_lt, UInt8.toNat_ofNat', UInt8.toNat_ofNat']
    omega
  · exact .inr ⟨rfl, later rfl⟩

/-- The bytes of a smaller character come before those of a greater one, whatever follows them. -/
theorem utf8EncodeChar_append_lt {c d : Char} (less : c < d) (left right : List UInt8) :
    String.utf8EncodeChar c ++ left < String.utf8EncodeChar d ++ right := by
  have lessCode : c.val.toNat < d.val.toNat := less
  have isCode : d.val.toNat < 1114112 := by
    rcases d.valid with low | ⟨-, high⟩
    · exact Nat.lt_trans low (by decide)
    · exact high
  unfold String.utf8EncodeChar
  generalize c.val.toNat = v at lessCode
  generalize d.val.toNat = w at lessCode isCode
  dsimp only
  -- Spellings of different lengths differ in their first byte, those of one length where the code
  -- points do when they are cut into groups of six bits.
  by_cases one : w ≤ 127
  · rw [if_pos one, if_pos (by omega)]
    exact cons_lt_cons_of_le (by omega) (by omega) (by omega)
  rw [if_neg one]
  by_cases two : w ≤ 2047
  · rw [if_pos two]
    by_cases ofOne : v ≤ 127
    · rw [if_pos ofOne]
      exact cons_lt_cons_of_le (by omega) (by omega) (by omega)
    rw [if_neg ofOne, if_pos (by omega)]
    refine cons_lt_cons_of_le (by omega) (by omega) fun first => ?_
    exact cons_lt_cons_of_le (by omega) (by omega) (by omega)
  rw [if_neg two]
  by_cases three : w ≤ 65535
  · rw [if_pos three]
    by_cases ofOne : v ≤ 127
    · rw [if_pos ofOne]
      exact cons_lt_cons_of_le (by omega) (by omega) (by omega)
    rw [if_neg ofOne]
    by_cases ofTwo : v ≤ 2047
    · rw [if_pos ofTwo]
      exact cons_lt_cons_of_le (by omega) (by omega) (by omega)
    rw [if_neg ofTwo, if_pos (by omega)]
    refine cons_lt_cons_of_le (by omega) (by omega) fun first => ?_
    refine cons_lt_cons_of_le (by omega) (by omega) fun second => ?_
    exact cons_lt_cons_of_le (by omega) (by omega) (by omega)
  rw [if_neg three]
  by_cases ofOne : v ≤ 127
  · rw [if_pos ofOne]
    exact cons_lt_cons_of_le (by omega) (by omega) (by omega)
  rw [if_neg ofOne]
  by_cases ofTwo : v ≤ 2047
  · rw [if_pos ofTwo]
    exact cons_lt_cons_of_le (by omega) (by omega) (by omega)
  rw [if_neg ofTwo]
  by_cases ofThree : v ≤ 65535
  · rw [if_pos ofThree]
    exact cons_lt_cons_of_le (by omega) (by omega) (by omega)
  rw [if_neg ofThree]
  refine cons_lt_cons_of_le (by omega) (by omega) fun first => ?_
  refine cons_lt_cons_of_le (by omega) (by omega) fun second => ?_
  refine cons_lt_cons_of_le (by omega) (by omega) fun third => ?_
  exact cons_lt_cons_of_le (by omega) (by omega) (by omega)

/-- The bytes of characters are in the order of the characters. -/
theorem flatMap_utf8EncodeChar_lt {left right : List Char} (less : left < right) :
    left.flatMap String.utf8EncodeChar < right.flatMap String.utf8EncodeChar := by
  induction less with
  | nil =>
    rw [List.flatMap_cons]
    obtain ⟨first, more, spelled⟩ := List.exists_cons_of_ne_nil String.utf8EncodeChar_ne_nil
    rw [spelled]
    exact List.nil_lt_cons first _
  | rel less => exact utf8EncodeChar_append_lt less _ _
  | cons less ih =>
    rw [List.flatMap_cons, List.flatMap_cons]
    exact List.append_left_lt ih

/-- Texts in order have their bytes in order. -/
theorem bytes_lt_bytes {left right : String} (less : left < right) : bytes left < bytes right := by
  rw [bytes_eq_flatMap, bytes_eq_flatMap]
  exact flatMap_utf8EncodeChar_lt less

end RecordSearch.Text
