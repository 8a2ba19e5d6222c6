import RecordSearch.Json.Reader
import RecordSearch.Json.Writer
import Mathlib.Tactic.SplitIfs

/-!
# Written strings read back

Every character of a string is written as one piece: as itself, as a letter after a backslash, or as
the unit of a control character. So the pieces of a written string have its characters.
-/

namespace RecordSearch.Json

section Pieces

/-- The characters are read as the piece, whatever follows them. -/
def WritesPiece (written : List Char) (piece : Piece) : Prop :=
  ∀ rest, stringPieces? (written.map some ++ rest) =
    (stringPieces? rest).map fun found => (piece :: found.1, found.2)

/-- A letter after a backslash is read as the character that it stands for. -/
theorem writesPiece_escape {letter c meant : Char} (same : c = meant)
    (stands : escape? (some letter) = some meant) : WritesPiece ['\\', letter] (.char c) := by
  subst same
  have notUnit : letter ≠ 'u' := by
    rintro rfl
    simp [escape?] at stands
  intro rest
  rw [List.map_cons, List.map_cons, List.map_nil, List.cons_append, List.cons_append,
    List.nil_append, stringPieces?, stands]
  · cases stringPieces? rest <;> rfl
  · intro a b c d more isUnit
    exact absurd (Option.some.inj isUnit) notUnit

/-- The digits of a hexadecimal digit's character have its value. -/
theorem hexDigit?_digitChar : ∀ n < 16, Text.hexDigit? (Nat.digitChar n) = some n := by decide

/-- Two zeros and two hexadecimal digits after `\u` are read as the unit that they spell. -/
theorem writesPiece_unit {value : Nat} (small : value < 0x20) :
    WritesPiece (['\\', 'u', '0', '0'] ++ hexPair value) (.unit value) := by
  have spelled : unit? (some '0') (some '0') (some (Nat.digitChar (value / 16)))
      (some (Nat.digitChar (value % 16))) = some value := by
    have zero : Text.hexDigit? '0' = some 0 := by decide
    have high := hexDigit?_digitChar (value / 16) (by omega)
    have low := hexDigit?_digitChar (value % 16) (by omega)
    have whole : value / 16 * 16 + value % 16 = value := by omega
    simp [unit?, zero, high, low, whole]
  intro rest
  unfold hexPair
  simp only [List.cons_append, List.nil_append, List.map_cons, List.map_nil]
  rw [stringPieces?, spelled]
  cases stringPieces? rest <;> rfl

/-- A character that needs no escape is read as itself. -/
theorem writesPiece_plain {c : Char} (notQuote : c ≠ '"') (notBackslash : c ≠ '\\')
    (large : 0x20 ≤ c.toNat) : WritesPiece [c] (.char c) := by
  have plain : ¬(c = '\\' ∨ c.toNat < 0x20) := by
    rintro (isBackslash | small)
    · exact notBackslash isBackslash
    · omega
  intro rest
  rw [List.map_cons, List.map_nil, List.cons_append, List.nil_append, stringPieces?, if_neg plain]
  · cases stringPieces? rest <;> rfl
  · intro isQuote
    exact notQuote isQuote
  · intro a b c d more _ isBackslash
    exact notBackslash isBackslash
  · intro letter more _ isBackslash
    exact notBackslash isBackslash

end Pieces

/-- A character is written as one piece, which is the character. -/
theorem exists_writesPiece (c : Char) : ∃ piece, WritesPiece (stringChar c) piece ∧
    ∀ pieces, pieceChars? (piece :: pieces) = (pieceChars? pieces).map (c :: ·) := by
  have itself : ∀ pieces, pieceChars? (.char c :: pieces) = (pieceChars? pieces).map (c :: ·) :=
    fun _ => rfl
  unfold stringChar
  split_ifs with isQuote isBackslash isBackspace isTab isNewline isFeed isReturn isSmall
  · exact ⟨.char c, writesPiece_escape isQuote rfl, itself⟩
  · exact ⟨.char c, writesPiece_escape isBackslash rfl, itself⟩
  · exact ⟨.char c, writesPiece_escape isBackspace rfl, itself⟩
  · exact ⟨.char c, writesPiece_escape isTab rfl, itself⟩
  · exact ⟨.char c, writesPiece_escape isNewline rfl, itself⟩
  · exact ⟨.char c, writesPiece_escape isFeed rfl, itself⟩
  · exact ⟨.char c, writesPiece_escape isReturn rfl, itself⟩
  · refine ⟨.unit c.toNat, writesPiece_unit isSmall, ?_⟩
    intro pieces
    have notHigh : isHighSurrogate c.toNat = false := by
      simp [isHighSurrogate]
      omega
    have notLow : isLowSurrogate c.toNat = false := by
      simp [isLowSurrogate]
      omega
    rw [pieceChars?.eq_def]
    simp [notHigh, notLow]
  · exact ⟨.char c, writesPiece_plain isQuote isBackslash (by omega), itself⟩

/-- The characters of a string, as written, are read up to the closing quote. -/
theorem stringPieces?_chars (cs : List Char) (rest : List Text.Symbol) :
    ∃ pieces, stringPieces? ((cs.flatMap stringChar ++ ['"']).map some ++ rest) =
        some (pieces, rest) ∧ pieceChars? pieces = some cs := by
  induction cs with
  | nil => exact ⟨[], rfl, rfl⟩
  | cons c cs ih =>
    obtain ⟨pieces, read, characters⟩ := ih
    obtain ⟨piece, writes, isChar⟩ := exists_writesPiece c
    refine ⟨piece :: pieces, ?_, ?_⟩
    · rw [List.flatMap_cons, List.append_assoc, List.map_append, List.append_assoc, writes, read]
      rfl
    · rw [isChar, characters]
      rfl

/-- After its opening quote, a written string is read as the string. -/
theorem stringPieces?_string (s : String) (rest : List Text.Symbol) :
    ∃ pieces, stringPieces? ((s.toList.flatMap stringChar ++ ['"']).map some ++ rest) =
        some (pieces, rest) ∧ (pieceChars? pieces).map String.ofList = some s := by
  obtain ⟨pieces, read, characters⟩ := stringPieces?_chars s.toList rest
  refine ⟨pieces, read, ?_⟩
  rw [characters, Option.map_some, String.ofList_toList]

end RecordSearch.Json
