import RecordSearch.Proofs.Json.Numerals
import RecordSearch.Proofs.Json.Strings

/-!
# Written values read back

The text of a value is read as an outline of the value. Only its numbers can be others: a double is
read from the digits of its text step by step, and the last step can miss it.
-/

namespace RecordSearch.Json

open RecordSearch.Text (Symbol)

namespace Outline

mutual

/-- The outline of the text of a value: every number is what its text denotes. -/
def written : Json → Outline
  | .null => null
  | .bool value => bool value
  | .number value => number value.reread?
  | .string value => string (some value)
  | .array items => array (writtenItems items) true
  | .object members => object (writtenMembers members) true

/-- The outlines of the texts of the items. -/
def writtenItems : List Json → List Outline
  | [] => []
  | item :: more => written item :: writtenItems more

/-- The outlines of the texts of the members. -/
def writtenMembers : List (String × Json) → List (Option String × Outline)
  | [] => []
  | (key, value) :: more => (some key, written value) :: writtenMembers more

end

end Outline

section Steps

variable {fuel : Nat} {rest : List Symbol}

/-- A symbol that is no blank is the first token. -/
theorem skipBlanks_cons {symbol : Symbol} (notBlank : isBlank symbol = false)
    (rest : List Symbol) : skipBlanks (symbol :: rest) = symbol :: rest := by
  simp [skipBlanks, notBlank]

/-- A quote starts a string. -/
theorem outlineWith_string (s : String) (fuel : Nat) (rest : List Symbol) :
    outlineWith (fuel + 1) ((stringChars s).map some ++ rest) = (.string (some s), rest) := by
  obtain ⟨pieces, read, characters⟩ := stringPieces?_string s rest
  unfold stringChars
  rw [List.cons_append, List.map_cons, List.cons_append, outlineWith, skipBlanks_cons rfl]
  simp only [read, characters]

/-- A digit or a minus is no blank. -/
theorem isBlank_of_numeric {c : Char} (numeric : c.isDigit = true ∨ c = '-') :
    isBlank (some c) = false := by
  unfold isBlank
  split
  all_goals first
    | rfl
    | next same =>
      cases same
      exact absurd numeric (by decide)

/-- A digit or a minus starts a number. -/
theorem outlineWith_number (number : Number) (fuel : Nat) (ends : EndsNumber rest) :
    outlineWith (fuel + 1) (number.chars.map some ++ rest) = (.number number.reread?, rest) := by
  obtain ⟨numeral, value, read⟩ := number.exists_numeral
  obtain ⟨c, more, starts, numeric⟩ := number.exists_head
  have found := read rest ends
  rw [starts, List.map_cons, List.cons_append] at found ⊢
  rw [outlineWith, skipBlanks_cons (isBlank_of_numeric numeric)]
  split
  all_goals first
    | next same =>
      -- The other values start with another symbol.
      cases (List.cons.inj same).1
      exact absurd numeric (by decide)
    | simp only [found, value]

/-- The text of a value starts with a symbol that is neither blank nor a closing bracket. -/
theorem exists_head_of_chars (value : Json) :
    ∃ c more, value.chars = c :: more ∧ isBlank (some c) = false ∧ c ≠ ']' := by
  cases value with
  | null => exact ⟨_, _, rfl, rfl, by decide⟩
  | bool value => cases value <;> exact ⟨_, _, rfl, rfl, by decide⟩
  | number number =>
    obtain ⟨c, more, starts, numeric⟩ := number.exists_head
    refine ⟨c, more, starts, isBlank_of_numeric numeric, ?_⟩
    rintro rfl
    exact absurd numeric (by decide)
  | string s => exact ⟨_, _, rfl, rfl, by decide⟩
  | array items => cases items <;> exact ⟨_, _, rfl, rfl, by decide⟩
  | object members => cases members <;> exact ⟨_, _, rfl, rfl, by decide⟩

/-- A comma, a closing bracket or a closing brace ends a number. -/
theorem endsNumber_cons {c : Char} (closes : c ∈ [',', ']', '\x7d']) (rest : List Symbol) :
    EndsNumber (some c :: rest) := by
  intro other same
  cases same
  simp only [List.mem_cons, List.not_mem_nil, or_false] at closes
  rcases closes with rfl | rfl | rfl <;> decide

/-- The text of a value starts with no closing bracket. -/
theorem skipBlanks_chars_ne (value : Json) (text after : List Symbol) :
    skipBlanks (value.chars.map some ++ text) ≠ some ']' :: after := by
  obtain ⟨c, more, starts, notBlank, notClosing⟩ := exists_head_of_chars value
  rw [starts, List.map_cons, List.cons_append, skipBlanks_cons notBlank]
  intro same
  cases (List.cons.inj same).1
  exact notClosing rfl

/-- After an opening bracket that no closing one follows, the items are read. -/
theorem outlineWith_bracket {text : List Symbol}
    (notClosing : ∀ after, skipBlanks text ≠ some ']' :: after) (fuel : Nat) :
    outlineWith (fuel + 1) (some '[' :: text) =
      (.array (itemsWith fuel text).1 (itemsWith fuel text).2.1, (itemsWith fuel text).2.2) := by
  rw [outlineWith, skipBlanks_cons rfl]
  -- The inner match falls to its second case by `notClosing`.
  simp only

/-- After an opening brace and a key, the members are read. -/
theorem outlineWith_brace (key : String) (fuel : Nat) (text : List Symbol) :
    outlineWith (fuel + 1) (some '\x7b' :: ((stringChars key).map some ++ text)) =
      (.object (membersWith fuel ((stringChars key).map some ++ text)).1
          (membersWith fuel ((stringChars key).map some ++ text)).2.1,
        (membersWith fuel ((stringChars key).map some ++ text)).2.2) := by
  rw [outlineWith, skipBlanks_cons rfl]
  rfl

variable {text more : List Symbol} {found : Outline}

/-- After an item and a comma, the items go on. -/
theorem itemsWith_comma (read : outlineWith fuel text = (found, some ',' :: more)) :
    itemsWith (fuel + 1) text =
      (found :: (itemsWith fuel more).1, (itemsWith fuel more).2) := by
  rw [itemsWith, read]
  rfl

/-- After an item and a closing bracket, the items are complete. -/
theorem itemsWith_closing (read : outlineWith fuel text = (found, some ']' :: rest)) :
    itemsWith (fuel + 1) text = ([found], true, rest) := by
  rw [itemsWith, read]
  rfl

/-- The members from one of them on, as what follows it decides. -/
def membersAfter (fuel : Nat) (member : Option String × Outline) (rest : List Symbol) :
    List (Option String × Outline) × Bool × List Symbol :=
  match skipBlanks rest with
  | some ',' :: rest => (member :: (membersWith fuel rest).1, (membersWith fuel rest).2)
  | some '\x7d' :: rest => ([member], true, rest)
  | _ => ([member], false, [])

/-- A key, a colon and a value are a member. -/
theorem membersWith_key (key : String) (fuel : Nat) (text : List Symbol) :
    membersWith (fuel + 1) ((stringChars key).map some ++ some ':' :: text) =
      membersAfter fuel (some key, (outlineWith fuel text).1) (outlineWith fuel text).2 := by
  obtain ⟨pieces, readKey, characters⟩ := stringPieces?_string key (some ':' :: text)
  unfold stringChars
  rw [List.cons_append, List.map_cons, List.cons_append, membersWith, skipBlanks_cons rfl]
  simp only [readKey, characters, skipBlanks_cons (rfl : isBlank (some ':') = false)]
  rfl

/-- After a member and a comma, the members go on. -/
theorem membersWith_comma (key : String)
    (read : outlineWith fuel text = (found, some ',' :: more)) :
    membersWith (fuel + 1) ((stringChars key).map some ++ some ':' :: text) =
      ((some key, found) :: (membersWith fuel more).1, (membersWith fuel more).2) := by
  rw [membersWith_key, read]
  rfl

/-- After a member and a closing brace, the members are complete. -/
theorem membersWith_closing (key : String)
    (read : outlineWith fuel text = (found, some '\x7d' :: rest)) :
    membersWith (fuel + 1) ((stringChars key).map some ++ some ':' :: text) =
      ([(some key, found)], true, rest) := by
  rw [membersWith_key, read]
  rfl

end Steps

mutual

/-- The text of a value is read as the written outline of the value, whatever ends it. As much fuel
as the text is long is enough. -/
theorem outlineWith_chars : (value : Json) → (fuel : Nat) → (rest : List Symbol) →
    value.chars.length ≤ fuel → EndsNumber rest →
      outlineWith fuel (value.chars.map some ++ rest) = (.written value, rest)
  | .null, fuel + 1, _, _, _ => rfl
  | .bool true, fuel + 1, _, _, _ => rfl
  | .bool false, fuel + 1, _, _, _ => rfl
  | .number n, fuel + 1, rest, _, ends => outlineWith_number n fuel ends
  | .string s, fuel + 1, rest, _, _ => outlineWith_string s fuel rest
  | .array [], fuel + 1, _, _, _ => rfl
  | .array (item :: more), fuel + 1, rest, enough, _ => by
    have within : (item.chars ++ moreItems more).length < fuel := by
      simp [chars] at enough ⊢
      omega
    have items := itemsWith_chars item more fuel rest within
    have notClosing : ∀ after,
        skipBlanks ((item.chars ++ moreItems more ++ [']']).map some ++ rest) ≠
          some ']' :: after := by
      intro after
      simp only [List.map_append, List.append_assoc]
      exact skipBlanks_chars_ne item _ after
    have read := outlineWith_bracket notClosing fuel
    rw [items] at read
    simpa [chars, Outline.written, Outline.writtenItems] using read
  | .object [], fuel + 1, _, _, _ => rfl
  | .object ((key, value) :: more), fuel + 1, rest, enough, _ => by
    have within : (stringChars key ++ ':' :: value.chars ++ moreMembers more).length < fuel := by
      simp [chars] at enough ⊢
      omega
    have members := membersWith_chars key value more fuel rest within
    simp only [List.map_append, List.append_assoc] at members
    have read := outlineWith_brace key fuel ((':' :: value.chars).map some ++
      ((moreMembers more).map some ++ (['\x7d'].map some ++ rest)))
    rw [members] at read
    simpa [chars, Outline.written, Outline.writtenMembers] using read
  | value, 0, _, enough, _ => by
    obtain ⟨c, more, starts, -⟩ := exists_head_of_chars value
    simp [starts] at enough

/-- The texts of items are read up to the closing bracket. -/
theorem itemsWith_chars : (item : Json) → (more : List Json) → (fuel : Nat) →
    (rest : List Symbol) → (item.chars ++ moreItems more).length < fuel →
      itemsWith fuel ((item.chars ++ moreItems more ++ [']']).map some ++ rest) =
        (.written item :: Outline.writtenItems more, true, rest)
  | item, [], fuel + 1, rest, within => by
    have read := outlineWith_chars item fuel (some ']' :: rest)
      (by simpa [moreItems, Nat.lt_succ_iff] using within) (endsNumber_cons (by decide) rest)
    simpa [moreItems, Outline.writtenItems] using itemsWith_closing read
  | item, next :: more, fuel + 1, rest, within => by
    simp only [moreItems, List.length_append, List.length_cons, List.cons_append] at within
    have read := outlineWith_chars item fuel
      (some ',' :: ((next.chars ++ moreItems more ++ [']']).map some ++ rest)) (by omega)
      (endsNumber_cons (by decide) _)
    have later := itemsWith_chars next more fuel rest (by rw [List.length_append]; omega)
    have found := itemsWith_comma read
    rw [later] at found
    simpa [moreItems, Outline.writtenItems] using found

/-- The texts of members are read up to the closing brace. -/
theorem membersWith_chars : (key : String) → (value : Json) → (more : List (String × Json)) →
    (fuel : Nat) → (rest : List Symbol) →
    (stringChars key ++ ':' :: value.chars ++ moreMembers more).length < fuel →
      membersWith fuel
          ((stringChars key ++ ':' :: value.chars ++ moreMembers more ++ ['\x7d']).map some ++
            rest) =
        ((some key, .written value) :: Outline.writtenMembers more, true, rest)
  | key, value, [], fuel + 1, rest, within => by
    simp only [moreMembers, List.length_append, List.length_cons, List.append_nil] at within
    have read := outlineWith_chars value fuel (some '\x7d' :: rest) (by omega)
      (endsNumber_cons (by decide) rest)
    simpa [moreMembers, Outline.writtenMembers] using membersWith_closing key read
  | key, value, (next, child) :: more, fuel + 1, rest, within => by
    simp only [moreMembers, List.length_append, List.length_cons, List.cons_append] at within
    have read := outlineWith_chars value fuel
      (some ',' :: ((stringChars next ++ ':' :: child.chars ++ moreMembers more ++
        ['\x7d']).map some ++ rest)) (by omega) (endsNumber_cons (by decide) _)
    have later := membersWith_chars next child more fuel rest (by simp; omega)
    have found := membersWith_comma key read
    rw [later] at found
    simpa [moreMembers, Outline.writtenMembers] using found

end

/-- The whole text of a value is read as the written outline of the value. -/
theorem outline_text (value : Json) : outline (symbolsOf value.text) = (.written value, true) := by
  have symbols : symbolsOf value.text = value.chars.map some := by
    rw [symbolsOf, text, String.toList_ofList]
  have read := outlineWith_chars value (2 * (symbolsOf value.text).length + 2) []
    (by rw [symbols, List.length_map]; omega) (by simp [EndsNumber])
  rw [List.append_nil, ← symbols] at read
  unfold outline
  rw [read]
  rfl

/-- The text of a number is read as the number that it denotes. -/
theorem read?_number (number : Number) :
    read? (symbolsOf (Json.number number).text) = number.reread?.map .number := by
  rw [read?, outline_text]
  rfl

end RecordSearch.Json
