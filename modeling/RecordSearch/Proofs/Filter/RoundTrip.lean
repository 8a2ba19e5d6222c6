import Mathlib.Data.List.TakeWhile
import RecordSearch.Proofs.Filter.Written

/-!
# Reading back the text of a filter

The text of a filter has parentheses that the text it was parsed from need not have had, and they
take levels. `fitsAt` counts them on the tree. The text of a well-formed filter is read back as the
filter exactly when the levels suffice, and is refused for its nesting otherwise.
-/

namespace RecordSearch.Filter

/-- The level of what an operand at a level contains: parentheses around it take one. -/
def contentLevel (operand : Filter) (level : Nat) : Nat :=
  match operand with
  | .and _ | .or _ => level + 1
  | _ => level

mutual

/-- Whether the levels suffice for the text of a filter whose contents are at a level. A comparison
and a `not` need their level, and the operand of a `not` is one deeper. Operands that are joined
need the level below, where all but the first of them are. -/
def fitsAt (level : Nat) : Filter → Bool
  | .comparison _ => decide (level < maxDepth)
  | .and children | .or children => decide (level + 1 < maxDepth) && joinedFit level children
  | .not operand => decide (level < maxDepth) && fitsAt (contentLevel operand (level + 1)) operand

/-- Whether the levels suffice for joined operands, the first of them at a level. -/
def joinedFit (level : Nat) : List Filter → Bool
  | [] => true
  | child :: more => fitsAt (contentLevel child level) child && laterFit (level + 1) more

/-- Whether the levels suffice for later operands at a level. -/
def laterFit (level : Nat) : List Filter → Bool
  | [] => true
  | child :: more => fitsAt (contentLevel child level) child && laterFit level more

end

/-- The reading of a text comes to the filter where the levels suffice, and to a refusal for its
nesting otherwise. -/
def ReadsTo (fits : Bool) (f : Filter) (rest : List Token) (reading : Reading) : Prop :=
  if fits then reading = .ok (f, rest) else ∃ place, reading = .error ⟨.shallower, place⟩

section Readings

variable {fits more : Bool} {f g : Filter} {rest after : List Token} {reading : Reading}

/-- A refused reading stays refused, and after a filter that was read the next reading decides. -/
theorem ReadsTo.bind {next : Filter × List Token → Reading} (first : ReadsTo fits f rest reading)
    (second : ReadsTo more g after (next (f, rest))) :
    ReadsTo (fits && more) g after (reading.bind next) := by
  cases fits with
  | true =>
    have read : reading = .ok (f, rest) := first
    rw [read]
    exact second
  | false =>
    obtain ⟨place, refused⟩ := first
    exact ⟨place, by rw [refused]; rfl⟩

/-- Below the deepest level nothing is read. -/
theorem readsTo_deep {level : Nat} (deep : maxDepth ≤ level) (tokens : List Token) :
    ReadsTo false f rest (readUnary level tokens) :=
  ⟨tokens, readUnary_deep deep tokens⟩

/-- What always follows a filter that was read changes nothing of whether the levels suffice. -/
theorem ReadsTo.then {next : Filter × List Token → Reading} (first : ReadsTo fits f rest reading)
    (second : next (f, rest) = .ok (g, after)) : ReadsTo fits g after (reading.bind next) := by
  have always : ReadsTo true g after (next (f, rest)) := second
  have both := first.bind always
  rwa [Bool.and_true] at both

/-- What is made of a filter that was read changes nothing of whether the levels suffice. -/
theorem ReadsTo.map {next : Filter × List Token → Filter × List Token}
    (first : ReadsTo fits f rest reading) (second : next (f, rest) = (g, after)) :
    ReadsTo fits g after (reading.map next) := by
  cases fits with
  | true =>
    have read : reading = .ok (f, rest) := first
    rw [read]
    exact congrArg Except.ok second
  | false =>
    obtain ⟨place, refused⟩ := first
    exact ⟨place, by rw [refused]; rfl⟩

/-- A group is read where its filter is, when its level suffices. -/
theorem ReadsTo.group {level : Nat} {tokens : List Token} {written : List Lexeme}
    (shallow : level < maxDepth) (same : lexemes tokens = .opening :: written ++ [.closing])
    (inner : ∀ {tokens rest}, lexemes tokens = written → StartsNoConnective rest →
      ReadsTo fits f rest (readFilter (level + 1) (tokens ++ rest))) (rest : List Token) :
    ReadsTo fits f rest (readUnary level (tokens ++ rest)) := by
  obtain ⟨token, more, rfl, opening, sameMore⟩ := exists_of_lexemes_cons same
  obtain ⟨inside, ending, rfl, sameInside, sameEnding⟩ := exists_of_lexemes_append sameMore
  obtain ⟨next, nothing, rfl, closing, noLexeme⟩ := exists_of_lexemes_cons sameEnding
  obtain rfl := List.map_eq_nil_iff.1 noLexeme
  have ends : StartsNoConnective (next :: rest) := by
    rintro _ ⟨⟩
    exact connective?_of_closing closing
  rw [List.cons_append, readUnary_opening shallow opening, List.append_assoc]
  exact (inner sameInside ends).then (closeGroup_eq_ok_iff.2 ⟨next, rfl, closing, rfl⟩)

end Readings

section Levels

/-- Nothing fits below the deepest level. -/
theorem fitsAt_deep {level : Nat} (deep : maxDepth ≤ level) (f : Filter) :
    fitsAt (contentLevel f level) f = false := by
  have tooDeep : ¬level < maxDepth := Nat.not_lt.2 deep
  have insideToo : ¬level + 1 + 1 < maxDepth := by omega
  cases f <;> simp [contentLevel, fitsAt, tooDeep, insideToo]

/-- Later operands need the level that they are at. -/
theorem laterFit_deep {level : Nat} (deep : maxDepth ≤ level) (child : Filter)
    (more : List Filter) : laterFit level (child :: more) = false := by
  simp [laterFit, fitsAt_deep deep]

/-- Several joined operands that fit leave room for the level of the later ones. -/
theorem fitsAt_node (connective : Connective) (level : Nat) (first second : Filter)
    (more : List Filter) :
    fitsAt level (connective.node (first :: second :: more)) =
      (fitsAt (contentLevel first level) first && laterFit (level + 1) (second :: more)) := by
  have node : fitsAt level (connective.node (first :: second :: more)) =
      (decide (level + 1 < maxDepth) && joinedFit level (first :: second :: more)) := by
    cases connective <;> simp [Connective.node, fitsAt]
  rw [node, joinedFit]
  by_cases shallow : level + 1 < maxDepth
  · simp [shallow]
  · simp [shallow, laterFit_deep (Nat.not_lt.1 shallow)]

/-- Operands joined by one connective group to its node. -/
theorem grouped_run (connective : Connective) (first second : Filter) (more : List Filter) :
    grouped first ((second :: more).map (Prod.mk connective)) =
      connective.node (first :: second :: more) := by
  have all : ∀ next ∈ more.map (Prod.mk connective), decide (next.1 = connective) = true := by
    intro next isNext
    obtain ⟨operand, -, rfl⟩ := List.mem_map.1 isNext
    simp
  rw [List.map_cons, grouped, List.takeWhile_eq_self_iff.2 all, List.dropWhile_eq_nil_iff.2 all,
    grouped, List.map_map]
  simp [Function.comp_def]

end Levels

section Written

mutual

/-- The lexemes of an operand are read back as it, if they fit. -/
theorem readUnary_written (f : Filter) (wellFormed : WellFormed f) (level : Nat)
    {tokens : List Token} (same : lexemes tokens = enclosedLexemes f f.written)
    (rest : List Token) :
    ReadsTo (fitsAt (contentLevel f level) f) f rest (readUnary level (tokens ++ rest)) := by
  -- Too deep a level is refused before the shape of the operand is looked at.
  by_cases deep : maxDepth ≤ level
  · rw [fitsAt_deep deep]
    exact readsTo_deep deep _
  have shallow : level < maxDepth := Nat.lt_of_not_le deep
  match f with
  | .comparison c =>
    cases wellFormed with
    | comparison field =>
      have fits : fitsAt (contentLevel (.comparison c) level) (.comparison c) = true := by
        simp [contentLevel, fitsAt, shallow]
      rw [fits]
      exact readUnary_of_isField shallow field (Operator.ofWord?_word c.operator)
        (isLiteral_lexeme c.literal) same rest
  | .and children =>
    cases wellFormed with
    | and several all =>
      exact .group shallow same (readFilter_joined .and children several all (level + 1)) rest
  | .or children =>
    cases wellFormed with
    | or several all =>
      exact .group shallow same (readFilter_joined .or children several all (level + 1)) rest
  | .not operand =>
    cases wellFormed with
    | not inner =>
      obtain ⟨token, more, rfl, worded, sameMore⟩ := exists_of_lexemes_cons same
      have isNot : token.keyword? = some .not :=
        Token.keyword?_eq_some_iff.2 ⟨_, worded, Keyword.spells_word _⟩
      have fits : fitsAt (contentLevel (.not operand) level) (.not operand) =
          fitsAt (contentLevel operand (level + 1)) operand := by
        simp [contentLevel, fitsAt, shallow]
      rw [fits, List.cons_append, readUnary_not shallow isNot]
      exact (readUnary_written operand inner (level + 1) sameMore rest).map rfl

/-- The lexemes of joined operands are read back as their node, if they fit. -/
theorem readFilter_joined (connective : Connective) (children : List Filter)
    (several : 2 ≤ children.length) (all : ∀ child ∈ children, WellFormed child) (level : Nat)
    {tokens rest : List Token} (same : lexemes tokens = joinedLexemes connective children)
    (ends : StartsNoConnective rest) :
    ReadsTo (fitsAt level (connective.node children)) (connective.node children) rest
      (readFilter level (tokens ++ rest)) := by
  match children with
  | [] | [_] => simp at several
  | first :: second :: more =>
    obtain ⟨before, after, rfl, sameBefore, sameAfter⟩ := exists_of_lexemes_append same
    have readFirst := readUnary_written first (all first (by simp)) level sameBefore (after ++ rest)
    have readLater := readOperands_later connective (second :: more)
      (fun next isNext => all next (by simp [isNext])) level (.single first) sameAfter ends
    rw [tree_joinAll_single, grouped_run] at readLater
    rw [fitsAt_node, readFilter_eq, List.append_assoc]
    exact readFirst.bind readLater

/-- The lexemes of later operands are read back as them, if they fit. -/
theorem readOperands_later (connective : Connective) (children : List Filter)
    (all : ∀ child ∈ children, WellFormed child) (level : Nat) (operands : Operands)
    {tokens rest : List Token} (same : lexemes tokens = laterLexemes connective children)
    (ends : StartsNoConnective rest) :
    ReadsTo (laterFit (levelAfter operands.connective? connective level) children)
      (operands.joinAll (children.map (Prod.mk connective))).tree rest
      (readOperands level operands (tokens ++ rest)) := by
  match children with
  | [] =>
    obtain rfl := List.map_eq_nil_iff.1 same
    exact readOperands_of_startsNoConnective ends
  | child :: more =>
    obtain ⟨token, others, rfl, worded, sameOthers⟩ := exists_of_lexemes_cons same
    obtain ⟨before, after, rfl, sameBefore, sameAfter⟩ := exists_of_lexemes_append sameOthers
    have joins : token.connective? = some connective :=
      Token.connective?_eq_some_iff.2 ⟨_, worded, Keyword.spells_word _⟩
    by_cases deep : maxDepth ≤ levelAfter operands.connective? connective level
    · rw [laterFit_deep deep, List.cons_append, readOperands_deep joins deep]
      exact ⟨_, rfl⟩
    · have readChild := readUnary_written child (all child (by simp))
        (levelAfter operands.connective? connective level) sameBefore (after ++ rest)
      have readMore := readOperands_later connective more
        (fun next isNext => all next (by simp [isNext]))
        (levelAfter operands.connective? connective level) (operands.join connective child)
        sameAfter ends
      -- From here on the operands are a run of this connective, so no further level is taken.
      have sameLevel : levelAfter (operands.join connective child).connective? connective
          (levelAfter operands.connective? connective level) =
          levelAfter operands.connective? connective level := by
        rw [connective?_join, levelAfter, if_pos rfl]
      rw [sameLevel] at readMore
      rw [laterFit, List.cons_append, readOperands_join joins (Nat.lt_of_not_le deep),
        List.append_assoc]
      exact readChild.bind readMore

end

/-- The lexemes of a filter are read back as it, if they fit. -/
theorem readFilter_written {f : Filter} (wellFormed : WellFormed f) (level : Nat)
    {tokens rest : List Token} (same : lexemes tokens = f.written)
    (ends : StartsNoConnective rest) :
    ReadsTo (f.fitsAt level) f rest (readFilter level (tokens ++ rest)) := by
  match f with
  | .comparison c =>
    rw [readFilter_eq]
    exact (readUnary_written (.comparison c) wellFormed level same rest).then
      (readOperands_of_startsNoConnective ends)
  | .and children =>
    cases wellFormed with
    | and several all => exact readFilter_joined .and children several all level same ends
  | .or children =>
    cases wellFormed with
    | or several all => exact readFilter_joined .or children several all level same ends
  | .not operand =>
    rw [readFilter_eq]
    exact (readUnary_written (.not operand) wellFormed level same rest).then
      (readOperands_of_startsNoConnective ends)

end Written

section Texts

variable {f : Filter}

/-- Tokens that are read up to their end form what was read, if the levels suffice, and are refused
for their nesting otherwise. -/
theorem ofTokens_of_readsTo {fits : Bool} {tokens : List Token} (nonempty : tokens ≠ [])
    (read : ReadsTo fits f [] (readFilter 0 tokens)) :
    if fits then ofTokens tokens = .ok f
    else ∃ place, ofTokens tokens = .error ⟨.shallower, place⟩ := by
  rw [ofTokens_eq, if_neg nonempty]
  cases fits with
  | true =>
    have used : readFilter 0 tokens = .ok (f, []) := read
    rw [used]
    rfl
  | false =>
    obtain ⟨place, refused⟩ := read
    exact ⟨place, by rw [refused]; rfl⟩

/-- A text whose tokens are refused for their nesting is refused for it. -/
theorem parse_of_nesting {text : String} {tokens place : List Token}
    (cut : tokenize text = .ok tokens) (refusal : ofTokens tokens = .error ⟨.shallower, place⟩) :
    ∃ refused, parse text = .error refused ∧ refused.expected = .shallower := by
  refine ⟨Refusal.syntaxError (Text.byteCount text.toList) ⟨.shallower, place⟩, ?_, ?_⟩
  · rw [parse_eq, cut]
    simp only [Except.bind, refusal]
    rfl
  · cases place <;> rfl

/-- The lexemes of a well-formed filter form the filter, if they fit, and are refused for their
nesting otherwise. -/
theorem ofTokens_written (wellFormed : WellFormed f) {tokens : List Token}
    (same : lexemes tokens = f.written) :
    if f.fitsAt 0 then ofTokens tokens = .ok f
    else ∃ place, ofTokens tokens = .error ⟨.shallower, place⟩ := by
  have ends : StartsNoConnective [] := by simp [StartsNoConnective]
  have read := readFilter_written wellFormed 0 same ends
  rw [List.append_nil] at read
  have nonempty : tokens ≠ [] := by
    rintro rfl
    rw [readFilter_eq, readUnary_nil (by decide)] at read
    unfold ReadsTo at read
    split at read <;> simp [Except.bind] at read
  exact ofTokens_of_readsTo nonempty read

/-- The text of a well-formed filter is read back as the filter, if it fits. -/
theorem parse_text_of_fits (wellFormed : WellFormed f) (fits : f.fitsAt 0 = true) :
    parse f.text = .ok f := by
  obtain ⟨tokens, cut, same⟩ := tokenize_text wellFormed
  have formed := ofTokens_written wellFormed same
  rw [if_pos fits] at formed
  exact parse_eq_ok_iff.2 ⟨tokens, cut, formed⟩

/-- The text of a well-formed filter that does not fit is refused for its nesting. -/
theorem parse_text_of_not_fits (wellFormed : WellFormed f) (deep : f.fitsAt 0 = false) :
    ∃ refused, parse f.text = .error refused ∧ refused.expected = .shallower := by
  obtain ⟨tokens, cut, same⟩ := tokenize_text wellFormed
  have formed := ofTokens_written wellFormed same
  rw [deep] at formed
  obtain ⟨place, refusal⟩ := formed
  exact parse_of_nesting cut refusal

/-- The text of a well-formed filter is read back as the filter exactly when it fits. -/
theorem parse_text_iff_fits (wellFormed : WellFormed f) :
    parse f.text = .ok f ↔ f.fitsAt 0 = true := by
  refine ⟨?_, parse_text_of_fits wellFormed⟩
  intro readBack
  by_contra notFits
  have deep : f.fitsAt 0 = false := Bool.eq_false_iff.2 notFits
  obtain ⟨refused, refusal, -⟩ := parse_text_of_not_fits wellFormed deep
  rw [refusal] at readBack
  cases readBack

/-- The filter that holds of every record has the empty text, which is read back. -/
theorem parse_text_always : parse always.text = .ok always := by
  have cut : tokenize always.text = .ok [] := by
    simp [tokenize, text, always, chars, joinedChars, tokensFrom]
  exact parse_eq_ok_iff.2 ⟨[], cut, rfl⟩

end Texts

section NegatedFirst

/-- The comparison of a field with null. -/
def isNull (name : String) : Filter := .comparison ⟨name, .eq, .null⟩

/-- A filter under negations. -/
def negations (count : Nat) (f : Filter) : Filter := Nat.repeat .not count f

/-- Operands of both connectives, the first of them under negations. -/
def negatedFirst (count : Nat) : Filter :=
  .or [.and [negations count (isNull "x"), isNull "y"], isNull "z"]

/-- The operands of `negatedFirst` without parentheses. -/
def negatedFirstText (count : Nat) : String :=
  String.ofList ((List.replicate count "not ".toList).flatten ++
    "x eq null and y eq null or z eq null".toList)

/-- A letter is a field. -/
theorem isField_letter {name : String} {c : Char} (letter : name.toList = [c])
    (start : isFieldStart c = true) (plain : keyword? name = none) : IsField name := by
  refine ⟨⟨[c], [], ⟨c, [], rfl, start, by simp⟩, by simp, by simp [letter]⟩, ?_⟩
  exact keyword?_eq_none_iff.1 plain

/-- Negations are cut as so many keywords. -/
theorem lexes_negations (count : Nat) (rest : List Char) :
    Lexes (List.replicate count "not ".toList).flatten
      (List.replicate count (.word Keyword.not.word)) rest := by
  induction count with
  | zero => exact lexes_nil
  | succ count ih =>
    have word : Lexes "not".toList [.word Keyword.not.word]
        (' ' :: (List.replicate count "not ".toList).flatten ++ rest) :=
      lexes_letters (by decide) (by decide) (startsNoWord_blank _)
    exact word.append ih.afterBlank

/-- Negations take a level each. -/
theorem unary_negations (count level : Nat) {written : List Lexeme} {f : Filter}
    (shallow : level + count < maxDepth) (derived : Unary (level + count) written f) :
    Unary level (List.replicate count (.word Keyword.not.word) ++ written) (negations count f) := by
  induction count generalizing level with
  | zero => exact derived
  | succ count ih =>
    have deeper : level + 1 + count = level + (count + 1) := by omega
    have inner := ih (level + 1) (by omega) (by rwa [deeper])
    exact .negation (by omega) (Keyword.spells_word _) inner

/-- Negations of a comparison fit if their levels do. -/
theorem fitsAt_negations (count level : Nat) (name : String) :
    (negations count (isNull name)).fitsAt level = decide (level + count < maxDepth) := by
  induction count generalizing level with
  | zero => rfl
  | succ count ih =>
    have operand : contentLevel (negations count (isNull name)) (level + 1) = level + 1 := by
      cases count <;> rfl
    have step : (negations (count + 1) (isNull name)).fitsAt level =
        (decide (level < maxDepth) && (negations count (isNull name)).fitsAt (level + 1)) := by
      rw [← operand]
      rfl
    rw [step, ih, ← Bool.decide_and]
    exact decide_eq_decide.2 (by omega)

/-- A comparison with null is a unary filter. -/
theorem unary_isNull {name : String} (field : IsField name) {level : Nat}
    (shallow : level < maxDepth) : Unary level (isNull name).written (isNull name) :=
  .comparison shallow field (Operator.ofWord?_word .eq) (isLiteral_lexeme .null)

/-- The fields of `negatedFirst` can be named. -/
theorem isField_negatedFirst : IsField "x" ∧ IsField "y" ∧ IsField "z" :=
  ⟨isField_letter rfl (by decide) (by decide), isField_letter rfl (by decide) (by decide),
    isField_letter rfl (by decide) (by decide)⟩

/-- The text without parentheses is cut into the lexemes of the operands. -/
theorem lexes_negatedFirstText (count : Nat) :
    Lexes (negatedFirstText count).toList
      (List.replicate count (.word Keyword.not.word) ++ ((isNull "x").written ++
        (laterLexemes .and [isNull "y"] ++ laterLexemes .or [isNull "z"]))) [] := by
  obtain ⟨fieldX, fieldY, fieldZ⟩ := isField_negatedFirst
  have ends : StartsNoWord [] := by simp [StartsNoWord]
  have pieces : "x eq null and y eq null or z eq null".toList =
      (isNull "x").chars ++ (laterChars (joiner .and) [isNull "y"] ++
        laterChars (joiner .or) [isNull "z"]) := by decide
  have endsSecond := startsNoWord_laterChars .or [isNull "z"] ends
  have first := lexes_chars (isNull "x") (.comparison fieldX)
    (startsNoWord_laterChars .and [isNull "y"] endsSecond)
  have second := lexes_laterChars .and [isNull "y"]
    (fun child isChild => List.mem_singleton.1 isChild ▸ .comparison fieldY) endsSecond
  have third := lexes_laterChars .or [isNull "z"]
    (fun child isChild => List.mem_singleton.1 isChild ▸ .comparison fieldZ) ends
  unfold negatedFirstText
  rw [String.toList_ofList, pieces]
  rw [← List.append_assoc] at first
  exact (lexes_negations count _).append (first.append (second.append third))

/-- The operands join from the left. -/
theorem joined_negatedFirst {count : Nat} (shallow : count < maxDepth) :
    Joined 0 (List.replicate count (.word Keyword.not.word) ++ ((isNull "x").written ++
        (laterLexemes .and [isNull "y"] ++ laterLexemes .or [isNull "z"])))
      (negatedFirst count) := by
  obtain ⟨fieldX, fieldY, fieldZ⟩ := isField_negatedFirst
  have first := unary_negations count 0 (by omega) (unary_isNull fieldX (by omega))
  have third : Later 1 (some .and) (laterLexemes .or [isNull "z"]) [(.or, isNull "z")] :=
    .next (Keyword.spells_word _) (by decide) (unary_isNull fieldZ (by decide)) .none
  have second : Later 0 none (laterLexemes .and [isNull "y"] ++ laterLexemes .or [isNull "z"])
      [(.and, isNull "y"), (.or, isNull "z")] :=
    .next (Keyword.spells_word _) (by decide) (unary_isNull fieldY (by decide)) third
  have tree : grouped (negations count (isNull "x")) [(.and, isNull "y"), (.or, isNull "z")] =
      negatedFirst count := by
    simp [grouped, Connective.node, negatedFirst]
  rw [← List.append_assoc, ← tree]
  exact .operands first second

/-- The text without parentheses parses to the operands if the negations have their levels. -/
theorem parse_negatedFirstText {count : Nat} (shallow : count < maxDepth) :
    parse (negatedFirstText count) = .ok (negatedFirst count) := by
  obtain ⟨tokens, cut, same⟩ := tokenize_of_lexes (lexes_negatedFirstText count)
  have derived := joined_negatedFirst shallow
  rw [← same] at derived
  exact parse_eq_ok_iff.2 ⟨tokens, cut, ofTokens_eq_ok_iff.2 (.inr derived)⟩

/-- The text with parentheses needs a level more. -/
theorem fitsAt_negatedFirst (count : Nat) :
    (negatedFirst count).fitsAt 0 = decide (count + 1 < maxDepth) := by
  have inParentheses : contentLevel (negations count (isNull "x")) 1 = 1 := by
    cases count <;> rfl
  have group := fitsAt_node .and 1 (negations count (isNull "x")) (isNull "y") []
  have whole := fitsAt_node .or 0 (.and [negations count (isNull "x"), isNull "y"]) (isNull "z") []
  have second : laterFit 2 [isNull "y"] = true := by decide
  have third : laterFit 1 [isNull "z"] = true := by decide
  rw [second, inParentheses, fitsAt_negations, Bool.and_true, Nat.add_comm] at group
  rw [third, Bool.and_true] at whole
  exact whole.trans group

end NegatedFirst

/-- What a text parses to is read back from its text exactly when it fits, and its text is refused
for its nesting otherwise. -/
theorem parse_text_of_parse (text : String) (f : Filter) (parsed : parse text = .ok f) :
    (parse f.text = .ok f ↔ f.fitsAt 0 = true) ∧
      (f.fitsAt 0 = false →
        ∃ refused, parse f.text = .error refused ∧ refused.expected = .shallower) := by
  rcases wellFormed_of_parse parsed with rfl | wellFormed
  · have fits : always.fitsAt 0 = true := by decide
    exact ⟨iff_of_true parse_text_always fits, fun deep => by simp [fits] at deep⟩
  refine ⟨⟨?_, parse_text_of_fits wellFormed⟩, parse_text_of_not_fits wellFormed⟩
  intro readBack
  cases fits : f.fitsAt 0 with
  | true => rfl
  | false =>
    obtain ⟨refused, refusal, -⟩ := parse_text_of_not_fits wellFormed fits
    rw [refusal] at readBack
    cases readBack

/-- With one negation fewer than levels allow, the operands are read back. -/
theorem parse_text_of_parse_negatedFirst :
    parse (negatedFirstText 62) = .ok (negatedFirst 62) ∧
      parse (negatedFirst 62).text = .ok (negatedFirst 62) := by
  have parsed : parse (negatedFirstText 62) = .ok (negatedFirst 62) :=
    parse_negatedFirstText (by decide)
  have fits : (negatedFirst 62).fitsAt 0 = true := by
    rw [fitsAt_negatedFirst]
    decide
  exact ⟨parsed, (parse_text_of_parse _ _ parsed).1.2 fits⟩

/-- With as many negations as levels allow, the operands are parsed and their text is not. -/
theorem negatedFirst_not_read_back :
    parse (negatedFirstText 63) = .ok (negatedFirst 63) ∧
      parse (negatedFirst 63).text ≠ .ok (negatedFirst 63) := by
  have parsed : parse (negatedFirstText 63) = .ok (negatedFirst 63) :=
    parse_negatedFirstText (by decide)
  have deep : (negatedFirst 63).fitsAt 0 = false := by
    rw [fitsAt_negatedFirst]
    decide
  have wellFormed : WellFormed (negatedFirst 63) :=
    (wellFormed_of_parse parsed).resolve_left (by simp [negatedFirst, always])
  obtain ⟨refused, refusal, -⟩ := parse_text_of_not_fits wellFormed deep
  refine ⟨parsed, ?_⟩
  rw [refusal]
  simp

/-- A filter is read back from its text exactly when it is the one that holds of every record, or it
is well-formed and its text has the levels that it needs. -/
theorem parse_text_eq_ok_iff (f : Filter) :
    parse f.text = .ok f ↔ f = .and [] ∨ WellFormed f ∧ f.fitsAt 0 = true := by
  constructor
  · intro readBack
    rcases wellFormed_of_parse readBack with same | wellFormed
    · exact .inl same
    · exact .inr ⟨wellFormed, (parse_text_iff_fits wellFormed).1 readBack⟩
  · rintro (rfl | ⟨wellFormed, fits⟩)
    · exact parse_text_always
    · exact (parse_text_iff_fits wellFormed).2 fits

end RecordSearch.Filter
