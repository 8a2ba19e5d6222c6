import RecordSearch.Proofs.Filter.Deeper
import RecordSearch.Proofs.Filter.RoundTrip
import RecordSearch.Proofs.Filter.Segments

/-!
# Filters composed as texts

A text that parses can be put into parentheses, under `not` or beside another one. What comes of it
is the filter composed in the same way, or a refusal for the nesting: no text gets out of its
parentheses, and none is regrouped or merged with what stands around it. The levels suffice exactly
when the tokens of the text still derive its filter at the level where they now stand.
-/

namespace RecordSearch.Filter

/-- The tokens of the text derive the filter from a level. -/
def DerivesAt (level : Nat) (text : String) (f : Filter) : Prop :=
  ∃ tokens, tokenize text = .ok tokens ∧ Joined level (lexemes tokens) f

/-- The text parses to the filter where the levels suffice, and is refused for its nesting
otherwise. -/
def ParsesWhere (fits : Prop) (text : String) (f : Filter) : Prop :=
  fits ∧ parse text = .ok f ∨
    ¬fits ∧ ∃ refused, parse text = .error refused ∧ refused.expected = .shallower

section Readings

variable {level : Nat} {written : List Lexeme} {f : Filter} {fits : Bool}

/-- What derives a filter from the first level is read as it wherever it still derives it, and is
refused for its nesting elsewhere. -/
theorem readsTo_of_joined (derived : Joined 0 written f)
    (fitting : fits = true ↔ Joined level written f) {tokens rest : List Token}
    (same : lexemes tokens = written) (ends : StartsNoConnective rest) :
    ReadsTo fits f rest (readFilter level (tokens ++ rest)) := by
  have readFirst := readFilter_of_joined derived same ends
  cases fits with
  | true => exact readFilter_of_joined (fitting.1 rfl) same ends
  | false =>
    rcases readFilter_deeper (Nat.zero_le level) (tokens ++ rest) with refused | agrees
    · exact refused
    · -- A reading at the level would derive the filter there.
      obtain ⟨used, split, derivedThere⟩ := joined_of_readFilter (agrees.trans readFirst)
      rw [List.append_cancel_right split] at same
      exact absurd (fitting.2 (same ▸ derivedThere)) Bool.false_ne_true

/-- The same in parentheses. -/
theorem readsTo_group (shallow : level < maxDepth) (derived : Joined 0 written f)
    (fitting : fits = true ↔ Joined (level + 1) written f) {tokens : List Token}
    (same : lexemes tokens = .opening :: written ++ [.closing]) (rest : List Token) :
    ReadsTo fits f rest (readUnary level (tokens ++ rest)) :=
  .group shallow same (readsTo_of_joined derived fitting) rest

end Readings

section Texts

variable {text : String} {written : List Lexeme} {f : Filter}

/-- A text parses as its lexemes are read up to their end. -/
theorem parsesWhere_of_readsTo {fits : Bool} {condition : Prop}
    (fitting : fits = true ↔ condition) (cut : Lexes text.toList written [])
    (nonempty : written ≠ [])
    (read : ∀ tokens, lexemes tokens = written → ReadsTo fits f [] (readFilter 0 tokens)) :
    ParsesWhere condition text f := by
  obtain ⟨tokens, tokenized, same⟩ := tokenize_of_lexes cut
  have someTokens : tokens ≠ [] := by
    rintro rfl
    exact nonempty same.symm
  have formed := ofTokens_of_readsTo someTokens (read tokens same)
  cases fits with
  | true => exact .inl ⟨fitting.1 rfl, parse_eq_ok_iff.2 ⟨tokens, tokenized, formed⟩⟩
  | false =>
    obtain ⟨place, refusal⟩ := formed
    have unfit : ¬condition := fun holds => Bool.false_ne_true (fitting.2 holds)
    exact .inr ⟨unfit, parse_of_nesting tokenized refusal⟩

/-- A text in parentheses is cut as it is, between them. -/
theorem lexes_group {tokens : List Token} (cut : tokenize text = .ok tokens) (rest : List Char) :
    Lexes ('(' :: text.toList ++ [')']) (.opening :: lexemes tokens ++ [.closing]) rest :=
  (lexes_opening.append (lexes_of_tokenize cut (startsNoWord_closing rest))).append lexes_closing

/-- A text that parses and has tokens derives its filter from the first level. -/
theorem exists_joined_of_parse (hasTokens : tokenize text ≠ .ok []) (parsed : parse text = .ok f) :
    ∃ tokens, tokenize text = .ok tokens ∧ Joined 0 (lexemes tokens) f := by
  obtain ⟨tokens, cut, ⟨rfl, -⟩ | derived⟩ := (parse_eq_ok_iff_derives text f).1 parsed
  · exact absurd cut hasTokens
  · exact ⟨tokens, cut, derived⟩

/-- A text that parses to anything but the filter that always holds has tokens. -/
theorem tokenize_ne_nil_of_parse {text : String} {f : Filter} (parsed : parse text = .ok f)
    (other : f ≠ always) : tokenize text ≠ .ok [] := by
  intro none
  have formed : parse text = .ok always := parse_eq_ok_iff.2 ⟨[], none, rfl⟩
  cases parsed.symm.trans formed
  exact other rfl

/-- The tokens of a text derive a filter from a level when its only tokens do. -/
theorem derivesAt_iff {tokens : List Token} (cut : tokenize text = .ok tokens) (level : Nat) :
    DerivesAt level text f ↔ Joined level (lexemes tokens) f := by
  constructor
  · rintro ⟨others, cutOthers, derived⟩
    cases cut.symm.trans cutOthers
    exact derived
  · intro derived
    exact ⟨tokens, cut, derived⟩

end Texts

section Composed

variable {x y : String} {xTokens yTokens : List Token} {f g : Filter}

/-- A text in parentheses parses to its filter, if the levels suffice. -/
theorem parsesWhere_group (cut : tokenize x = .ok xTokens)
    (derived : Joined 0 (lexemes xTokens) f) :
    ParsesWhere (DerivesAt 1 x f) ("(" ++ x ++ ")") f := by
  classical
  have pieces : Lexes ("(" ++ x ++ ")").toList (.opening :: lexemes xTokens ++ [.closing]) [] := by
    simpa using lexes_group cut []
  refine parsesWhere_of_readsTo decide_eq_true_iff pieces (by simp) ?_
  intro tokens same
  have read := readsTo_group (by decide) derived
    (decide_eq_true_iff.trans (derivesAt_iff cut 1)) same []
  rw [List.append_nil] at read
  rw [readFilter_eq]
  exact read.then readOperands_nil

/-- A text in parentheses under `not` parses to the negation of its filter, if the levels
suffice. -/
theorem parsesWhere_not (cut : tokenize x = .ok xTokens)
    (derived : Joined 0 (lexemes xTokens) f) :
    ParsesWhere (DerivesAt 2 x f) ("not (" ++ x ++ ")") (.not f) := by
  classical
  have pieces : Lexes ("not (" ++ x ++ ")").toList
      (.word Keyword.not.word :: (.opening :: lexemes xTokens ++ [.closing])) [] := by
    have word : Lexes "not".toList [.word Keyword.not.word]
        (' ' :: ('(' :: x.toList ++ [')']) ++ []) :=
      lexes_letters (by decide) (by decide) (startsNoWord_blank _)
    have both := word.append (lexes_group cut []).afterBlank
    simpa using both
  refine parsesWhere_of_readsTo decide_eq_true_iff pieces (by simp) ?_
  intro tokens same
  obtain ⟨token, group, rfl, worded, sameGroup⟩ := exists_of_lexemes_cons same
  have isNot : token.keyword? = some .not :=
    Token.keyword?_eq_some_iff.2 ⟨_, worded, Keyword.spells_word _⟩
  have read := readsTo_group (by decide) derived
    (decide_eq_true_iff.trans (derivesAt_iff cut 2)) sameGroup []
  rw [List.append_nil] at read
  rw [readFilter_eq, readUnary_not (by decide) isNot]
  have negated : ReadsTo (decide (DerivesAt 2 x f)) (.not f) []
      ((readUnary 1 group).map fun found => (.not found.1, found.2)) := read.map rfl
  exact negated.then readOperands_nil

/-- Two texts in parentheses around a connective parse to its node of their filters, if the levels
suffice. -/
theorem parsesWhere_joined (connective : Connective) (cutX : tokenize x = .ok xTokens)
    (cutY : tokenize y = .ok yTokens) (derivedX : Joined 0 (lexemes xTokens) f)
    (derivedY : Joined 0 (lexemes yTokens) g) {text : String}
    (parts : text.toList =
      ('(' :: x.toList ++ [')']) ++ (joiner connective ++ ('(' :: y.toList ++ [')']))) :
    ParsesWhere (DerivesAt 1 x f ∧ DerivesAt 2 y g) text (connective.node [f, g]) := by
  classical
  have pieces : Lexes text.toList ((.opening :: lexemes xTokens ++ [.closing]) ++
      ([.word (connectiveKeyword connective).word] ++
        (.opening :: lexemes yTokens ++ [.closing]))) [] := by
    rw [parts]
    exact (lexes_group cutX _).append ((lexes_joiner connective _).append (lexes_group cutY []))
  have both : (decide (DerivesAt 1 x f) && decide (DerivesAt 2 y g)) = true ↔
      DerivesAt 1 x f ∧ DerivesAt 2 y g := by
    rw [Bool.and_eq_true, decide_eq_true_iff, decide_eq_true_iff]
  refine parsesWhere_of_readsTo both pieces (by simp) ?_
  intro tokens same
  obtain ⟨first, later, rfl, sameFirst, sameLater⟩ := exists_of_lexemes_append same
  obtain ⟨token, second, rfl, worded, sameSecond⟩ := exists_of_lexemes_cons sameLater
  have joins : token.connective? = some connective :=
    Token.connective?_eq_some_iff.2 ⟨_, worded, Keyword.spells_word _⟩
  have readFirst := readsTo_group (by decide) derivedX
    (decide_eq_true_iff.trans (derivesAt_iff cutX 1)) sameFirst (token :: second)
  have readSecond := readsTo_group (by decide) derivedY
    (decide_eq_true_iff.trans (derivesAt_iff cutY 2)) sameSecond []
  rw [List.append_nil] at readSecond
  rw [readFilter_eq]
  refine readFirst.bind ?_
  have next : levelAfter (Operands.single f).connective? connective 0 = 1 := rfl
  dsimp only
  rw [readOperands_join joins (by rw [next]; decide), next]
  exact readSecond.then readOperands_nil

end Composed

/-- Texts that parse and have tokens compose: in parentheses, under `not` and beside each other they
parse to the filters composed in the same way, where the levels suffice, and are refused for their
nesting otherwise. -/
theorem parse_composed (x y : String) (f g : Filter) (tokensX : tokenize x ≠ .ok [])
    (tokensY : tokenize y ≠ .ok []) (parsedX : parse x = .ok f) (parsedY : parse y = .ok g) :
    ParsesWhere (DerivesAt 1 x f) ("(" ++ x ++ ")") f ∧
      ParsesWhere (DerivesAt 2 x f) ("not (" ++ x ++ ")") (.not f) ∧
      ParsesWhere (DerivesAt 1 x f ∧ DerivesAt 2 y g) ("(" ++ x ++ ") and (" ++ y ++ ")")
        (.and [f, g]) ∧
      ParsesWhere (DerivesAt 1 x f ∧ DerivesAt 2 y g) ("(" ++ x ++ ") or (" ++ y ++ ")")
        (.or [f, g]) := by
  obtain ⟨xTokens, cutX, derivedX⟩ := exists_joined_of_parse tokensX parsedX
  obtain ⟨yTokens, cutY, derivedY⟩ := exists_joined_of_parse tokensY parsedY
  have andParts : ("(" ++ x ++ ") and (" ++ y ++ ")").toList =
      ('(' :: x.toList ++ [')']) ++ (joiner .and ++ ('(' :: y.toList ++ [')'])) := by
    simp [joiner, connectiveKeyword, Keyword.word]
  have orParts : ("(" ++ x ++ ") or (" ++ y ++ ")").toList =
      ('(' :: x.toList ++ [')']) ++ (joiner .or ++ ('(' :: y.toList ++ [')'])) := by
    simp [joiner, connectiveKeyword, Keyword.word]
  exact ⟨parsesWhere_group cutX derivedX, parsesWhere_not cutX derivedX,
    parsesWhere_joined .and cutX cutY derivedX derivedY andParts,
    parsesWhere_joined .or cutX cutY derivedX derivedY orParts⟩

/-- A parenthesis in a string and negations that leave one level compose. -/
theorem parse_composed_quoted :
    parse "x eq \")\"" = .ok (.comparison ⟨"x", .eq, .string ")"⟩) ∧
      parse (negatedFirstText 62) = .ok (negatedFirst 62) ∧
      ParsesWhere
        (DerivesAt 1 "x eq \")\"" (.comparison ⟨"x", .eq, .string ")"⟩) ∧
          DerivesAt 2 (negatedFirstText 62) (negatedFirst 62))
        ("(" ++ "x eq \")\"" ++ ") and (" ++ negatedFirstText 62 ++ ")")
        (.and [.comparison ⟨"x", .eq, .string ")"⟩, negatedFirst 62]) := by
  have written : (Filter.comparison ⟨"x", .eq, .string ")"⟩).text = "x eq \")\"" := by decide
  have parsedX : parse "x eq \")\"" = .ok (.comparison ⟨"x", .eq, .string ")"⟩) := by
    rw [← written]
    exact parse_text_of_fits (.comparison isField_negatedFirst.1) (by decide)
  have parsedY : parse (negatedFirstText 62) = .ok (negatedFirst 62) :=
    parse_negatedFirstText (by decide)
  have tokensX := tokenize_ne_nil_of_parse parsedX (by simp [always])
  have tokensY := tokenize_ne_nil_of_parse parsedY (by simp [negatedFirst, always])
  have composed := parse_composed _ _ _ _ tokensX tokensY parsedX parsedY
  exact ⟨parsedX, parsedY, composed.2.2.1⟩

end RecordSearch.Filter
