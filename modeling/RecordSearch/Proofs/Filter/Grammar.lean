import RecordSearch.Proofs.Filter.Names
import RecordSearch.Proofs.Filter.Reading

/-!
# The grammar of filters

Which lexemes derive which tree at which level, apart from how they are read. A unary filter takes
its level, `not` and parentheses take one more for what they hold, and so does every connective
that differs from the one before it. The operands of one filter group to the left, and a run of one
connective among them is one node; a group in parentheses stays a node of its own, because its tree
is an operand like any other.

The readers are sound and complete for this grammar: `unary_of_readUnary` and its companions follow
the recursion of the readers, `readUnary_of_unary` and its companions the derivation.
-/

namespace RecordSearch.Filter

/-- A literal as it stands in a filter: a quoted string, or a word that is no keyword. -/
inductive IsLiteral : Lexeme → Literal → Prop where
  | quoted {text : String} : IsLiteral (.quoted text) (.string text)
  | word {text : String} (plain : ∀ keyword : Keyword, ¬keyword.Spells text) :
    IsLiteral (.word text) (wordLiteral text)

/-- The tree of operands that follow each other: each run of one connective becomes one node, whose
first child is the tree of all operands before the run. -/
def grouped (first : Filter) : List (Connective × Filter) → Filter
  | [] => first
  | (connective, operand) :: more =>
    grouped (connective.node
        (first :: operand :: (more.takeWhile fun next => next.1 = connective).map Prod.snd))
      (more.dropWhile fun next => next.1 = connective)
termination_by operands => operands.length
decreasing_by exact Nat.lt_succ_of_le (List.dropWhile_sublist _).length_le

mutual

/-- The lexemes derive a unary filter at a level. -/
inductive Unary : Nat → List Lexeme → Filter → Prop where
  | negation {level : Nat} {word : String} {operand : List Lexeme} {f : Filter}
    (shallow : level < maxDepth) (spelled : Keyword.not.Spells word)
    (derived : Unary (level + 1) operand f) : Unary level (.word word :: operand) (.not f)
  | group {level : Nat} {inner : List Lexeme} {f : Filter} (shallow : level < maxDepth)
    (derived : Joined (level + 1) inner f) : Unary level (.opening :: inner ++ [.closing]) f
  | comparison {level : Nat} {name word : String} {operator : Operator} {last : Lexeme}
    {literal : Literal} (shallow : level < maxDepth) (field : IsField name)
    (spelled : Operator.ofWord? word = some operator) (denoted : IsLiteral last literal) :
    Unary level [.word name, .word word, last] (.comparison ⟨name, operator, literal⟩)

/-- The lexemes derive a filter whose first operand is at a level. -/
inductive Joined : Nat → List Lexeme → Filter → Prop where
  | operands {level : Nat} {first rest : List Lexeme} {f : Filter}
    {later : List (Connective × Filter)} (derived : Unary level first f)
    (joined : Later level none rest later) : Joined level (first ++ rest) (grouped f later)

/-- The lexemes derive operands, each after its connective, that follow a connective or the first
operand at a level. -/
inductive Later : Nat → Option Connective → List Lexeme → List (Connective × Filter) → Prop where
  | none {level : Nat} {last : Option Connective} : Later level last [] []
  | next {level : Nat} {last : Option Connective} {connective : Connective} {word : String}
    {operand rest : List Lexeme} {f : Filter} {later : List (Connective × Filter)}
    (spelled : (connectiveKeyword connective).Spells word)
    (shallow : levelAfter last connective level < maxDepth)
    (derived : Unary (levelAfter last connective level) operand f)
    (joined : Later (levelAfter last connective level) (some connective) rest later) :
    Later level last (.word word :: operand ++ rest) ((connective, f) :: later)

end

/-- The lexemes of tokens. -/
def lexemes (tokens : List Token) : List Lexeme := tokens.map Token.lexeme

@[simp]
theorem lexemes_nil : lexemes [] = [] := rfl

@[simp]
theorem lexemes_cons (token : Token) (rest : List Token) :
    lexemes (token :: rest) = token.lexeme :: lexemes rest := rfl

@[simp]
theorem lexemes_append (left right : List Token) :
    lexemes (left ++ right) = lexemes left ++ lexemes right := List.map_append

section Runs

/-- The operands with more of them joined, one after another. -/
def Operands.joinAll (operands : Operands) (later : List (Connective × Filter)) : Operands :=
  later.foldl (fun operands next => operands.join next.1 next.2) operands

/-- Operands joined to a run extend it for as long as their connective is that of the run. -/
theorem tree_joinAll_run (connective : Connective) (children : Array Filter)
    (later : List (Connective × Filter)) :
    ((Operands.run connective children).joinAll later).tree =
      grouped (connective.node
          (children.toList ++ (later.takeWhile fun next => next.1 = connective).map Prod.snd))
        (later.dropWhile fun next => next.1 = connective) := by
  induction later generalizing connective children with
  | nil => simp [Operands.joinAll, Operands.tree, grouped]
  | cons next later ih =>
    obtain ⟨own, operand⟩ := next
    by_cases same : connective = own
    · subst same
      have joined := ih connective (children.push operand)
      simpa [Operands.joinAll, Operands.join] using joined
    · have other : own ≠ connective := Ne.symm same
      have joined := ih own #[connective.node children.toList, operand]
      simpa [Operands.joinAll, Operands.join, same, other, grouped] using joined

/-- The operands joined one after another form the tree of their runs. -/
theorem tree_joinAll_single (first : Filter) (later : List (Connective × Filter)) :
    ((Operands.single first).joinAll later).tree = grouped first later := by
  cases later with
  | nil => simp [Operands.joinAll, Operands.tree, grouped]
  | cons next later =>
    obtain ⟨connective, operand⟩ := next
    rw [grouped]
    exact tree_joinAll_run connective #[first, operand] later

/-- Joined operands go on with the connective that joined them. -/
theorem connective?_join (connective : Connective) (operand : Filter) (operands : Operands) :
    (operands.join connective operand).connective? = some connective := by
  cases operands with
  | single first => rfl
  | run own children =>
    by_cases same : own = connective
    · simp [Operands.join, same, Operands.connective?]
    · simp [Operands.join, same, Operands.connective?]

end Runs

/-- A token denotes the literals of the grammar. -/
theorem Token.literal?_eq_some_iff {token : Token} {literal : Literal} :
    token.literal? = some literal ↔ IsLiteral token.lexeme literal := by
  unfold Token.literal?
  cases token.lexeme with
  | quoted text =>
    constructor
    · intro denoted
      cases denoted
      exact .quoted
    · rintro ⟨⟩
      rfl
  | word text =>
    dsimp only
    constructor
    · intro denoted
      by_cases plain : Filter.keyword? text = none
      · rw [if_pos plain] at denoted
        cases denoted
        exact .word (keyword?_eq_none_iff.1 plain)
      · rw [if_neg plain] at denoted
        cases denoted
    · intro denoted
      cases denoted with
      | word plain => rw [if_pos (keyword?_eq_none_iff.2 plain)]
  | opening =>
    constructor
    · intro denoted; cases denoted
    · intro denoted; cases denoted
  | closing =>
    constructor
    · intro denoted; cases denoted
    · intro denoted; cases denoted

section Soundness

/-- A comparison that is read is a unary filter. -/
theorem unary_of_readComparison {depth : Nat} {tokens rest : List Token} {f : Filter}
    (shallow : depth < maxDepth) (read : readComparison tokens = .ok (f, rest)) :
    ∃ used, tokens = used ++ rest ∧ Unary depth (lexemes used) f := by
  obtain ⟨first, second, third, name, operator, literal, rfl, isField, isOperator, isLiteral,
    rfl⟩ := readComparison_eq_ok_iff.1 read
  obtain ⟨named, field⟩ := Token.field?_eq_some_iff.1 isField
  obtain ⟨word, worded, spelled⟩ := Token.operator?_eq_some_iff.1 isOperator
  refine ⟨[first, second, third], rfl, ?_⟩
  simp only [lexemes_cons, lexemes_nil, named, worded]
  exact .comparison shallow field spelled (Token.literal?_eq_some_iff.1 isLiteral)

/-- What closes a group is a parenthesis after its filter. -/
theorem closeGroup_eq_ok_iff {inner f : Filter} {tokens rest : List Token} :
    closeGroup inner tokens = .ok (f, rest) ↔
      ∃ next, tokens = next :: rest ∧ next.lexeme = .closing ∧ f = inner := by
  cases tokens with
  | nil => simp [closeGroup]
  | cons next after =>
    by_cases closing : next.lexeme = .closing
    · simp only [closeGroup, if_pos closing, Except.ok.injEq, Prod.mk.injEq, List.cons.injEq]
      constructor
      · rintro ⟨rfl, rfl⟩
        exact ⟨next, ⟨rfl, rfl⟩, closing, rfl⟩
      · rintro ⟨_, ⟨rfl, rfl⟩, -, rfl⟩
        exact ⟨rfl, rfl⟩
    · simp only [closeGroup, if_neg closing, reduceCtorEq, List.cons.injEq, false_iff]
      rintro ⟨_, ⟨rfl, rfl⟩, closes, -⟩
      exact closing closes

mutual

/-- A unary filter that is read is derived by the tokens that it takes. -/
theorem unary_of_readUnary {depth : Nat} {tokens rest : List Token} {f : Filter}
    (read : readUnary depth tokens = .ok (f, rest)) :
    ∃ used, tokens = used ++ rest ∧ Unary depth (lexemes used) f := by
  by_cases deep : maxDepth ≤ depth
  · rw [readUnary_deep deep] at read
    cases read
  have shallow : depth < maxDepth := Nat.lt_of_not_le deep
  match tokens with
  | [] =>
    rw [readUnary_nil shallow] at read
    cases read
  | token :: after =>
    by_cases isNot : token.keyword? = some .not
    · rw [readUnary_not shallow isNot] at read
      obtain ⟨⟨operand, left⟩, inner, same⟩ := map_eq_ok_iff.1 read
      cases same
      obtain ⟨used, split, derived⟩ := unary_of_readUnary inner
      obtain ⟨word, worded, spelled⟩ := Token.keyword?_eq_some_iff.1 isNot
      refine ⟨token :: used, by rw [split]; rfl, ?_⟩
      rw [lexemes_cons, worded]
      exact .negation shallow spelled derived
    · by_cases opening : token.lexeme = .opening
      · rw [readUnary_opening shallow opening] at read
        obtain ⟨⟨inner, left⟩, readInner, closed⟩ := bind_eq_ok_iff.1 read
        dsimp only at closed
        obtain ⟨next, ends, closing, rfl⟩ := closeGroup_eq_ok_iff.1 closed
        obtain ⟨used, split, derived⟩ := joined_of_readFilter readInner
        refine ⟨token :: used ++ [next], by simp [split, ends], ?_⟩
        rw [lexemes_append, lexemes_cons, lexemes_cons, opening, closing]
        exact .group shallow derived
      · rw [readUnary_comparison shallow isNot opening] at read
        exact unary_of_readComparison shallow read
termination_by (tokens.length, 0)

/-- A filter that is read is derived by the tokens that it takes. -/
theorem joined_of_readFilter {depth : Nat} {tokens rest : List Token} {f : Filter}
    (read : readFilter depth tokens = .ok (f, rest)) :
    ∃ used, tokens = used ++ rest ∧ Joined depth (lexemes used) f := by
  rw [readFilter_eq] at read
  obtain ⟨⟨first, left⟩, readFirst, readLater⟩ := bind_eq_ok_iff.1 read
  dsimp only at readLater
  have fewer : left.length < tokens.length := length_of_readUnary readFirst
  obtain ⟨used, split, derived⟩ := unary_of_readUnary readFirst
  obtain ⟨more, later, splitMore, joined, rfl⟩ := later_of_readOperands readLater
  refine ⟨used ++ more, by rw [split, splitMore, List.append_assoc], ?_⟩
  rw [lexemes_append, tree_joinAll_single]
  exact .operands derived joined
termination_by (tokens.length, 1)

/-- Operands that are read are derived by the tokens that they take and join those before them. -/
theorem later_of_readOperands {level : Nat} {operands : Operands} {tokens rest : List Token}
    {f : Filter} (read : readOperands level operands tokens = .ok (f, rest)) :
    ∃ used later, tokens = used ++ rest ∧
      Later level operands.connective? (lexemes used) later ∧
        f = (operands.joinAll later).tree := by
  match tokens with
  | [] =>
    rw [readOperands_nil] at read
    cases read
    exact ⟨[], [], rfl, .none, rfl⟩
  | token :: after =>
    cases joins : token.connective? with
    | none =>
      rw [readOperands_stop joins] at read
      cases read
      exact ⟨[], [], rfl, .none, rfl⟩
    | some connective =>
      by_cases deep : maxDepth ≤ levelAfter operands.connective? connective level
      · rw [readOperands_deep joins deep] at read
        cases read
      have shallow := Nat.lt_of_not_le deep
      rw [readOperands_join joins shallow] at read
      obtain ⟨⟨operand, left⟩, readOperand, readLater⟩ := bind_eq_ok_iff.1 read
      dsimp only at readLater
      have fewer : left.length < after.length := length_of_readUnary readOperand
      obtain ⟨used, split, derived⟩ := unary_of_readUnary readOperand
      obtain ⟨more, later, splitMore, joined, rfl⟩ := later_of_readOperands readLater
      obtain ⟨word, worded, spelled⟩ := Token.connective?_eq_some_iff.1 joins
      refine ⟨token :: used ++ more, (connective, operand) :: later, by simp [split, splitMore], ?_,
        rfl⟩
      rw [connective?_join] at joined
      rw [lexemes_append, lexemes_cons, worded]
      exact .next spelled shallow derived joined
termination_by (tokens.length, 0)

end

end Soundness

section Completeness

/-- The tokens do not start with a connective, so no operand follows in front of them. -/
def StartsNoConnective (tokens : List Token) : Prop :=
  ∀ token ∈ tokens.head?, token.connective? = none

/-- A closing parenthesis is no connective. -/
theorem connective?_of_closing {token : Token} (closing : token.lexeme = .closing) :
    token.connective? = none := by
  simp [Token.connective?, Token.keyword?, closing]

/-- Operands end in front of tokens that start with no connective. -/
theorem readOperands_of_startsNoConnective {level : Nat} {operands : Operands} {rest : List Token}
    (ends : StartsNoConnective rest) :
    readOperands level operands rest = .ok (operands.tree, rest) := by
  cases rest with
  | nil => exact readOperands_nil
  | cons token after => exact readOperands_stop (ends token rfl)

/-- Tokens with these lexemes are one token with the first of them and tokens with the others. -/
theorem exists_of_lexemes_cons {tokens : List Token} {first : Lexeme} {others : List Lexeme}
    (same : lexemes tokens = first :: others) :
    ∃ token more, tokens = token :: more ∧ token.lexeme = first ∧ lexemes more = others := by
  obtain ⟨token, more, split, starts, goesOn⟩ := List.map_eq_cons_iff.1 same
  exact ⟨token, more, split, starts, goesOn⟩

/-- Tokens with the lexemes of two lists are tokens with those of each. -/
theorem exists_of_lexemes_append {tokens : List Token} {left right : List Lexeme}
    (same : lexemes tokens = left ++ right) :
    ∃ before after, tokens = before ++ after ∧ lexemes before = left ∧ lexemes after = right :=
  List.map_eq_append_iff.1 same

/-- A field, an operator and a literal are read as their comparison, whatever follows them. -/
theorem readUnary_of_isField {level : Nat} {name word : String} {operator : Operator}
    {last : Lexeme} {literal : Literal} (shallow : level < maxDepth) (field : IsField name)
    (spelled : Operator.ofWord? word = some operator) (denoted : IsLiteral last literal)
    {tokens : List Token} (same : lexemes tokens = [.word name, .word word, last])
    (rest : List Token) :
    readUnary level (tokens ++ rest) = .ok (.comparison ⟨name, operator, literal⟩, rest) := by
  obtain ⟨first, more, rfl, named, sameMore⟩ := exists_of_lexemes_cons same
  obtain ⟨second, ending, rfl, worded, sameEnding⟩ := exists_of_lexemes_cons sameMore
  obtain ⟨third, nothing, rfl, final, noLexeme⟩ := exists_of_lexemes_cons sameEnding
  obtain rfl := List.map_eq_nil_iff.1 noLexeme
  have notKeyword : first.keyword? ≠ some .not := by
    intro isNot
    obtain ⟨text, isWord, spells⟩ := Token.keyword?_eq_some_iff.1 isNot
    rw [named] at isWord
    cases isWord
    exact field.2 _ spells
  have notOpening : first.lexeme ≠ .opening := by simp [named]
  rw [List.cons_append, readUnary_comparison shallow notKeyword notOpening]
  exact readComparison_eq_ok_iff.2 ⟨first, second, third, name, operator, literal, rfl,
    Token.field?_eq_some_iff.2 ⟨named, field⟩,
    Token.operator?_eq_some_iff.2 ⟨word, worded, spelled⟩,
    Token.literal?_eq_some_iff.2 (final ▸ denoted), rfl⟩

mutual

/-- A unary filter that is derived is read, whatever follows it. -/
theorem readUnary_of_unary {level : Nat} {written : List Lexeme} {f : Filter}
    (derived : Unary level written f) {tokens : List Token} (same : lexemes tokens = written)
    (rest : List Token) : readUnary level (tokens ++ rest) = .ok (f, rest) := by
  cases derived with
  | negation shallow spelled inner =>
    -- The split is kept as an equation: the recursion is on the length of the tokens.
    obtain ⟨token, operand, split, worded, sameOperand⟩ := exists_of_lexemes_cons same
    have fewer : operand.length < tokens.length := by simp [split]
    have isNot : token.keyword? = some .not := Token.keyword?_eq_some_iff.2 ⟨_, worded, spelled⟩
    rw [split, List.cons_append, readUnary_not shallow isNot,
      readUnary_of_unary inner sameOperand rest]
    rfl
  | group shallow inner =>
    obtain ⟨token, more, split, opening, sameMore⟩ := exists_of_lexemes_cons same
    obtain ⟨inside, ending, splitMore, sameInside, sameEnding⟩ := exists_of_lexemes_append sameMore
    have fewer : inside.length < tokens.length := by
      simp only [split, splitMore, List.length_cons, List.length_append]
      omega
    obtain ⟨next, nothing, rfl, closing, noLexeme⟩ := exists_of_lexemes_cons sameEnding
    obtain rfl := List.map_eq_nil_iff.1 noLexeme
    have ends : StartsNoConnective (next :: rest) := by
      rintro _ ⟨⟩
      exact connective?_of_closing closing
    rw [split, splitMore, List.cons_append, readUnary_opening shallow opening, List.append_assoc,
      List.singleton_append, readFilter_of_joined inner sameInside ends]
    exact closeGroup_eq_ok_iff.2 ⟨next, rfl, closing, rfl⟩
  | comparison shallow field spelled denoted =>
    exact readUnary_of_isField shallow field spelled denoted same rest
termination_by (tokens.length, 0)

/-- A filter that is derived is read in front of tokens that start with no connective. -/
theorem readFilter_of_joined {level : Nat} {written : List Lexeme} {f : Filter}
    (derived : Joined level written f) {tokens : List Token} (same : lexemes tokens = written)
    {rest : List Token} (ends : StartsNoConnective rest) :
    readFilter level (tokens ++ rest) = .ok (f, rest) := by
  cases derived with
  | operands first joined =>
    obtain ⟨before, after, split, sameBefore, sameAfter⟩ := exists_of_lexemes_append same
    have shorter : before.length ≤ tokens.length ∧ after.length ≤ tokens.length := by simp [split]
    rw [readFilter_eq, split, List.append_assoc,
      readUnary_of_unary first sameBefore (after ++ rest)]
    simp only [Except.bind]
    rw [readOperands_of_later joined sameAfter rfl ends, tree_joinAll_single]
termination_by (tokens.length, 1)
decreasing_by all_goals exact Prod.Lex.right' _ (by omega) Nat.zero_lt_one

/-- Operands that are derived are read in front of tokens that start with no connective, and join
those before them. -/
theorem readOperands_of_later {level : Nat} {last : Option Connective} {written : List Lexeme}
    {later : List (Connective × Filter)} (derived : Later level last written later)
    {tokens : List Token} (same : lexemes tokens = written) {operands : Operands}
    (own : operands.connective? = last) {rest : List Token} (ends : StartsNoConnective rest) :
    readOperands level operands (tokens ++ rest) = .ok ((operands.joinAll later).tree, rest) := by
  cases derived with
  | none =>
    obtain rfl := List.map_eq_nil_iff.1 same
    exact readOperands_of_startsNoConnective ends
  | next spelled shallow first joined =>
    obtain ⟨token, more, split, worded, sameMore⟩ := exists_of_lexemes_cons same
    obtain ⟨before, after, splitMore, sameBefore, sameAfter⟩ := exists_of_lexemes_append sameMore
    have shorter : before.length < tokens.length ∧ after.length < tokens.length := by
      simp only [split, splitMore, List.length_cons, List.length_append]
      omega
    have joins := Token.connective?_eq_some_iff.2 ⟨_, worded, spelled⟩
    subst own
    rw [split, splitMore, List.cons_append, readOperands_join joins shallow, List.append_assoc,
      readUnary_of_unary first sameBefore (after ++ rest)]
    simp only [Except.bind]
    rw [readOperands_of_later joined sameAfter (connective?_join _ _ _) ends]
    rfl
termination_by (tokens.length, 0)

end

end Completeness

/-- No filter is derived by nothing. -/
theorem joined_ne_nil {level : Nat} {written : List Lexeme} {f : Filter}
    (derived : Joined level written f) : written ≠ [] := by
  cases derived with
  | operands first joined => cases first <;> simp

/-- The tokens that form a filter are those that derive it from the first level. -/
theorem ofTokens_eq_ok_iff {tokens : List Token} {f : Filter} :
    ofTokens tokens = .ok f ↔ tokens = [] ∧ f = always ∨ Joined 0 (lexemes tokens) f := by
  rw [ofTokens_eq]
  by_cases empty : tokens = []
  · subst empty
    rw [if_pos rfl]
    constructor
    · intro same
      cases same
      exact .inl ⟨rfl, rfl⟩
    · rintro (⟨-, rfl⟩ | derived)
      · rfl
      · exact absurd rfl (joined_ne_nil derived)
  · rw [if_neg empty]
    constructor
    · intro read
      obtain ⟨⟨tree, left⟩, readAll, ended⟩ := bind_eq_ok_iff.1 read
      dsimp only at ended
      split at ended
      · next usedUp =>
        cases ended
        obtain ⟨used, split, derived⟩ := joined_of_readFilter readAll
        rw [usedUp, List.append_nil] at split
        exact .inr (split ▸ derived)
      · cases ended
    · rintro (⟨none, -⟩ | derived)
      · exact absurd none empty
      · have ends : StartsNoConnective [] := by simp [StartsNoConnective]
        have readAll := readFilter_of_joined derived rfl ends
        rw [List.append_nil] at readAll
        exact bind_eq_ok_iff.2 ⟨(f, []), readAll, if_pos rfl⟩

/-- A text parses as its tokens form a filter, with the places of refusals in the text. -/
theorem parse_eq (text : String) :
    parse text = (tokenize text).bind fun tokens =>
      (ofTokens tokens).mapError (Refusal.syntaxError (Text.byteCount text.toList)) := rfl

/-- A text parses to the filter that its tokens form. -/
theorem parse_eq_ok_iff {text : String} {f : Filter} :
    parse text = .ok f ↔ ∃ tokens, tokenize text = .ok tokens ∧ ofTokens tokens = .ok f := by
  simp only [parse_eq, bind_eq_ok_iff, mapError_eq_ok_iff]

/-- A text parses to the filters that its tokens derive from the first level, and a text without
tokens to the filter that holds of every record. -/
theorem parse_eq_ok_iff_derives (text : String) (f : Filter) :
    parse text = .ok f ↔
      ∃ tokens, tokenize text = .ok tokens ∧
        (tokens = [] ∧ f = .and [] ∨ Joined 0 (lexemes tokens) f) := by
  rw [parse_eq_ok_iff]
  constructor
  · rintro ⟨tokens, cut, formed⟩
    exact ⟨tokens, cut, ofTokens_eq_ok_iff.1 formed⟩
  · rintro ⟨tokens, cut, derived⟩
    exact ⟨tokens, cut, ofTokens_eq_ok_iff.2 derived⟩

end RecordSearch.Filter
