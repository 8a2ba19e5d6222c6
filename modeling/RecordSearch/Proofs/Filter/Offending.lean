import RecordSearch.Proofs.Filter.RoundTrip
import RecordSearch.Proofs.Filter.Segments

/-!
# The token that a refusal points at

A reader that refuses its tokens points at the first of them that cannot stand there. With that
token it refuses every continuation at the same place, so the refusal is not late. Without it some
continuation is read, so the refusal is not early: a comparison that is missing can be added, one
that is started can be ended, and every open group can be closed, all without a further level. Only
a refusal for the nesting leaves no level to go on with.
-/

namespace RecordSearch.Filter

/-- The refusal of a reader stands right behind the tokens `used`, at the first offending token. -/
structure PointsBehind (read : List Token → Reading) (used : List Token) (refusal : Refusal) :
    Prop where
  /-- With the token that stands there, every continuation is refused there. -/
  offending : ∀ next ∈ refusal.rest.head?, ∀ others,
    read (used ++ next :: others) = .error ⟨refusal.expected, next :: others⟩
  /-- Without it, some continuation is read, in front of anything but a connective. -/
  viable : refusal.expected ≠ .shallower → ∃ completion f, ∀ rest, StartsNoConnective rest →
    read (used ++ (completion ++ rest)) = .ok (f, rest)

/-- Every refusal of the reader points behind what it used of the tokens. -/
def PointsOut (read : List Token → Reading) (tokens : List Token) (refusal : Refusal) : Prop :=
  ∃ used, tokens = used ++ refusal.rest ∧ PointsBehind read used refusal

section Steps

variable {read inner : List Token → Reading} {before tokens : List Token} {refusal : Refusal}

/-- A reader that goes on with another one behind some tokens points out what that one does, if what
follows can be ended after every filter. -/
theorem PointsOut.behind (next : Filter × List Token → Reading)
    (steps : ∀ tokens, read (before ++ tokens) = (inner tokens).bind next)
    (ends : ∀ f, ∃ completion g, ∀ rest, StartsNoConnective rest →
      StartsNoConnective (completion ++ rest) ∧ next (f, completion ++ rest) = .ok (g, rest))
    (points : PointsOut inner tokens refusal) : PointsOut read (before ++ tokens) refusal := by
  obtain ⟨used, split, behind⟩ := points
  refine ⟨before ++ used, by rw [split, List.append_assoc], ?_, ?_⟩
  · intro token stands others
    rw [List.append_assoc, steps, behind.offending token stands others]
    rfl
  · intro levelsLeft
    obtain ⟨completion, f, readInner⟩ := behind.viable levelsLeft
    obtain ⟨ending, g, readEnding⟩ := ends f
    refine ⟨completion ++ ending, g, fun rest endsRest => ?_⟩
    obtain ⟨endsEnding, ended⟩ := readEnding rest endsRest
    rw [List.append_assoc, steps, List.append_assoc, readInner _ endsEnding]
    exact ended

/-- A reader that only takes some tokens before another one points out what that one does. -/
theorem PointsOut.after (same : ∀ tokens, read (before ++ tokens) = inner tokens)
    (points : PointsOut inner tokens refusal) : PointsOut read (before ++ tokens) refusal := by
  refine points.behind Except.ok ?_ ?_
  · intro others
    rw [same]
    cases inner others <;> rfl
  · exact fun f => ⟨[], f, fun rest ends => ⟨ends, rfl⟩⟩

/-- Two steps are refused where the first one is, or after it. -/
theorem bind_eq_error_iff {α β ε : Type} {result : Except ε α} {next : α → Except ε β} {e : ε} :
    result.bind next = .error e ↔
      result = .error e ∨ ∃ found, result = .ok found ∧ next found = .error e := by
  cases result with
  | error other => simp [Except.bind]
  | ok found => simp [Except.bind]

end Steps

section Comparisons

variable {depth : Nat}

/-- A comparison is refused at its first token that is no field, operator or literal. -/
theorem readComparison_eq_error_iff {tokens : List Token} {refusal : Refusal} :
    readComparison tokens = .error refusal ↔
      (tokens.head?.bind Token.field? = none ∧ refusal = ⟨.fieldName, tokens⟩) ∨
        (∃ first rest name, tokens = first :: rest ∧ first.field? = some name ∧
          rest.head?.bind Token.operator? = none ∧ refusal = ⟨.operator, rest⟩) ∨
        ∃ first second rest name operator, tokens = first :: second :: rest ∧
          first.field? = some name ∧ second.operator? = some operator ∧
            rest.head?.bind Token.literal? = none ∧ refusal = ⟨.literal, rest⟩ := by
  rw [readComparison_eq]
  constructor
  · intro refused
    split at refused
    · next notField =>
      cases refused
      exact .inl ⟨notField, rfl⟩
    next name named =>
    obtain ⟨first, starts, isField⟩ := Option.bind_eq_some_iff.1 named
    obtain ⟨rest, rfl⟩ := List.head?_eq_some_iff.1 starts
    split at refused
    · next notOperator =>
      cases refused
      exact .inr (.inl ⟨first, rest, name, rfl, isField, notOperator, rfl⟩)
    next operator spelled =>
    obtain ⟨second, goesOn, isOperator⟩ := Option.bind_eq_some_iff.1 spelled
    obtain ⟨more, rfl⟩ := List.head?_eq_some_iff.1 goesOn
    split at refused
    · next notLiteral =>
      cases refused
      exact .inr (.inr ⟨first, second, more, name, operator, rfl, isField, isOperator,
        notLiteral, rfl⟩)
    · cases refused
  · rintro (⟨notField, rfl⟩ | ⟨first, rest, name, rfl, isField, notOperator, rfl⟩ |
      ⟨first, second, rest, name, operator, rfl, isField, isOperator, notLiteral, rfl⟩)
    · simp only [notField]
    · simp [isField, notOperator]
    · simp [isField, isOperator, notLiteral]

/-- The tokens of the comparison of a field with null. -/
def nullTokens : List Token := [⟨.word "x", 0⟩, ⟨.word "eq", 0⟩, ⟨.word "null", 0⟩]

/-- Wherever a level is left, a comparison is read. -/
theorem readUnary_nullTokens (shallow : depth < maxDepth) (rest : List Token) :
    readUnary depth (nullTokens ++ rest) = .ok (isNull "x", rest) := by
  have field : IsField "x" := isField_letter rfl (by decide) (by decide)
  exact readUnary_of_unary (unary_isNull field shallow) rfl rest

/-- A refused comparison points out its first token that is no field, operator or literal. -/
theorem pointsOut_comparison (shallow : depth < maxDepth) {token : Token} {rest : List Token}
    {refusal : Refusal} (notKeyword : token.keyword? ≠ some .not)
    (notOpening : token.lexeme ≠ .opening)
    (refused : readComparison (token :: rest) = .error refusal) :
    PointsOut (readUnary depth) (token :: rest) refusal := by
  have reads : ∀ others, readUnary depth (token :: others) = readComparison (token :: others) :=
    fun _ => readUnary_comparison shallow notKeyword notOpening
  have sameHead : ∀ {next : Token} {rest : List Token}, next ∈ rest.head? → ∀ others,
      (next :: others).head? = rest.head? := fun stands _ => (Option.mem_def.1 stands).symm
  rcases readComparison_eq_error_iff.1 refused with ⟨notField, rfl⟩ |
    ⟨first, rest, name, split, isField, notOperator, rfl⟩ |
    ⟨first, second, rest, name, operator, split, isField, isOperator, notLiteral, rfl⟩
  · refine ⟨[], rfl, ?_, fun _ =>
      ⟨nullTokens, isNull "x", fun rest _ => readUnary_nullTokens shallow rest⟩⟩
    rintro _ ⟨⟩ others
    rw [List.nil_append, reads]
    exact readComparison_eq_error_iff.2 (.inl ⟨notField, rfl⟩)
  · obtain ⟨rfl, rfl⟩ := List.cons.inj split
    obtain ⟨named, field⟩ := Token.field?_eq_some_iff.1 isField
    have completed : lexemes ([token] ++ nullTokens.drop 1) =
        [.word name, .word Operator.eq.word, Literal.null.lexeme] := by
      rw [lexemes_append, lexemes_cons, named]
      rfl
    refine ⟨[token], rfl, ?_, fun _ =>
      ⟨nullTokens.drop 1, .comparison ⟨name, .eq, .null⟩, fun rest _ => ?_⟩⟩
    · intro next stands others
      rw [← sameHead stands others] at notOperator
      rw [List.singleton_append, reads]
      exact readComparison_eq_error_iff.2
        (.inr (.inl ⟨token, _, name, rfl, isField, notOperator, rfl⟩))
    · rw [← List.append_assoc]
      exact readUnary_of_isField shallow field (Operator.ofWord?_word .eq)
        (isLiteral_lexeme .null) completed rest
  · obtain ⟨rfl, rfl⟩ := List.cons.inj split
    obtain ⟨named, field⟩ := Token.field?_eq_some_iff.1 isField
    obtain ⟨word, worded, spelled⟩ := Token.operator?_eq_some_iff.1 isOperator
    have completed : lexemes ([token, second] ++ nullTokens.drop 2) =
        [.word name, .word word, Literal.null.lexeme] := by
      rw [lexemes_append, lexemes_cons, lexemes_cons, named, worded]
      rfl
    refine ⟨[token, second], rfl, ?_, fun _ =>
      ⟨nullTokens.drop 2, .comparison ⟨name, operator, .null⟩, fun rest _ => ?_⟩⟩
    · intro next stands others
      rw [← sameHead stands others] at notLiteral
      rw [List.cons_append, reads]
      exact readComparison_eq_error_iff.2
        (.inr (.inr ⟨token, second, _, name, operator, rfl, isField, isOperator, notLiteral, rfl⟩))
    · rw [← List.append_assoc]
      exact readUnary_of_isField shallow field spelled (isLiteral_lexeme .null) completed rest

end Comparisons

section Readers

/-- A closing parenthesis. -/
def closingToken : Token := ⟨.closing, 0⟩

/-- Nothing that a parenthesis is in front of starts with a connective. -/
theorem startsNoConnective_closing (rest : List Token) :
    StartsNoConnective (closingToken :: rest) := by
  rintro _ ⟨⟩
  exact connective?_of_closing rfl

/-- Operands that were read end in front of no connective. -/
theorem startsNoConnective_of_readOperands {level : Nat} {operands : Operands}
    {tokens rest : List Token} {f : Filter}
    (read : readOperands level operands tokens = .ok (f, rest)) : StartsNoConnective rest := by
  cases starts : tokens with
  | nil =>
    rw [starts, readOperands_nil] at read
    cases read
    rintro _ ⟨⟩
  | cons token after =>
    cases joins : token.connective? with
    | none =>
      rw [starts, readOperands_stop joins] at read
      cases read
      rintro _ ⟨⟩
      exact joins
    | some connective =>
      rw [starts] at read
      by_cases deep : maxDepth ≤ levelAfter operands.connective? connective level
      · rw [readOperands_deep joins deep] at read
        cases read
      rw [readOperands_join joins (Nat.lt_of_not_le deep)] at read
      obtain ⟨found, readOperand, readLater⟩ := bind_eq_ok_iff.1 read
      have fewer : found.2.length < after.length := length_of_readUnary readOperand
      exact startsNoConnective_of_readOperands readLater
termination_by tokens.length
decreasing_by
  rw [starts]
  exact Nat.lt_succ_of_lt fewer

/-- A filter that was read is derived by what was taken, and ends in front of no connective. -/
theorem exists_used_of_readFilter {level : Nat} {tokens rest : List Token} {f : Filter}
    (read : readFilter level tokens = .ok (f, rest)) :
    ∃ used, tokens = used ++ rest ∧ Joined level (lexemes used) f ∧ StartsNoConnective rest := by
  obtain ⟨used, split, derived⟩ := joined_of_readFilter read
  rw [readFilter_eq] at read
  obtain ⟨first, -, readLater⟩ := bind_eq_ok_iff.1 read
  exact ⟨used, split, derived, startsNoConnective_of_readOperands readLater⟩

/-- A group is refused where no closing parenthesis stands behind its filter. -/
theorem closeGroup_eq_error_iff {inner : Filter} {tokens : List Token} {refusal : Refusal} :
    closeGroup inner tokens = .error refusal ↔
      (∀ next ∈ tokens.head?, next.lexeme ≠ .closing) ∧
        refusal = ⟨.closingOrConnective, tokens⟩ := by
  cases tokens with
  | nil => simp [closeGroup, eq_comm]
  | cons next after =>
    by_cases closing : next.lexeme = .closing
    · simp [closeGroup, closing]
    · rw [closeGroup, if_neg closing]
      constructor
      · intro refused
        cases refused
        exact ⟨by rintro _ ⟨⟩; exact closing, rfl⟩
      · rintro ⟨-, rfl⟩
        rfl

/-- A group that is not closed points out what stands in the place of its end. -/
theorem pointsOut_closing {depth : Nat} {token : Token} {rest left : List Token} {inner : Filter}
    {refusal : Refusal} (shallow : depth < maxDepth) (opening : token.lexeme = .opening)
    (read : readFilter (depth + 1) rest = .ok (inner, left))
    (refused : closeGroup inner left = .error refusal) :
    PointsOut (readUnary depth) (token :: rest) refusal := by
  obtain ⟨used, rfl, derived, ends⟩ := exists_used_of_readFilter read
  have readAgain : ∀ others, StartsNoConnective others →
      readUnary depth (token :: used ++ others) = closeGroup inner others := by
    intro others endsOthers
    rw [List.cons_append, readUnary_opening shallow opening,
      readFilter_of_joined derived rfl endsOthers]
    rfl
  obtain ⟨notClosing, rfl⟩ := closeGroup_eq_error_iff.1 refused
  refine ⟨token :: used, rfl, ?_, fun _ => ⟨[closingToken], inner, fun others _ => ?_⟩⟩
  · intro next stands others
    have endsNext : StartsNoConnective (next :: others) := by
      rintro _ ⟨⟩
      exact ends next stands
    rw [readAgain _ endsNext]
    exact closeGroup_eq_error_iff.2 ⟨by rintro _ ⟨⟩; exact notClosing next stands, rfl⟩
  · rw [List.singleton_append, readAgain _ (startsNoConnective_closing others)]
    exact closeGroup_eq_ok_iff.2 ⟨closingToken, rfl, rfl, rfl⟩

mutual

/-- A refused unary filter points out its first offending token. -/
theorem pointsOut_readUnary {depth : Nat} {tokens : List Token} {refusal : Refusal}
    (refused : readUnary depth tokens = .error refusal) :
    PointsOut (readUnary depth) tokens refusal := by
  by_cases deep : maxDepth ≤ depth
  · rw [readUnary_deep deep] at refused
    cases refused
    exact ⟨[], rfl, fun _ _ _ => readUnary_deep deep _, fun levelsLeft => absurd rfl levelsLeft⟩
  have shallow : depth < maxDepth := Nat.lt_of_not_le deep
  match tokens with
  | [] =>
    rw [readUnary_nil shallow] at refused
    cases refused
    refine ⟨[], rfl, by rintro _ ⟨⟩, fun _ => ⟨nullTokens, isNull "x", fun rest _ => ?_⟩⟩
    exact readUnary_nullTokens shallow rest
  | token :: rest =>
    by_cases isNot : token.keyword? = some .not
    · have steps : ∀ others, readUnary depth ([token] ++ others) =
          (readUnary (depth + 1) others).bind fun found => .ok (.not found.1, found.2) := by
        intro others
        rw [List.singleton_append, readUnary_not shallow isNot]
        cases readUnary (depth + 1) others <;> rfl
      rcases bind_eq_error_iff.1 ((steps rest).symm.trans refused) with inner | ⟨_, -, read⟩
      · exact (pointsOut_readUnary inner).behind _ steps
          fun f => ⟨[], .not f, fun rest ends => ⟨ends, rfl⟩⟩
      · cases read
    by_cases opening : token.lexeme = .opening
    · have steps : ∀ others, readUnary depth ([token] ++ others) =
          (readFilter (depth + 1) others).bind fun found => closeGroup found.1 found.2 :=
        fun _ => readUnary_opening shallow opening
      rcases bind_eq_error_iff.1 ((steps rest).symm.trans refused) with
        inner | ⟨found, read, unclosed⟩
      · refine (pointsOut_readFilter inner).behind _ steps fun f => ⟨[closingToken], f, ?_⟩
        intro others _
        exact ⟨startsNoConnective_closing others,
          closeGroup_eq_ok_iff.2 ⟨closingToken, rfl, rfl, rfl⟩⟩
      · exact pointsOut_closing shallow opening read unclosed
    · rw [readUnary_comparison shallow isNot opening] at refused
      exact pointsOut_comparison shallow isNot opening refused
termination_by (tokens.length, 0)

/-- A refused filter points out its first offending token. -/
theorem pointsOut_readFilter {depth : Nat} {tokens : List Token} {refusal : Refusal}
    (refused : readFilter depth tokens = .error refusal) :
    PointsOut (readFilter depth) tokens refusal := by
  rcases bind_eq_error_iff.1 ((readFilter_eq depth tokens).symm.trans refused) with
    first | ⟨found, read, later⟩
  · have steps : ∀ others, readFilter depth ([] ++ others) =
        (readUnary depth others).bind fun first => readOperands depth (.single first.1) first.2 :=
      fun others => readFilter_eq depth others
    refine (pointsOut_readUnary first).behind _ steps fun f => ⟨[], f, fun rest ends => ?_⟩
    exact ⟨ends, readOperands_of_startsNoConnective ends⟩
  · have fewer : found.2.length < tokens.length := length_of_readUnary read
    obtain ⟨used, split, derived⟩ := unary_of_readUnary read
    have same : ∀ others, readFilter depth (used ++ others) =
        readOperands depth (.single found.1) others := by
      intro others
      rw [readFilter_eq, readUnary_of_unary derived rfl others]
      rfl
    rw [split]
    exact (pointsOut_readOperands later).after same
termination_by (tokens.length, 1)

/-- Refused operands point out their first offending token. -/
theorem pointsOut_readOperands {level : Nat} {operands : Operands} {tokens : List Token}
    {refusal : Refusal} (refused : readOperands level operands tokens = .error refusal) :
    PointsOut (readOperands level operands) tokens refusal := by
  match tokens with
  | [] =>
    rw [readOperands_nil] at refused
    cases refused
  | token :: rest =>
    cases joins : token.connective? with
    | none =>
      rw [readOperands_stop joins] at refused
      cases refused
    | some connective =>
      by_cases deep : maxDepth ≤ levelAfter operands.connective? connective level
      · rw [readOperands_deep joins deep] at refused
        cases refused
        refine ⟨[], rfl, ?_, fun levelsLeft => absurd rfl levelsLeft⟩
        rintro _ ⟨⟩ others
        exact readOperands_deep joins deep
      have steps : ∀ others, readOperands level operands ([token] ++ others) =
          (readUnary (levelAfter operands.connective? connective level) others).bind
            fun operand => readOperands (levelAfter operands.connective? connective level)
              (operands.join connective operand.1) operand.2 :=
        fun _ => readOperands_join joins (Nat.lt_of_not_le deep)
      rcases bind_eq_error_iff.1 ((steps rest).symm.trans refused) with
        first | ⟨found, read, later⟩
      · refine (pointsOut_readUnary first).behind _ steps fun f =>
          ⟨[], (operands.join connective f).tree, fun rest ends => ?_⟩
        exact ⟨ends, readOperands_of_startsNoConnective ends⟩
      · have fewer : found.2.length < rest.length := length_of_readUnary read
        obtain ⟨used, split, derived⟩ := unary_of_readUnary read
        have same : ∀ others, readOperands level operands (token :: used ++ others) =
            readOperands (levelAfter operands.connective? connective level)
              (operands.join connective found.1) others := by
          intro others
          rw [List.cons_append]
          refine (steps (used ++ others)).trans ?_
          rw [readUnary_of_unary derived rfl others]
          rfl
        rw [split, ← List.cons_append]
        exact (pointsOut_readOperands later).after same
termination_by (tokens.length, 0)

end

end Readers

/-- Lexemes that are accepted: the tokens that have them form a filter. -/
def Accepted (written : List Lexeme) : Prop :=
  ∃ tokens f, lexemes tokens = written ∧ ofTokens tokens = .ok f

/-- Tokens with accepted lexemes form a filter; where they stand does not matter. -/
theorem accepted_iff {tokens : List Token} :
    Accepted (lexemes tokens) ↔ ∃ f, ofTokens tokens = .ok f := by
  constructor
  · rintro ⟨others, f, same, formed⟩
    refine ⟨f, ofTokens_eq_ok_iff.2 ?_⟩
    rcases ofTokens_eq_ok_iff.1 formed with ⟨rfl, isAlways⟩ | derived
    · exact .inl ⟨List.map_eq_nil_iff.1 same.symm, isAlways⟩
    · exact .inr (same ▸ derived)
  · rintro ⟨f, formed⟩
    exact ⟨tokens, f, rfl, formed⟩

/-- A filter that is read from the first level up to the end is formed. -/
theorem ofTokens_of_readFilter {tokens : List Token} {f : Filter}
    (read : readFilter 0 tokens = .ok (f, [])) : ofTokens tokens = .ok f := by
  obtain ⟨used, split, derived⟩ := joined_of_readFilter read
  rw [List.append_nil] at split
  exact ofTokens_eq_ok_iff.2 (.inr (split ▸ derived))

/-- Tokens that form no filter are refused at the first of them that cannot stand there. -/
theorem exists_used_of_ofTokens {tokens : List Token} {refusal : Refusal}
    (refused : ofTokens tokens = .error refusal) :
    ∃ used, tokens = used ++ refusal.rest ∧
      (∀ next ∈ refusal.rest.head?, ∀ others f, ofTokens (used ++ next :: others) ≠ .ok f) ∧
      (refusal.expected ≠ .shallower → ∃ completion f, ofTokens (used ++ completion) = .ok f) := by
  rw [ofTokens_eq] at refused
  split at refused
  · cases refused
  rcases bind_eq_error_iff.1 refused with unread | ⟨⟨f, left⟩, read, unended⟩
  · obtain ⟨used, split, points⟩ := pointsOut_readFilter unread
    refine ⟨used, split, ?_, ?_⟩
    · intro next stands others f formed
      rw [ofTokens_eq, if_neg (by simp), points.offending next stands others] at formed
      cases formed
    · intro levelsLeft
      obtain ⟨completion, f, readAll⟩ := points.viable levelsLeft
      have ends : StartsNoConnective [] := by rintro _ ⟨⟩
      have read := readAll [] ends
      rw [List.append_nil] at read
      exact ⟨completion, f, ofTokens_of_readFilter read⟩
  · obtain ⟨used, split, derived, ends⟩ := exists_used_of_readFilter read
    dsimp only at unended
    split at unended
    · cases unended
    cases unended
    refine ⟨used, split, ?_, ?_⟩
    · intro next stands others g formed
      have endsNext : StartsNoConnective (next :: others) := by
        rintro _ ⟨⟩
        exact ends next stands
      rw [ofTokens_eq, if_neg (by simp), readFilter_of_joined derived rfl endsNext] at formed
      cases formed
    · intro _
      exact ⟨[], f, by rw [List.append_nil]; exact ofTokens_eq_ok_iff.2 (.inr derived)⟩

/-- Tokens that form no filter however they go on are the start of nothing that is accepted. -/
theorem not_accepted_take {tokens used after : List Token} {token : Token}
    (split : tokens = used ++ token :: after)
    (offending : ∀ others f, ofTokens (used ++ token :: others) ≠ .ok f) (others : List Lexeme) :
    ¬Accepted (lexemes (tokens.take (used.length + 1)) ++ others) := by
  have whole : tokens = (used ++ [token]) ++ after := by simp [split]
  have count : used.length + 1 = (used ++ [token]).length := by simp
  have same : lexemes (tokens.take (used.length + 1)) ++ others =
      lexemes (used ++ token :: others.map (⟨·, 0⟩)) := by
    rw [whole, count, List.take_left]
    simp [lexemes, Function.comp_def]
  intro accepted
  rw [same] at accepted
  obtain ⟨f, formed⟩ := accepted_iff.1 accepted
  exact offending _ f formed

/-- A text with tokens that is refused is refused where its tokens are. -/
theorem exists_refusal_of_parse {text : String} {tokens : List Token} {e : SyntaxError}
    (cut : tokenize text = .ok tokens) (refused : parse text = .error e) :
    ∃ refusal, ofTokens tokens = .error refusal ∧
      refusal.syntaxError (Text.byteCount text.toList) = e := by
  rw [parse_eq, cut] at refused
  simp only [Except.bind] at refused
  cases formed : ofTokens tokens with
  | error refusal =>
    rw [formed] at refused
    exact ⟨refusal, rfl, Except.error.inj refused⟩
  | ok f =>
    rw [formed] at refused
    cases refused

/-- A syntax error points at the first offending token of a text that has tokens. It stands at a
token with which nothing that is accepted begins, or at the end, where the tokens are not accepted
themselves. Unless it is for the nesting, something that is accepted begins with the tokens before
it. -/
theorem parse_error_points (text : String) (tokens : List Token) (e : SyntaxError)
    (cut : tokenize text = .ok tokens) (refused : parse text = .error e) :
    ∃ k,
      ((∃ token, tokens[k]? = some token ∧ e.position = token.position ∧
          e.found = .lexeme token.lexeme ∧
            ∀ others, ¬Accepted (lexemes (tokens.take (k + 1)) ++ others)) ∨
        k = tokens.length ∧ e.position = text.utf8ByteSize ∧ e.found = .endOfInput ∧
          ¬Accepted (lexemes tokens)) ∧
      (e.expected ≠ .shallower → ∃ others, Accepted (lexemes (tokens.take k) ++ others)) := by
  obtain ⟨refusal, unformed, rfl⟩ := exists_refusal_of_parse cut refused
  obtain ⟨used, split, offending, viable⟩ := exists_used_of_ofTokens unformed
  have taken : tokens.take used.length = used := by rw [split, List.take_left]
  refine ⟨used.length, ?_, ?_⟩
  · cases stands : refusal.rest with
    | nil =>
      rw [stands, List.append_nil] at split
      refine .inr ⟨by rw [split], ?_, ?_, ?_⟩
      · rw [Refusal.syntaxError, stands, Text.byteCount_toList]
      · rw [Refusal.syntaxError, stands]
      · intro accepted
        obtain ⟨f, formed⟩ := accepted_iff.1 accepted
        rw [unformed] at formed
        cases formed
    | cons token after =>
      rw [stands] at split offending
      refine .inl ⟨token, by simp [split], ?_, ?_, ?_⟩
      · rw [Refusal.syntaxError, stands]
      · rw [Refusal.syntaxError, stands]
      · exact not_accepted_take split (offending token rfl)
  · intro levelsLeft
    have expected : (refusal.syntaxError (Text.byteCount text.toList)).expected =
        refusal.expected := by
      unfold Refusal.syntaxError
      cases refusal.rest <;> rfl
    rw [expected] at levelsLeft
    obtain ⟨completion, f, formed⟩ := viable levelsLeft
    refine ⟨lexemes completion, ?_⟩
    rw [taken, ← lexemes_append]
    exact accepted_iff.2 ⟨f, formed⟩

/-- An unknown operator is pointed at: it is the second token, and a known one can stand in its
place. -/
theorem parse_error_points_unknown_operator :
    tokenize "x is" = .ok [⟨.word "x", 0⟩, ⟨.word "is", 2⟩] ∧
      parse "x is" = .error ⟨2, .operator, .lexeme (.word "is")⟩ ∧
      (∀ others, ¬Accepted ([.word "x", .word "is"] ++ others)) ∧
      ∃ others, Accepted ([.word "x"] ++ others) := by
  have second : Segmented 2 ("is".toList ++ []) [⟨.word "is", 2⟩] :=
    .word (by decide) (List.all_eq_true.1 (by decide)) (by simp [StartsNoWord]) .nil
  have first : Segmented 0 ("x".toList ++ ' ' :: ("is".toList ++ []))
      [⟨.word "x", 0⟩, ⟨.word "is", 2⟩] :=
    .word (by decide) (List.all_eq_true.1 (by decide)) (startsNoWord_blank _)
      (.blank (by decide) second)
  have cut : tokenize "x is" = .ok [⟨.word "x", 0⟩, ⟨.word "is", 2⟩] :=
    tokenize_eq_ok_iff.2 first
  have isField : Token.field? ⟨.word "x", 0⟩ = some "x" := by decide
  have notOperator : Token.operator? ⟨.word "is", 2⟩ = none := by decide
  have comparison : readUnary 0 [⟨.word "x", 0⟩, ⟨.word "is", 2⟩] =
      .error ⟨.operator, [⟨.word "is", 2⟩]⟩ := by
    rw [readUnary_comparison (by decide) (by decide) (by decide)]
    exact readComparison_eq_error_iff.2
      (.inr (.inl ⟨_, _, "x", rfl, isField, notOperator, rfl⟩))
  have refused : parse "x is" = .error ⟨2, .operator, .lexeme (.word "is")⟩ := by
    rw [parse_eq, cut]
    simp only [Except.bind, ofTokens_eq, if_neg (List.cons_ne_nil _ _), readFilter_eq, comparison]
    rfl
  obtain ⟨k, place, viable⟩ := parse_error_points _ _ _ cut refused
  have atSecond : k = 1 := by
    rcases place with ⟨token, stands, position, -, -⟩ | ⟨-, -, found, -⟩
    · rcases k with _ | _ | k
      · cases stands
        cases position
      · rfl
      · cases stands
    · cases found
  subst atSecond
  rcases place with ⟨-, -, -, -, offending⟩ | ⟨-, -, found, -⟩
  · exact ⟨cut, refused, offending, viable (by decide)⟩
  · cases found

end RecordSearch.Filter
