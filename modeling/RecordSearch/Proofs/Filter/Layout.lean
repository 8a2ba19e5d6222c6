import Mathlib.Data.List.Forall2
import RecordSearch.Proofs.Filter.Offending

/-!
# Layout and the letter case of keywords

Two token lists say the same if they agree token by token, wherever the tokens stand, in all but the
letter case of keywords. Readers ask of a token only what such tokens have in common, so they come
to the same filter or refuse for the same reason, and leave token lists that say the same. A text is
therefore parsed, or refused at the same one of its tokens, however it is laid out and whatever the
case of its keywords is.
-/

namespace RecordSearch.Filter

/-- The tokens have the same lexeme, or they are words that spell the same keyword. -/
def Token.SaysAs (token other : Token) : Prop :=
  token.lexeme = other.lexeme ∨
    ∃ (keyword : Keyword) (word spelling : String), token.lexeme = .word word ∧
      other.lexeme = .word spelling ∧ keyword.Spells word ∧ keyword.Spells spelling

/-- The tokens say the same one by one. -/
abbrev SayTheSame (tokens others : List Token) : Prop := List.Forall₂ Token.SaysAs tokens others

section Tokens

variable {token other : Token}

/-- The tokens are the same in everything that readers ask of a token. -/
structure Token.ReadAlike (token other : Token) : Prop where
  keyword : token.keyword? = other.keyword?
  field : token.field? = other.field?
  operator : token.operator? = other.operator?
  literal : token.literal? = other.literal?
  opening : token.lexeme = .opening ↔ other.lexeme = .opening
  closing : token.lexeme = .closing ↔ other.lexeme = .closing

/-- A spelling of a keyword is no operator. -/
theorem Keyword.Spells.ofWord?_eq_none {keyword : Keyword} {word : String}
    (spells : keyword.Spells word) : Operator.ofWord? word = none := by
  cases spelled : Operator.ofWord? word with
  | none => rfl
  | some operator =>
    exact absurd spells (keyword?_eq_none_iff.1 (keyword?_of_ofWord? spelled) keyword)

/-- A spelling of a keyword can stand where the keyword can, and as nothing else. -/
theorem Token.readAlike_of_spells {keyword : Keyword} {word spelling : String}
    (isWord : token.lexeme = .word word) (isSpelling : other.lexeme = .word spelling)
    (left : keyword.Spells word) (right : keyword.Spells spelling) : token.ReadAlike other := by
  have isKeyword : Filter.keyword? word = some keyword := Filter.keyword?_eq_some_iff.2 left
  have isKeywordToo : Filter.keyword? spelling = some keyword :=
    Filter.keyword?_eq_some_iff.2 right
  constructor
  case keyword => simp only [Token.keyword?, isWord, isSpelling, isKeyword, isKeywordToo]
  case field => simp [Token.field?, isWord, isSpelling, isKeyword, isKeywordToo]
  case operator =>
    simp only [Token.operator?, isWord, isSpelling, left.ofWord?_eq_none, right.ofWord?_eq_none]
  case literal => simp [Token.literal?, isWord, isSpelling, isKeyword, isKeywordToo]
  case opening | closing => simp [isWord, isSpelling]

/-- Tokens that say the same are read alike. -/
theorem Token.SaysAs.readAlike (same : token.SaysAs other) : token.ReadAlike other := by
  rcases same with sameLexeme | ⟨keyword, word, spelling, isWord, isSpelling, left, right⟩
  · constructor <;>
      simp only [Token.keyword?, Token.field?, Token.operator?, Token.literal?, sameLexeme]
  · exact Token.readAlike_of_spells isWord isSpelling left right

/-- Tokens that are read alike are the same connective. -/
theorem Token.ReadAlike.connective (alike : token.ReadAlike other) :
    token.connective? = other.connective? := by
  rw [Token.connective?, Token.connective?, alike.keyword]

end Tokens

/-- The readings come to the same filter or are refused for the same reason, and they leave tokens
that say the same. -/
inductive EndAlike : Reading → Reading → Prop where
  | read (f : Filter) {rest others : List Token} (same : SayTheSame rest others) :
    EndAlike (.ok (f, rest)) (.ok (f, others))
  | refused (expected : Expected) {rest others : List Token} (same : SayTheSame rest others) :
    EndAlike (.error ⟨expected, rest⟩) (.error ⟨expected, others⟩)

/-- Two steps end alike where the first ones do, and the second ones after what the first ones
read. -/
theorem EndAlike.bind {reading other : Reading} {next : Filter × List Token → Reading}
    (first : EndAlike reading other)
    (second : ∀ f rest others, reading = .ok (f, rest) → SayTheSame rest others →
      EndAlike (next (f, rest)) (next (f, others))) :
    EndAlike (reading.bind next) (other.bind next) := by
  cases first with
  | read f same => exact second f _ _ rfl same
  | refused expected same => exact .refused expected same

/-- What is made of the filters of two readings that end alike ends alike. -/
theorem EndAlike.map {reading other : Reading} (next : Filter → Filter)
    (same : EndAlike reading other) :
    EndAlike (reading.map fun found => (next found.1, found.2))
      (other.map fun found => (next found.1, found.2)) := by
  cases same with
  | read f left => exact .read (next f) left
  | refused expected left => exact .refused expected left

section Readers

/-- What the first tokens are asked for is the same. -/
theorem SayTheSame.head?_bind {α : Type} {view : Token → Option α}
    (sameView : ∀ {token other : Token}, token.ReadAlike other → view token = view other)
    {tokens others : List Token} (same : SayTheSame tokens others) :
    tokens.head?.bind view = others.head?.bind view := by
  cases same with
  | nil => rfl
  | cons first more => exact sameView first.readAlike

/-- Comparisons of tokens that say the same are read alike. -/
theorem readComparison_alike {tokens others : List Token} (same : SayTheSame tokens others) :
    EndAlike (readComparison tokens) (readComparison others) := by
  have sameDrop (count : Nat) : SayTheSame (tokens.drop count) (others.drop count) :=
    List.forall₂_drop count same
  rw [readComparison_eq, readComparison_eq, same.head?_bind Token.ReadAlike.field,
    (sameDrop 1).head?_bind Token.ReadAlike.operator,
    (sameDrop 2).head?_bind Token.ReadAlike.literal]
  cases others.head?.bind Token.field? with
  | none => exact .refused .fieldName same
  | some name =>
    cases (others.drop 1).head?.bind Token.operator? with
    | none => exact .refused .operator (sameDrop 1)
    | some operator =>
      cases (others.drop 2).head?.bind Token.literal? with
      | none => exact .refused .literal (sameDrop 2)
      | some literal => exact .read (.comparison ⟨name, operator, literal⟩) (sameDrop 3)

/-- Groups are closed alike by tokens that say the same. -/
theorem closeGroup_alike (inner : Filter) {tokens others : List Token}
    (same : SayTheSame tokens others) :
    EndAlike (closeGroup inner tokens) (closeGroup inner others) := by
  cases same with
  | nil => exact .refused .closingOrConnective .nil
  | @cons token other rest others first more =>
    have closing := first.readAlike.closing
    unfold closeGroup
    dsimp only
    by_cases closes : token.lexeme = .closing
    · rw [if_pos closes, if_pos (closing.1 closes)]
      exact .read inner more
    · rw [if_neg closes, if_neg (mt closing.2 closes)]
      exact .refused .closingOrConnective (.cons first more)

mutual

/-- Unary filters are read alike from tokens that say the same. -/
theorem readUnary_alike (depth : Nat) {tokens others : List Token}
    (same : SayTheSame tokens others) :
    EndAlike (readUnary depth tokens) (readUnary depth others) := by
  by_cases deep : maxDepth ≤ depth
  · rw [readUnary_deep deep, readUnary_deep deep]
    exact .refused .shallower same
  have shallow : depth < maxDepth := Nat.lt_of_not_le deep
  match tokens, others, same with
  | [], [], .nil =>
    rw [readUnary_nil shallow]
    exact .refused .fieldName .nil
  | token :: rest, other :: others, .cons first more =>
    have alike := first.readAlike
    by_cases isNot : token.keyword? = some .not
    · rw [readUnary_not shallow isNot, readUnary_not shallow (alike.keyword ▸ isNot)]
      exact (readUnary_alike (depth + 1) more).map Filter.not
    by_cases opening : token.lexeme = .opening
    · rw [readUnary_opening shallow opening,
        readUnary_opening shallow (alike.opening.1 opening)]
      exact (readFilter_alike (depth + 1) more).bind fun inner _ _ _ left =>
        closeGroup_alike inner left
    · rw [readUnary_comparison shallow isNot opening,
        readUnary_comparison shallow (alike.keyword ▸ isNot) (mt alike.opening.2 opening)]
      exact readComparison_alike (.cons first more)
termination_by (tokens.length, 0)

/-- Filters are read alike from tokens that say the same. -/
theorem readFilter_alike (depth : Nat) {tokens others : List Token}
    (same : SayTheSame tokens others) :
    EndAlike (readFilter depth tokens) (readFilter depth others) := by
  rw [readFilter_eq, readFilter_eq]
  refine (readUnary_alike depth same).bind fun f rest _ read left => ?_
  have fewer : rest.length < tokens.length := length_of_readUnary read
  exact readOperands_alike depth (.single f) left
termination_by (tokens.length, 1)

/-- Operands are read alike from tokens that say the same. -/
theorem readOperands_alike (level : Nat) (operands : Operands) {tokens others : List Token}
    (same : SayTheSame tokens others) :
    EndAlike (readOperands level operands tokens) (readOperands level operands others) := by
  match tokens, others, same with
  | [], [], .nil =>
    rw [readOperands_nil]
    exact .read operands.tree .nil
  | token :: rest, other :: others, .cons first more =>
    have sameConnective := first.readAlike.connective
    cases joins : token.connective? with
    | none =>
      rw [readOperands_stop joins, readOperands_stop (sameConnective ▸ joins)]
      exact .read operands.tree (.cons first more)
    | some connective =>
      have joinsToo : other.connective? = some connective := sameConnective ▸ joins
      by_cases deep : maxDepth ≤ levelAfter operands.connective? connective level
      · rw [readOperands_deep joins deep, readOperands_deep joinsToo deep]
        exact .refused .shallower (.cons first more)
      have shallow := Nat.lt_of_not_le deep
      rw [readOperands_join joins shallow, readOperands_join joinsToo shallow]
      refine (readUnary_alike _ more).bind fun f left _ read sameLeft => ?_
      have fewer : left.length < rest.length := length_of_readUnary read
      exact readOperands_alike _ (operands.join connective f) sameLeft
termination_by (tokens.length, 0)

end

end Readers

section Texts

variable {text other : String} {tokens others : List Token}

/-- Tokens that say the same form the same filter, or are refused for the same reason in front of
tokens that say the same. -/
theorem ofTokens_alike (same : SayTheSame tokens others) :
    (∃ f, ofTokens tokens = .ok f ∧ ofTokens others = .ok f) ∨
      ∃ expected rest left, SayTheSame rest left ∧ ofTokens tokens = .error ⟨expected, rest⟩ ∧
        ofTokens others = .error ⟨expected, left⟩ := by
  rw [ofTokens_eq, ofTokens_eq]
  cases same with
  | nil => exact .inl ⟨always, rfl, rfl⟩
  | cons first more =>
    rw [if_neg (List.cons_ne_nil _ _), if_neg (List.cons_ne_nil _ _)]
    have alike := readFilter_alike 0 (.cons first more)
    revert alike
    generalize readFilter 0 _ = reading
    generalize readFilter 0 _ = reading'
    intro alike
    cases alike with
    | refused expected left => exact .inr ⟨expected, _, _, left, rfl, rfl⟩
    | read f left =>
      cases left with
      | nil => exact .inl ⟨f, rfl, rfl⟩
      | cons next after => exact .inr ⟨.connectiveOrEnd, _, _, .cons next after, rfl, rfl⟩

/-- The syntax error at the token of an index, or at the end of the text behind the last token. -/
def errorAt (text : String) (tokens : List Token) (index : Nat) (expected : Expected) :
    SyntaxError :=
  match tokens[index]? with
  | some token => ⟨token.position, expected, .lexeme token.lexeme⟩
  | none => ⟨text.utf8ByteSize, expected, .endOfInput⟩

/-- A text whose tokens are refused behind some of them has its syntax error there. -/
theorem parse_eq_errorAt {used rest : List Token} {expected : Expected}
    (cut : tokenize text = .ok tokens) (split : tokens = used ++ rest)
    (refused : ofTokens tokens = .error ⟨expected, rest⟩) :
    parse text = .error (errorAt text tokens used.length expected) := by
  rw [parse_eq, cut]
  simp only [Except.bind, refused, Except.mapError, Refusal.syntaxError, errorAt,
    Text.byteCount_toList]
  rw [split]
  cases rest <;> simp

/-- Two texts whose tokens say the same, wherever they stand and whatever the case of their
keywords, parse to the same filter, or have their syntax errors at the same one of their tokens, or
both at the end, where the same was expected. -/
theorem parse_layout (cut : tokenize text = .ok tokens) (otherCut : tokenize other = .ok others)
    (same : SayTheSame tokens others) :
    (∃ f, parse text = .ok f ∧ parse other = .ok f) ∨
      ∃ index expected, index ≤ tokens.length ∧
        parse text = .error (errorAt text tokens index expected) ∧
        parse other = .error (errorAt other others index expected) := by
  rcases ofTokens_alike same with ⟨f, formed, otherFormed⟩ |
    ⟨expected, rest, left, sameRest, refused, otherRefused⟩
  · exact .inl ⟨f, parse_eq_ok_iff.2 ⟨tokens, cut, formed⟩,
      parse_eq_ok_iff.2 ⟨others, otherCut, otherFormed⟩⟩
  · obtain ⟨used, split, -⟩ := exists_used_of_ofTokens refused
    obtain ⟨otherUsed, otherSplit, -⟩ := exists_used_of_ofTokens otherRefused
    have sameIndex : otherUsed.length = used.length := by
      have all := same.length_eq
      rw [split, otherSplit, List.length_append, List.length_append] at all
      have sameLength : rest.length = left.length := sameRest.length_eq
      dsimp only at all
      omega
    refine .inr ⟨used.length, expected, ?_, parse_eq_errorAt cut split refused, ?_⟩
    · rw [split, List.length_append]
      exact Nat.le_add_right _ _
    · rw [← sameIndex]
      exact parse_eq_errorAt otherCut otherSplit otherRefused

/-- A keyword in place of a literal is refused in either spelling, wherever it stands. -/
theorem parse_layout_keyword :
    tokenize "x eq AND" = .ok [⟨.word "x", 0⟩, ⟨.word "eq", 2⟩, ⟨.word "AND", 5⟩] ∧
      tokenize "x  eq and" = .ok [⟨.word "x", 0⟩, ⟨.word "eq", 3⟩, ⟨.word "and", 6⟩] ∧
      parse "x eq AND" = .error ⟨5, .literal, .lexeme (.word "AND")⟩ ∧
      parse "x  eq and" = .error ⟨6, .literal, .lexeme (.word "and")⟩ := by
  have blank : Text.isBlank ' ' = true := by decide
  have cut : tokenize "x eq AND" =
      .ok [⟨.word "x", 0⟩, ⟨.word "eq", 2⟩, ⟨.word "AND", 5⟩] := by
    have third : Segmented 5 ("AND".toList ++ []) [⟨.word "AND", 5⟩] :=
      .word (by decide) (List.all_eq_true.1 (by decide)) (by simp [StartsNoWord]) .nil
    have second : Segmented 2 ("eq".toList ++ ' ' :: ("AND".toList ++ []))
        [⟨.word "eq", 2⟩, ⟨.word "AND", 5⟩] :=
      .word (by decide) (List.all_eq_true.1 (by decide)) (startsNoWord_blank _) (.blank blank third)
    have first : Segmented 0 ("x".toList ++ ' ' :: ("eq".toList ++ ' ' :: ("AND".toList ++ [])))
        [⟨.word "x", 0⟩, ⟨.word "eq", 2⟩, ⟨.word "AND", 5⟩] :=
      .word (by decide) (List.all_eq_true.1 (by decide)) (startsNoWord_blank _)
        (.blank blank second)
    exact tokenize_eq_ok_iff.2 first
  have otherCut : tokenize "x  eq and" =
      .ok [⟨.word "x", 0⟩, ⟨.word "eq", 3⟩, ⟨.word "and", 6⟩] := by
    have third : Segmented 6 ("and".toList ++ []) [⟨.word "and", 6⟩] :=
      .word (by decide) (List.all_eq_true.1 (by decide)) (by simp [StartsNoWord]) .nil
    have second : Segmented 3 ("eq".toList ++ ' ' :: ("and".toList ++ []))
        [⟨.word "eq", 3⟩, ⟨.word "and", 6⟩] :=
      .word (by decide) (List.all_eq_true.1 (by decide)) (startsNoWord_blank _) (.blank blank third)
    have first :
        Segmented 0 ("x".toList ++ ' ' :: ' ' :: ("eq".toList ++ ' ' :: ("and".toList ++ [])))
          [⟨.word "x", 0⟩, ⟨.word "eq", 3⟩, ⟨.word "and", 6⟩] :=
      .word (by decide) (List.all_eq_true.1 (by decide)) (startsNoWord_blank _)
        (.blank blank (.blank blank second))
    exact tokenize_eq_ok_iff.2 first
  have spelled : Keyword.and.Spells "AND" := Filter.keyword?_eq_some_iff.1 (by decide)
  have otherSpelled : Keyword.and.Spells "and" := Keyword.and.spells_word
  have same : SayTheSame [⟨.word "x", 0⟩, ⟨.word "eq", 2⟩, ⟨.word "AND", 5⟩]
      [⟨.word "x", 0⟩, ⟨.word "eq", 3⟩, ⟨.word "and", 6⟩] :=
    .cons (.inl rfl) (.cons (.inl rfl)
      (.cons (.inr ⟨.and, "AND", "and", rfl, rfl, spelled, otherSpelled⟩) .nil))
  have comparison : readUnary 0 [⟨.word "x", 0⟩, ⟨.word "eq", 2⟩, ⟨.word "AND", 5⟩] =
      .error ⟨.literal, [⟨.word "AND", 5⟩]⟩ := by
    rw [readUnary_comparison (by decide) (by decide) (by decide)]
    exact readComparison_eq_error_iff.2
      (.inr (.inr ⟨_, _, _, "x", .eq, rfl, by decide, by decide, by decide, rfl⟩))
  have refused : parse "x eq AND" = .error ⟨5, .literal, .lexeme (.word "AND")⟩ := by
    rw [parse_eq, cut]
    simp only [Except.bind, ofTokens_eq, if_neg (List.cons_ne_nil _ _), readFilter_eq, comparison]
    rfl
  refine ⟨cut, otherCut, refused, ?_⟩
  rcases parse_layout cut otherCut same with ⟨f, parsed, -⟩ |
    ⟨index, expected, -, refusedAt, otherRefused⟩
  · rw [refused] at parsed
    cases parsed
  · rw [refused] at refusedAt
    rw [otherRefused]
    rcases index with _ | _ | _ | more <;> cases refusedAt
    rfl

end Texts

end RecordSearch.Filter
