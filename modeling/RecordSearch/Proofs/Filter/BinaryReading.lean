import RecordSearch.Proofs.Filter.Grammar
import RecordSearch.Proofs.Filter.Rewriting

/-!
# Filters read with binary nodes

Read strictly from left to right, every connective joins all operands before it with the one after
it, in a node of two children. The parser puts a run of one connective into one node instead. Every
text that parses has one of these readings, and all its readings are walked as the parsed filter is.
-/

namespace RecordSearch.Filter

mutual

/-- The lexemes are a unary filter, read with binary nodes. -/
inductive BinaryUnary : List Lexeme → Filter → Prop where
  | negation {word : String} {operand : List Lexeme} {f : Filter}
    (spelled : Keyword.not.Spells word) (read : BinaryUnary operand f) :
    BinaryUnary (.word word :: operand) (.not f)
  | group {inner : List Lexeme} {f : Filter} (read : BinaryJoined inner f) :
    BinaryUnary (.opening :: inner ++ [.closing]) f
  | comparison {name word : String} {operator : Operator} {last : Lexeme} {literal : Literal}
    (field : IsField name) (spelled : Operator.ofWord? word = some operator)
    (denoted : IsLiteral last literal) :
    BinaryUnary [.word name, .word word, last] (.comparison ⟨name, operator, literal⟩)

/-- The lexemes are operands joined from left to right, read with binary nodes. -/
inductive BinaryJoined : List Lexeme → Filter → Prop where
  | single {written : List Lexeme} {f : Filter} (read : BinaryUnary written f) :
    BinaryJoined written f
  | join {before operand : List Lexeme} {word : String} {f g : Filter} (connective : Connective)
    (first : BinaryJoined before f) (spelled : (connectiveKeyword connective).Spells word)
    (second : BinaryUnary operand g) :
    BinaryJoined (before ++ .word word :: operand) (connective.node [f, g])

end

/-- The filter is a reading of the text with binary nodes; a text without tokens has only the filter
that always holds. -/
def IsBinaryReading (text : String) (f : Filter) : Prop :=
  ∃ tokens, tokenize text = .ok tokens ∧
    if tokens = [] then f = always else BinaryJoined (lexemes tokens) f

section Existence

mutual

/-- What derives a unary filter can be read with binary nodes. -/
theorem exists_binaryUnary {level : Nat} {written : List Lexeme} {f : Filter}
    (derived : Unary level written f) : ∃ g, BinaryUnary written g := by
  cases derived with
  | negation shallow spelled inner =>
    obtain ⟨g, read⟩ := exists_binaryUnary inner
    exact ⟨_, .negation spelled read⟩
  | group shallow inner =>
    obtain ⟨g, read⟩ := exists_binaryJoined inner
    exact ⟨_, .group read⟩
  | comparison shallow field spelled denoted => exact ⟨_, .comparison field spelled denoted⟩
termination_by (written.length, 0)

/-- What derives a filter can be read with binary nodes. -/
theorem exists_binaryJoined {level : Nat} {written : List Lexeme} {f : Filter}
    (derived : Joined level written f) : ∃ g, BinaryJoined written g := by
  cases derived with
  | operands first later =>
    obtain ⟨g, read⟩ := exists_binaryUnary first
    exact exists_binaryJoined_append later (.single read)
termination_by (written.length, 1)
decreasing_by all_goals exact Prod.Lex.right' _ (by simp) Nat.zero_lt_one

/-- Operands that follow others are joined to them one by one. -/
theorem exists_binaryJoined_append {level : Nat} {last : Option Connective}
    {written before : List Lexeme} {later : List (Connective × Filter)} {f : Filter}
    (derived : Later level last written later) (read : BinaryJoined before f) :
    ∃ g, BinaryJoined (before ++ written) g := by
  cases derived with
  | none => exact ⟨f, by rwa [List.append_nil]⟩
  | next spelled shallow first more =>
    obtain ⟨operand, readOperand⟩ := exists_binaryUnary first
    obtain ⟨g, readAll⟩ := exists_binaryJoined_append more (.join _ read spelled readOperand)
    exact ⟨g, by simpa using readAll⟩
termination_by (written.length, 0)

end

end Existence

section Agreement

/-- A node of two children can have both replaced by filters that are walked alike. -/
theorem SameWalk.pair {f g f' g' : Filter} (first : SameWalk f f') (second : SameWalk g g')
    (connective : Connective) : SameWalk (connective.node [f, g]) (connective.node [f', g']) := by
  intro ε decide
  rw [walk_node_cons, walk_node_cons, walk_node_cons, walk_node_cons, first ε decide,
    second ε decide]

/-- One more operand is walked as if it and the operands before it were the children of a node. -/
theorem sameWalk_join {operands : Operands} {f g operand : Filter}
    (before : SameWalk f operands.tree) (last : SameWalk g operand) (connective : Connective) :
    SameWalk (connective.node [f, g]) (operands.join connective operand).tree := by
  have both : SameWalk (connective.node [f, g]) (connective.node [operands.tree, operand]) :=
    before.pair last connective
  intro ε decide
  rw [both ε decide]
  cases operands with
  | single first => rfl
  | run own children =>
    by_cases same : own = connective
    · subst same
      have spread := sameWalk_spread own [] children.toList [operand] ε decide
      simpa [Operands.join, Operands.tree] using spread
    · simp [Operands.join, Operands.tree, same]

mutual

/-- A unary filter that is read is walked as every reading of its tokens with binary nodes. -/
theorem sameWalk_of_readUnary {written : List Lexeme} {g : Filter}
    (binary : BinaryUnary written g) {tokens : List Token} (same : lexemes tokens = written)
    {level : Nat} {rest left : List Token} {f : Filter}
    (read : readUnary level (tokens ++ rest) = .ok (f, left)) : left = rest ∧ SameWalk g f := by
  by_cases deep : maxDepth ≤ level
  · rw [readUnary_deep deep] at read
    cases read
  have shallow : level < maxDepth := Nat.lt_of_not_le deep
  cases binary with
  | negation spelled inner =>
    obtain ⟨token, operand, split, worded, sameOperand⟩ := exists_of_lexemes_cons same
    have fewer : operand.length < tokens.length := by simp [split]
    have isNot : token.keyword? = some .not := Token.keyword?_eq_some_iff.2 ⟨_, worded, spelled⟩
    rw [split, List.cons_append, readUnary_not shallow isNot] at read
    obtain ⟨⟨found, after⟩, readOperand, result⟩ := map_eq_ok_iff.1 read
    cases result
    obtain ⟨ends, sameWalk⟩ := sameWalk_of_readUnary inner sameOperand readOperand
    exact ⟨ends, sameWalk.operand⟩
  | group inner =>
    obtain ⟨token, more, split, opening, sameMore⟩ := exists_of_lexemes_cons same
    obtain ⟨inside, ending, splitMore, sameInside, sameEnding⟩ := exists_of_lexemes_append sameMore
    have fewer : inside.length < tokens.length := by
      simp only [split, splitMore, List.length_cons, List.length_append]
      omega
    obtain ⟨next, nothing, rfl, closing, noLexeme⟩ := exists_of_lexemes_cons sameEnding
    obtain rfl := List.map_eq_nil_iff.1 noLexeme
    rw [split, splitMore, List.cons_append, readUnary_opening shallow opening, List.append_assoc,
      List.singleton_append] at read
    obtain ⟨⟨found, after⟩, readInner, closed⟩ := bind_eq_ok_iff.1 read
    obtain ⟨last, operands, sameWalk, stopped⟩ :=
      exists_operands_of_readFilter inner sameInside readInner
    rw [readOperands_stop (connective?_of_closing closing)] at stopped
    cases stopped
    obtain ⟨_, ends, -, rfl⟩ := closeGroup_eq_ok_iff.1 closed
    obtain ⟨-, rfl⟩ := List.cons.inj ends
    exact ⟨rfl, sameWalk⟩
  | comparison field spelled denoted =>
    rw [readUnary_of_isField shallow field spelled denoted same rest] at read
    cases read
    exact ⟨rfl, fun _ _ => rfl⟩
termination_by (tokens.length, 0)

/-- After the tokens of a reading with binary nodes the operands read so far are walked as it is. -/
theorem exists_operands_of_readFilter {written : List Lexeme} {g : Filter}
    (binary : BinaryJoined written g) {tokens : List Token} (same : lexemes tokens = written)
    {level : Nat} {rest left : List Token} {f : Filter}
    (read : readFilter level (tokens ++ rest) = .ok (f, left)) :
    ∃ last operands, SameWalk g operands.tree ∧
      readOperands last operands rest = .ok (f, left) := by
  cases binary with
  | single unary =>
    rw [readFilter_eq] at read
    obtain ⟨⟨first, after⟩, readFirst, readLater⟩ := bind_eq_ok_iff.1 read
    obtain ⟨rfl, sameWalk⟩ := sameWalk_of_readUnary unary same readFirst
    exact ⟨level, .single first, sameWalk, readLater⟩
  | join connective first spelled second =>
    obtain ⟨before, more, split, sameBefore, sameMore⟩ := exists_of_lexemes_append same
    obtain ⟨token, operand, rfl, worded, sameOperand⟩ := exists_of_lexemes_cons sameMore
    have fewer : before.length < tokens.length ∧ operand.length < tokens.length := by
      simp only [split, List.length_append, List.length_cons]
      omega
    have joins := Token.connective?_eq_some_iff.2 ⟨_, worded, spelled⟩
    rw [split, List.append_assoc, List.cons_append] at read
    obtain ⟨last, operands, sameWalk, readLater⟩ :=
      exists_operands_of_readFilter first sameBefore read
    by_cases deep : maxDepth ≤ levelAfter operands.connective? connective last
    · rw [readOperands_deep joins deep] at readLater
      cases readLater
    rw [readOperands_join joins (Nat.lt_of_not_le deep)] at readLater
    obtain ⟨⟨found, after⟩, readOperand, readRest⟩ := bind_eq_ok_iff.1 readLater
    obtain ⟨rfl, sameOperandWalk⟩ := sameWalk_of_readUnary second sameOperand readOperand
    exact ⟨_, _, sameWalk_join sameWalk sameOperandWalk connective, readRest⟩
termination_by (tokens.length, 1)

end

end Agreement

/-- A text that parses has a reading with binary nodes, and every one of them is walked as the
parsed filter is. -/
theorem exists_binaryReading_of_parse {text : String} {f : Filter} (parsed : parse text = .ok f) :
    (∃ g, IsBinaryReading text g) ∧ ∀ g, IsBinaryReading text g → SameWalk g f := by
  obtain ⟨tokens, cut, formed⟩ := parse_eq_ok_iff.1 parsed
  by_cases empty : tokens = []
  · subst empty
    have isAlways : f = always := by
      rw [ofTokens_eq, if_pos rfl] at formed
      cases formed
      rfl
    refine ⟨⟨always, [], cut, by rw [if_pos rfl]⟩, ?_⟩
    rintro g ⟨others, cutAgain, read⟩
    obtain rfl := Except.ok.inj (cut.symm.trans cutAgain)
    rw [if_pos rfl] at read
    rw [read, isAlways]
    exact fun _ _ => rfl
  · have derived : Joined 0 (lexemes tokens) f :=
      (ofTokens_eq_ok_iff.1 formed).resolve_left fun none => empty none.1
    constructor
    · obtain ⟨g, read⟩ := exists_binaryJoined derived
      exact ⟨g, tokens, cut, by rwa [if_neg empty]⟩
    · rintro g ⟨others, cutAgain, read⟩
      obtain rfl := Except.ok.inj (cut.symm.trans cutAgain)
      rw [if_neg empty] at read
      have ends : StartsNoConnective [] := by simp [StartsNoConnective]
      have readAll : readFilter 0 (tokens ++ []) = .ok (f, []) :=
        readFilter_of_joined derived rfl ends
      obtain ⟨last, operands, sameWalk, stopped⟩ := exists_operands_of_readFilter read rfl readAll
      rw [readOperands_nil] at stopped
      cases stopped
      exact sameWalk

/-- Spreading out a node in one of its connective, moving `not` to the children of a node and
leaving out two `not`, any number of times, in either direction and anywhere in a filter, leaves
unchanged for which comparisons a walk asks and what it comes to. A text that parses has a reading
with binary nodes, and every one of them is walked as the parsed filter is. -/
theorem sameWalk_of_rewritten_or_read :
    (∀ f g : Filter, Relation.EqvGen Rewrites f g →
      ∀ (ε : Type) (decide : Comparison → Except ε Bool),
        (f.walk decide).result = (g.walk decide).result ∧
          (f.walk decide).asked = (g.walk decide).asked) ∧
      ∀ (text : String) (f : Filter), parse text = .ok f →
        (∃ g, IsBinaryReading text g) ∧
          ∀ g, IsBinaryReading text g →
            ∀ (ε : Type) (decide : Comparison → Except ε Bool), g.walk decide = f.walk decide := by
  constructor
  · intro f g rewritten ε decide
    have same : f.walk decide = g.walk decide := sameWalk_of_eqvGen rewritten ε decide
    rw [same]
    exact ⟨rfl, rfl⟩
  · intro text f parsed
    exact exists_binaryReading_of_parse parsed

end RecordSearch.Filter
