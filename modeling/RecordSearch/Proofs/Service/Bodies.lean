import RecordSearch.Proofs.Json.Outlines
import RecordSearch.Proofs.Json.Rereading
import RecordSearch.Proofs.Results
import RecordSearch.Proofs.Text.Symbols
import RecordSearch.Service.Router

/-!
# Which bodies are queries

A body is a query where the whole of it is JSON and denotes one: an object with a list of strings
under `projection` and at most one string under `filters`, or the list of the two. The order of the
members does not matter, and a member with another name only has to follow the grammar. A request
asks the query of its body where the content type is one of JSON and the body is not too long.
-/

namespace RecordSearch

open Json (Outline Takes takes_nil_iff takes_cons_iff takes_none_some_iff)

namespace Json.Outline

/-- The outline of a list of strings. -/
def strings (values : List String) : Outline :=
  array (values.map fun value => string (some value)) true

/-- The values of the members with a name, in order. -/
def valuesOf (name : String) (members : List (Option String × Outline)) : List Outline :=
  (members.filter (·.1 = some name)).map Prod.snd

variable {name : String} {members : List (Option String × Outline)}

/-- The value of the first member counts if that has the name. -/
theorem valuesOf_cons {key : String} {value : Outline} :
    valuesOf name ((some key, value) :: members) =
      if key = name then value :: valuesOf name members else valuesOf name members := by
  unfold valuesOf
  by_cases same : key = name <;> simp [same]

/-- A list of strings follows the grammar. -/
theorem wellFormed_strings (values : List String) : (strings values).wellFormed = true := by
  have items : wellFormedItems (values.map fun value => string (some value)) = true := by
    induction values with
    | nil => rfl
    | cons value more ih =>
      rw [List.map_cons, wellFormedItems, ih]
      rfl
  rw [strings, wellFormed, items]
  rfl

end Json.Outline

section Queries

/-- The outline denotes the query: as an object or as a list, and without a filter text as with an
empty one. -/
inductive Query.DenotedBy : Query → Outline → Prop where
  | object {projection : List String} {filters : Option String}
    {members : List (Option String × Outline)}
    (readable : ∀ member ∈ members, member.1.isSome = true ∧ member.2.wellFormed = true)
    (one : Outline.valuesOf "projection" members = [.strings projection])
    (atMostOne : Outline.valuesOf "filters" members =
      filters.toList.map fun text => .string (some text)) :
    DenotedBy ⟨projection, filters.getD ""⟩ (.object members true)
  | list (projection : List String) (filters : Option String) :
    DenotedBy ⟨projection, filters.getD ""⟩
      (.array (.strings projection :: filters.toList.map fun text => .string (some text)) true)

/-- The body of the request denotes the query: the whole of it is JSON, and its outline does. -/
def Request.Holds (request : Request) (query : Query) : Prop :=
  ∃ found, Json.outline (Text.symbols request.body) = (found, true) ∧ query.DenotedBy found

/-- The content type of the request is one of JSON. -/
def Request.IsJson (request : Request) : Prop :=
  ∃ contentType, request.contentType = some contentType ∧ MediaType.isJson contentType = true

/-- The request asks the query. -/
structure Request.Asks (request : Request) (query : Query) : Prop where
  isJson : request.IsJson
  short : request.body.length ≤ maxBodyBytes
  holds : request.Holds query

/-- Why the request asks no query: its content type comes first, then the length of its body, and
then what is in the body. -/
inductive Request.RefusedFor (request : Request) : BodyFault → Prop where
  | mediaType (notJson : ¬request.IsJson) : request.RefusedFor .mediaType
  | tooLong (isJson : request.IsJson) (long : maxBodyBytes < request.body.length) :
    request.RefusedFor .tooLong
  | contents {fault : BodyFault} (isJson : request.IsJson)
    (short : request.body.length ≤ maxBodyBytes) (nothing : ∀ query, ¬request.Holds query)
    (read : Query.ofBytes request.body = .error fault) : request.RefusedFor fault

end Queries

section Values

variable {path : List BodyStep} {found : Outline}

/-- A string is read from a string that denotes one. -/
theorem bodyString_eq_ok_iff {value : String} :
    bodyString path found = .ok value ↔ found = .string (some value) := by
  cases found with
  | string value? => cases value? <;> simp [bodyString]
  | _ => simp [bodyString]

/-- Strings are read one by one from items that are strings. -/
theorem bodyStringsFrom_eq_ok_iff {index : Nat} {items : List Outline} {values : List String} :
    bodyStringsFrom path index items = .ok values ↔
      items = values.map fun value => .string (some value) := by
  induction items generalizing index values with
  | nil => cases values <;> simp [bodyStringsFrom]
  | cons item more ih =>
    have steps : bodyStringsFrom path index (item :: more) =
        (bodyString (path ++ [.index index]) item).bind fun value =>
          (bodyStringsFrom path (index + 1) more).bind fun others => .ok (value :: others) := rfl
    rw [steps]
    simp only [bind_eq_ok_iff, bodyString_eq_ok_iff, ih]
    constructor
    · intro read
      obtain ⟨value, isString, others, areStrings, same⟩ := read
      cases same
      rw [isString, areStrings, List.map_cons]
    · intro split
      cases values with
      | nil => cases split
      | cons value others =>
        have both : item = .string (some value) ∧ more = others.map fun value =>
            .string (some value) := List.cons.inj split
        exact ⟨value, both.1, others, both.2, rfl⟩

/-- A list of strings is read from a closed list of them. -/
theorem bodyStrings_eq_ok_iff {values : List String} :
    bodyStrings path found = .ok values ↔ found = .strings values := by
  cases found with
  | array items closed =>
    have steps : bodyStrings path (.array items closed) =
        (bodyStringsFrom path 0 items).bind fun values =>
          if closed then .ok values else .error .malformed := rfl
    rw [steps]
    simp only [bind_eq_ok_iff, bodyStringsFrom_eq_ok_iff]
    cases closed <;> simp [Outline.strings]
  | _ => simp [bodyStrings, Outline.strings]

end Values

namespace QueryParts

variable {parts after : QueryParts} {value : Outline}

/-- The projection is added where there was none, from a list of strings. -/
theorem add_projection_iff :
    parts.add "projection" value = .ok after ↔
      parts.projection = none ∧ ∃ projection, value = .strings projection ∧
        { parts with projection := some projection } = after := by
  unfold add
  rw [if_pos rfl]
  cases parts.projection with
  | some _ => simp
  | none =>
    have steps : (bodyStrings [.key "projection"] value).bind (fun projection =>
        .ok { parts with projection := some projection }) = .ok after ↔
        ∃ projection, value = .strings projection ∧
          { parts with projection := some projection } = after := by
      simp only [bind_eq_ok_iff, bodyStrings_eq_ok_iff, Except.ok.injEq]
    exact steps.trans (and_iff_right rfl).symm

/-- The filter text is added where there was none, from a string. -/
theorem add_filters_iff :
    parts.add "filters" value = .ok after ↔
      parts.filters = none ∧ ∃ filters, value = .string (some filters) ∧
        { parts with filters := some filters } = after := by
  unfold add
  rw [if_neg (by decide), if_pos rfl]
  cases parts.filters with
  | some _ => simp
  | none =>
    have steps : (bodyString [.key "filters"] value).bind (fun filters =>
        .ok { parts with filters := some filters }) = .ok after ↔
        ∃ filters, value = .string (some filters) ∧
          { parts with filters := some filters } = after := by
      simp only [bind_eq_ok_iff, bodyString_eq_ok_iff, Except.ok.injEq]
    exact steps.trans (and_iff_right rfl).symm

/-- A member with another name adds nothing, and only has to follow the grammar. -/
theorem add_other_iff {key : String} (notProjection : key ≠ "projection")
    (notFilters : key ≠ "filters") :
    parts.add key value = .ok after ↔ value.wellFormed = true ∧ parts = after := by
  unfold add
  rw [if_neg notProjection, if_neg notFilters]
  by_cases readable : value.wellFormed = true
  · simp [readable]
  · simp [readable]

/-- The members are added where all of them can be read and each part has at most one value. -/
theorem addAll_eq_ok_iff {members : List (Option String × Outline)} :
    parts.addAll members = .ok after ↔
      (∀ member ∈ members, member.1.isSome = true ∧ member.2.wellFormed = true) ∧
        Takes (fun projection found => found = .strings projection) parts.projection
          (Outline.valuesOf "projection" members) after.projection ∧
        Takes (fun text found => found = .string (some text)) parts.filters
          (Outline.valuesOf "filters" members) after.filters := by
  -- A member adds to one part and leaves the other one, so the parts change from member to member.
  induction members generalizing parts with
  | nil =>
    rw [addAll, Except.ok.injEq]
    constructor
    · intro same
      rw [same]
      exact ⟨List.forall_mem_nil _, .nothing, .nothing⟩
    · intro taken
      have sameProjection : after.projection = parts.projection := takes_nil_iff.1 taken.2.1
      have sameFilters : after.filters = parts.filters := takes_nil_iff.1 taken.2.2
      cases parts
      cases after
      cases sameProjection
      cases sameFilters
      rfl
  | cons member more ih =>
    obtain ⟨key?, value⟩ := member
    cases key? with
    | none => simp [addAll]
    | some key =>
      have steps : parts.addAll ((some key, value) :: more) =
          (parts.add key value).bind fun parts => parts.addAll more := rfl
      rw [steps, bind_eq_ok_iff, List.forall_mem_cons]
      simp only [ih, Outline.valuesOf_cons, Option.isSome_some, true_and]
      by_cases isProjection : key = "projection"
      · subst isProjection
        rw [if_pos rfl, if_neg (by decide), takes_cons_iff]
        constructor
        · intro read
          obtain ⟨added, first, readable, projections, filters⟩ := read
          obtain ⟨missing, projection, areStrings, same⟩ := add_projection_iff.1 first
          subst same
          have wellFormed : value.wellFormed = true := by
            rw [areStrings]
            exact Outline.wellFormed_strings projection
          exact ⟨⟨wellFormed, readable⟩, ⟨missing, projection, areStrings, projections⟩, filters⟩
        · intro taken
          obtain ⟨⟨-, readable⟩, ⟨missing, projection, areStrings, projections⟩, filters⟩ := taken
          have first : parts.add "projection" value =
              .ok { parts with projection := some projection } :=
            add_projection_iff.2 ⟨missing, projection, areStrings, rfl⟩
          exact ⟨_, first, readable, projections, filters⟩
      by_cases isFilters : key = "filters"
      · subst isFilters
        rw [if_neg (by decide), if_pos rfl, takes_cons_iff]
        constructor
        · intro read
          obtain ⟨added, first, readable, projections, filters⟩ := read
          obtain ⟨missing, text, isString, same⟩ := add_filters_iff.1 first
          subst same
          have wellFormed : value.wellFormed = true := by
            rw [isString]
            rfl
          exact ⟨⟨wellFormed, readable⟩, projections, missing, text, isString, filters⟩
        · intro taken
          obtain ⟨⟨-, readable⟩, projections, missing, text, isString, filters⟩ := taken
          have first : parts.add "filters" value = .ok { parts with filters := some text } :=
            add_filters_iff.2 ⟨missing, text, isString, rfl⟩
          exact ⟨_, first, readable, projections, filters⟩
      rw [if_neg isProjection, if_neg isFilters]
      constructor
      · intro read
        obtain ⟨added, first, readable, taken⟩ := read
        obtain ⟨wellFormed, same⟩ := (add_other_iff isProjection isFilters).1 first
        rw [same]
        exact ⟨⟨wellFormed, readable⟩, taken⟩
      · intro allRead
        obtain ⟨⟨wellFormed, readable⟩, taken⟩ := allRead
        have first : parts.add key value = .ok parts :=
          (add_other_iff isProjection isFilters).2 ⟨wellFormed, rfl⟩
        exact ⟨parts, first, readable, taken⟩

end QueryParts

section Outlines

variable {found : Outline} {query : Query}

/-- A part that was not there before comes from the only value of its name, if there is one. -/
theorem takes_string_iff {values : List Outline} {filters : Option String} :
    Takes (fun text found => found = .string (some text)) none values filters ↔
      values = filters.toList.map fun text => .string (some text) := by
  cases filters with
  | none =>
    constructor
    · intro taken
      cases taken
      rfl
    · intro empty
      rw [empty]
      exact .nothing
  | some text =>
    rw [takes_none_some_iff]
    constructor
    · intro taken
      obtain ⟨value, one, isString⟩ := taken
      rw [one, isString]
      rfl
    · intro one
      exact ⟨.string (some text), one, rfl⟩

/-- The members of an object make up the queries that it denotes. -/
theorem queryOfMembers_eq_ok_iff {members : List (Option String × Outline)} {closed : Bool} :
    queryOfMembers members closed = .ok query ↔ query.DenotedBy (.object members closed) := by
  unfold queryOfMembers
  change (QueryParts.addAll {} members).bind _ = .ok query ↔ _
  rw [bind_eq_ok_iff]
  constructor
  · intro read
    obtain ⟨⟨projection?, filters⟩, added, whole⟩ := read
    obtain ⟨readable, projections, texts⟩ := QueryParts.addAll_eq_ok_iff.1 added
    cases closed with
    | false => cases whole
    | true =>
      cases projection? with
      | none => cases whole
      | some projection =>
        cases whole
        obtain ⟨value, one, rfl⟩ := takes_none_some_iff.1 projections
        exact .object readable one (takes_string_iff.1 texts)
  · intro denoted
    cases denoted with
    | @object projection filters _ readable one atMostOne =>
      have projections : Takes (fun projection found => found = .strings projection) none
          (Outline.valuesOf "projection" _) (some projection) :=
        takes_none_some_iff.2 ⟨_, one, rfl⟩
      have added : QueryParts.addAll {} members = .ok ⟨some projection, filters⟩ :=
        QueryParts.addAll_eq_ok_iff.2 ⟨readable, projections, takes_string_iff.2 atMostOne⟩
      exact ⟨_, added, rfl⟩

/-- The items of a list make up the queries that it denotes. -/
theorem queryOfItems_eq_ok_iff {items : List Outline} {closed : Bool} :
    queryOfItems items closed = .ok query ↔ query.DenotedBy (.array items closed) := by
  constructor
  · intro read
    cases items with
    | nil => cases closed <;> cases read
    | cons first more =>
      cases more with
      | nil =>
        have steps : queryOfItems [first] closed =
            (bodyStrings [.index 0] first).bind fun projection =>
              if closed then .ok ⟨projection, ""⟩ else .error .malformed := rfl
        rw [steps] at read
        obtain ⟨projection, areStrings, whole⟩ := bind_eq_ok_iff.1 read
        obtain rfl := bodyStrings_eq_ok_iff.1 areStrings
        cases closed with
        | false => cases whole
        | true =>
          cases whole
          exact .list projection none
      | cons second others =>
        have steps : queryOfItems (first :: second :: others) closed =
            (bodyStrings [.index 0] first).bind fun projection =>
              (bodyString [.index 1] second).bind fun filters =>
                if closed ∧ others.isEmpty then .ok ⟨projection, filters⟩
                else .error .malformed := rfl
        rw [steps] at read
        obtain ⟨projection, areStrings, rest⟩ := bind_eq_ok_iff.1 read
        obtain ⟨text, isString, whole⟩ := bind_eq_ok_iff.1 rest
        obtain rfl := bodyStrings_eq_ok_iff.1 areStrings
        obtain rfl := bodyString_eq_ok_iff.1 isString
        by_cases ends : closed = true ∧ others.isEmpty = true
        · rw [if_pos ends] at whole
          obtain ⟨rfl, isLast⟩ := ends
          obtain rfl := List.isEmpty_iff.1 isLast
          cases whole
          exact .list projection (some text)
        · rw [if_neg ends] at whole
          cases whole
  · intro denoted
    cases denoted with
    | @list projection filters =>
      have projections : bodyStrings [.index 0] (.strings projection) = .ok projection :=
        bodyStrings_eq_ok_iff.2 rfl
      cases filters with
      | none =>
        show (bodyStrings [.index 0] (.strings projection)).bind _ = _
        rw [projections]
        rfl
      | some text =>
        show (bodyStrings [.index 0] (.strings projection)).bind _ = _
        rw [projections]
        rfl

/-- An outline is read as the queries that it denotes. -/
theorem Query.ofOutline_eq_ok_iff : ofOutline found = .ok query ↔ query.DenotedBy found := by
  cases found with
  | object members closed => exact queryOfMembers_eq_ok_iff
  | array items closed => exact queryOfItems_eq_ok_iff
  | null | bool value | number value | string value | broken =>
    constructor
    · intro read
      cases read
    · intro denoted
      cases denoted

end Outlines

section Requests

variable {request : Request} {query : Query}

/-- A body is read as the query that it denotes. -/
theorem Query.ofBytes_eq_ok_iff : ofBytes request.body = .ok query ↔ request.Holds query := by
  unfold Request.Holds
  cases read : Json.outline (Text.symbols request.body) with
  | mk found ended =>
    have steps : ofBytes request.body =
        (ofOutline found).bind fun query => if ended then .ok query else .error .malformed := by
      unfold ofBytes
      rw [read]
      rfl
    rw [steps, bind_eq_ok_iff]
    simp only [Query.ofOutline_eq_ok_iff]
    constructor
    · intro read
      obtain ⟨other, denoted, whole⟩ := read
      cases ended with
      | false => cases whole
      | true =>
        cases whole
        exact ⟨found, rfl, denoted⟩
    · intro holds
      obtain ⟨other, same, denoted⟩ := holds
      cases same
      exact ⟨query, denoted, rfl⟩

namespace Service

/-- The test of the content type is whether it is one of JSON. -/
theorem isJson_iff :
    (request.contentType.map MediaType.isJson).getD false = true ↔ request.IsJson := by
  unfold Request.IsJson
  cases request.contentType <;> simp

/-- The content type is looked at first. -/
theorem queryOf_of_notJson (notJson : ¬request.IsJson) : queryOf request = .error .mediaType := by
  rw [queryOf, Bool.eq_false_iff.2 (mt isJson_iff.1 notJson)]
  rfl

/-- The length of the body comes second. -/
theorem queryOf_of_long (isJson : request.IsJson) (long : maxBodyBytes < request.body.length) :
    queryOf request = .error .tooLong := by
  rw [queryOf, isJson_iff.2 isJson, if_neg (by decide), if_pos long]

/-- A short body of JSON is read. -/
theorem queryOf_of_short (isJson : request.IsJson) (short : request.body.length ≤ maxBodyBytes) :
    queryOf request = Query.ofBytes request.body := by
  rw [queryOf, isJson_iff.2 isJson, if_neg (by decide), if_neg (Nat.not_lt.2 short)]

/-- The query of a request is the one that the request asks. -/
theorem queryOf_eq_ok_iff : queryOf request = .ok query ↔ request.Asks query := by
  constructor
  · intro read
    by_cases isJson : request.IsJson
    · by_cases short : request.body.length ≤ maxBodyBytes
      · rw [queryOf_of_short isJson short] at read
        exact ⟨isJson, short, Query.ofBytes_eq_ok_iff.1 read⟩
      · rw [queryOf_of_long isJson (Nat.lt_of_not_le short)] at read
        cases read
    · rw [queryOf_of_notJson isJson] at read
      cases read
  · intro asks
    rw [queryOf_of_short asks.isJson asks.short]
    exact Query.ofBytes_eq_ok_iff.2 asks.holds

/-- A request without a query has the fault that it is refused for. -/
theorem queryOf_eq_error_iff {fault : BodyFault} :
    queryOf request = .error fault ↔ request.RefusedFor fault := by
  constructor
  · intro refused
    by_cases isJson : request.IsJson
    · by_cases short : request.body.length ≤ maxBodyBytes
      · rw [queryOf_of_short isJson short] at refused
        refine .contents isJson short ?_ refused
        intro query holds
        rw [Query.ofBytes_eq_ok_iff.2 holds] at refused
        cases refused
      · have long : maxBodyBytes < request.body.length := Nat.lt_of_not_le short
        rw [queryOf_of_long isJson long] at refused
        cases refused
        exact .tooLong isJson long
    · rw [queryOf_of_notJson isJson] at refused
      cases refused
      exact .mediaType isJson
  · intro refused
    cases refused with
    | mediaType notJson => exact queryOf_of_notJson notJson
    | tooLong isJson long => exact queryOf_of_long isJson long
    | contents isJson short nothing read => rw [queryOf_of_short isJson short, read]

end Service

/-- A request asks at most one query. -/
theorem Request.Asks.unique {other : Query} (asks : request.Asks query)
    (asksOther : request.Asks other) : query = other := by
  have read : Service.queryOf request = .ok query := Service.queryOf_eq_ok_iff.2 asks
  rw [Service.queryOf_eq_ok_iff.2 asksOther] at read
  exact (Except.ok.inj read).symm

end Requests

section Written

/-- A query as JSON. -/
def Query.json (query : Query) : Json :=
  .object [("projection", .array (query.projection.map .string)), ("filters", .string query.filters)]

/-- The outline of a written list of strings says all of them. -/
theorem Json.Outline.written_strings (values : List String) :
    written (.array (values.map .string)) = strings values := by
  have items : writtenItems (values.map .string) = values.map fun value => string (some value) := by
    induction values with
    | nil => rfl
    | cons value more ih =>
      rw [List.map_cons, writtenItems, ih]
      rfl
  rw [written, items, strings]

/-- The outline of a written query denotes the query. -/
theorem Query.denotedBy_written (query : Query) : query.DenotedBy (.written query.json) := by
  have members : Outline.written query.json =
      .object [(some "projection", .strings query.projection),
        (some "filters", .string (some query.filters))] true := by
    rw [← Outline.written_strings]
    rfl
  rw [members]
  refine @Query.DenotedBy.object query.projection (some query.filters) _ ?_ rfl rfl
  intro member isMember
  simp only [List.mem_cons, List.not_mem_nil, or_false] at isMember
  rcases isMember with rfl | rfl
  · exact ⟨rfl, Outline.wellFormed_strings query.projection⟩
  · exact ⟨rfl, rfl⟩

/-- A query arrives as it was written: a request whose body is the text of the query, and not too
long, asks it. -/
theorem Query.asks_of_written {request : Request} {query : Query} (isJson : request.IsJson)
    (short : request.body.length ≤ maxBodyBytes)
    (written : request.body = Text.bytes query.json.text) : request.Asks query := by
  refine ⟨isJson, short, .written query.json, ?_, query.denotedBy_written⟩
  rw [written, Text.symbols_bytes]
  exact Json.outline_text query.json

end Written

end RecordSearch
