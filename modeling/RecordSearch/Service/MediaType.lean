/-!
# Media types

Whether a content type says that a body is JSON: `application/json`, or a subtype of `application`
with the suffix `json`, in any letter case and with any well-formed parameters.
-/

namespace RecordSearch.MediaType

/-- Whether a character can stand in a name. -/
def isTokenChar (c : Char) : Bool := c.isAlphanum || "!#$%&'*+-.^_`|~".toList.contains c

/-- Whether a character can stand in a quoted parameter value. -/
def isQuotable (c : Char) : Bool := ' ' ≤ c && c ≤ '~'

/-- A place in the parameters. -/
inductive Place where
  | start
  | name
  | valueStart
  | value
  | quotedStart
  | quoted
  | afterQuoted
  deriving DecidableEq

/-- The place after one character; none where the character cannot stand. A quoted value has at
least one character, which can be a quote. -/
def Place.next? (place : Place) (c : Char) : Option Place :=
  match place with
  | start => if c = ' ' then some start else if isTokenChar c then some name else none
  | name => if isTokenChar c then some name else if c = '=' then some valueStart else none
  | valueStart =>
    if c = '"' then some quotedStart else if isTokenChar c then some value else none
  | value => if isTokenChar c then some value else if c = ';' then some start else none
  | quotedStart => if isQuotable c then some quoted else none
  | quoted => if c = '"' then some afterQuoted else if isQuotable c then some quoted else none
  | afterQuoted => if c = ';' then some start else if c = ' ' then some afterQuoted else none

/-- Whether the parameters can end at a place. -/
def Place.canEnd : Place → Bool
  | start | valueStart | value | afterQuoted => true
  | name | quotedStart | quoted => false

/-- Whether a text is a list of parameters. -/
def areParameters (text : List Char) : Bool :=
  ((text.foldlM Place.next? Place.start).map Place.canEnd).getD false

/-- A subtype cut at its last plus sign; a plus sign in front cuts nothing. -/
def subtypeParts (subtype : List Char) : List Char × Option (List Char) :=
  let suffix := (subtype.reverse.takeWhile (· != '+')).reverse
  let stem := subtype.take (subtype.length - suffix.length - 1)
  if stem.isEmpty then (subtype, none) else (stem, some suffix)

/-- Whether a content type is one of JSON. -/
def isJson (contentType : String) : Bool :=
  let lower := contentType.toList.map Char.toLower
  let kind := lower.takeWhile isTokenChar
  match lower.dropWhile isTokenChar with
  | '/' :: rest =>
    let subtype := rest.takeWhile isTokenChar
    let parametersFit :=
      match rest.dropWhile isTokenChar with
      | [] => true
      | ';' :: parameters => areParameters parameters
      | _ => false
    let (stem, suffix) := subtypeParts subtype
    kind == "application".toList && !subtype.isEmpty && parametersFit &&
      (stem == "json".toList || suffix == some "json".toList)
  | _ => false

end RecordSearch.MediaType
