import RecordSearch.Filter.Evaluation
import RecordSearch.Projection
import RecordSearch.Query.Cache
import RecordSearch.Store.Basic

/-!
# Running queries

A query walks the ids of a store in order, evaluates its filter on every record found, and projects
the matches. It gives all documents or one error. Before every fetch it looks at the cancellation
token, which stays set once it is set.
-/

namespace RecordSearch

/-- `QueryRequest` — what a client asks for. -/
structure Query where
  /-- The paths to project each match to. -/
  projection : List String
  /-- The text of the filter. -/
  filters : String

/-- `QueryError` — why a query has no documents. -/
inductive QueryError where
  | invalid (error : Filter.SyntaxError)
  | type (error : TypeError)
  | store (error : StoreError)
  | cancelled
  deriving DecidableEq

namespace QueryError

/-- The message of a query error. -/
def message : QueryError → String
  | invalid error => error.message
  | type error => error.message
  | store error => "store error: " ++ error.message
  | cancelled => "query cancelled"

/-- `QueryError::is_client_error` — whether the query itself is at fault. -/
def isClientError : QueryError → Bool
  | invalid _ | type _ => true
  | store _ | cancelled => false

end QueryError

/-- Something that either comes to a value or never returns. -/
inductive Outcome (α : Type) where
  | answers (value : α)
  | hangs

/-- The outcome with its value replaced. -/
def Outcome.map {α β : Type} (f : α → β) : Outcome α → Outcome β
  | answers value => answers (f value)
  | hangs => hangs

/-- The documents of a query, or why there are none. -/
abbrev Documents := Except QueryError (List Document)

/-- What a scan did. -/
structure Scan where
  /-- The ids fetched, in order. -/
  fetches : List Nat
  /-- Whether the token is set afterwards. -/
  cancelled : Bool
  outcome : Outcome Documents

namespace Scan

/-- The scan with one fetch before it that gave some documents. -/
def after (id : Nat) (documents : List Document) (scan : Scan) : Scan where
  fetches := id :: scan.fetches
  cancelled := scan.cancelled
  outcome := scan.outcome.map fun rest => rest.map (documents ++ ·)

/-- The loop of `QueryExecutor::execute`: the scan of the ids in order. -/
def run (store : Store) (filter : Filter) (projection : Projection) (cancelled : Bool) :
    List Nat → Scan
  | [] => ⟨[], cancelled, .answers (.ok [])⟩
  | id :: ids =>
    if cancelled then ⟨[], true, .answers (.error .cancelled)⟩
    else
      let fetch := store.fetch id
      match fetch.fetched with
      | .hangs => ⟨[id], fetch.cancels, .hangs⟩
      | .failed error => ⟨[id], fetch.cancels, .answers (.error (.store error))⟩
      | .absent => (run store filter projection fetch.cancels ids).after id []
      | .record record =>
        match filter.holdsOf record with
        | .error error => ⟨[id], fetch.cancels, .answers (.error (.type error))⟩
        | .ok true =>
          (run store filter projection fetch.cancels ids).after id [projection.apply record]
        | .ok false => (run store filter projection fetch.cancels ids).after id []

/-- A scan that ended before its first fetch. -/
def refused (cancelled : Bool) (error : QueryError) : Scan :=
  ⟨[], cancelled, .answers (.error error)⟩

/-- The scan of a query whose filter text parses to `parsed`. -/
def ofParsed (store : Store) (query : Query) (cancelled : Bool) : ParsedText → Scan
  | .error error => refused cancelled (.invalid error)
  | .ok filter =>
    match store.ids with
    | .error error => refused cancelled (.store error)
    | .ok ids => run store filter (.ofPaths query.projection) cancelled ids

/-- `execute_query` — the scan of a query on its own, with a token that is not set. -/
def ofQuery (store : Store) (query : Query) : Scan :=
  ofParsed store query false (Filter.parse query.filters)

end Scan

/-- `QueryExecutor` — runs queries against one store, with or without a cache. -/
structure Executor where
  store : Store
  cache : Option FilterCache

namespace Executor

/-- `QueryExecutor::parse` — what a text parses to, and the executor after that. -/
def parse (executor : Executor) (text : String) : ParsedText × Executor :=
  match executor.cache with
  | none => (Filter.parse text, executor)
  | some cache =>
    let (parsed, cache) := cache.getOrParse text
    (parsed, { executor with cache := some cache })

/-- `QueryExecutor::execute` — the scan of a query, and the executor after that. -/
def execute (executor : Executor) (query : Query) (cancelled : Bool) : Scan × Executor :=
  let (parsed, executor) := executor.parse query.filters
  (Scan.ofParsed executor.store query cancelled parsed, executor)

/-- The scans of some queries one after another, which share the cache and the token. -/
def executeAll (executor : Executor) (cancelled : Bool) : List Query → List Scan
  | [] => []
  | query :: queries =>
    let (scan, executor) := executor.execute query cancelled
    scan :: executor.executeAll scan.cancelled queries

end Executor

end RecordSearch
