import RecordSearch.Query.Collection
import RecordSearch.Service.Body
import RecordSearch.Service.MediaType

/-!
# The search service

Two routes share one executor: `POST /search` runs a query under a timeout, and `GET /properties`
lists what can be filtered on. Everything else is not found or not allowed. Each answer carries the
configured origin. A request waits for one of the permits of the service and gives it back with its
answer, so a request that is never answered keeps its permit.
-/

namespace RecordSearch

/-- A request as the service sees it. -/
structure Request where
  method : String
  /-- The target: a path, or an address with a path, either with a query part or without one. -/
  target : String
  contentType : Option String
  body : List UInt8

/-- An answer of the service. -/
structure Response where
  status : Nat
  contentType : Option String
  /-- The origin that may read the answer. -/
  allowOrigin : Option String
  /-- The methods that the route knows, where another one was used. -/
  allow : Option String
  body : String

/-- `HttpError` — why a request is refused. -/
inductive Refused where
  | query (error : QueryError)
  | store (error : StoreError)
  | badRequest (reason : String)
  | timeout
  deriving DecidableEq

namespace Refused

/-- `HttpError::status_code`. -/
def status : Refused → Nat
  | query error =>
    if error.isClientError then 400
    else
      match error with
      | .cancelled => 503
      | _ => 500
  | timeout => 503
  | store _ => 500
  | badRequest _ => 400

/-- The message of a refused request. -/
def message : Refused → String
  | query error => error.message
  | store error => error.message
  | badRequest reason => "invalid request body: " ++ reason
  | timeout => "query timed out"

end Refused

namespace Response

/-- An answer with a JSON body. -/
def ofJson (status : Nat) (body : Json) : Response :=
  ⟨status, some "application/json", none, none, body.text⟩

/-- `HttpError::into_response` — the answer to a refused request. -/
def ofRefused (refused : Refused) : Response :=
  ofJson refused.status (.object [("error", .string refused.message)])

/-- An answer without a body. -/
def bare (status : Nat) (allow : Option String) : Response := ⟨status, none, none, allow, ""⟩

/-- The answer without its body. -/
def withoutBody (response : Response) : Response := { response with body := "" }

/-- The answer with the origin that may read it. -/
def withOrigin (origin : Option String) (response : Response) : Response :=
  { response with allowOrigin := origin }

end Response

/-- `AppOptions` — how the service is to be run. -/
structure ServiceOptions where
  /-- The milliseconds that a query may take. -/
  timeout : Nat
  /-- The origin that may read answers. -/
  corsOrigin : Option String
  /-- The queries that may run at the same time; zero counts as one. -/
  maxConcurrent : Nat

/-- The permits that the concurrency limit is to hand out. -/
def ServiceOptions.permits (options : ServiceOptions) : Nat := max options.maxConcurrent 1

/-- The most permits that a concurrency limit can hand out, `2 ^ 61 - 1`. -/
def maxPermits : Nat := 2305843009213693951

/-- Options with a concurrency limit that there can be. -/
structure RunningOptions extends ServiceOptions where
  permitted : toServiceOptions.permits ≤ maxPermits

/-- `JsonRejection::body_text` — how the library that reads bodies words why it refuses one. -/
abbrev BodyWords := Request → BodyFault → String

/-- The service: its options and the executor that its routes share. -/
structure Service where
  words : BodyWords
  options : RunningOptions
  executor : Executor
  /-- The permits kept by requests that are never answered. -/
  held : Nat := 0

/-- What a scan comes to under a timeout; nothing where the timeout elapses first. Fetches take
time, and the rest of a scan takes none. At the last moment a scan is in time. -/
def Scan.within? (timeout : Nat) (store : Store) (scan : Scan) : Option Documents :=
  match scan.outcome with
  | .hangs => none
  | .answers documents => if timeout < store.duration scan.fetches then none else some documents

namespace Service

/-- `build_app` — the service that runs an executor, if there can be its concurrency limit. -/
def build? (words : BodyWords) (options : ServiceOptions) (executor : Executor) : Option Service :=
  if permitted : options.permits ≤ maxPermits then
    some { words, options := ⟨options, permitted⟩, executor }
  else none

/-- The query of a search request. -/
def queryOf (request : Request) : Except BodyFault Query :=
  if !(request.contentType.map MediaType.isJson).getD false then .error .mediaType
  else if maxBodyBytes < request.body.length then .error .tooLong
  else Query.ofBytes request.body

/-- The answer that a scan under a timeout gives. -/
def searchResponse : Option Documents → Response
  | none | some (.error .cancelled) => .ofRefused .timeout
  | some (.ok documents) => .ofJson 200 (.array (documents.map .object))
  | some (.error error) => .ofRefused (.query error)

/-- `search` — the answer to a search, and the service after it. Every search has a token of its
own. -/
def search (service : Service) (request : Request) : Response × Service :=
  match queryOf request with
  | .error fault => (.ofRefused (.badRequest (service.words request fault)), service)
  | .ok query =>
    let (scan, executor) := service.executor.execute query false
    let result := scan.within? service.options.timeout service.executor.store
    (searchResponse result, { service with executor := executor })

/-- The answer that collecting the properties gives. -/
def propertiesResponse : Collected → Response
  | .error error => .ofRefused (.store error)
  | .ok properties =>
    .ofJson 200 (.object [("status", .string "success"), ("properties", properties.json)])

/-- `properties` — the answer with the properties of the store; the collection has no timeout. -/
def properties (service : Service) : Outcome Response :=
  (Properties.ofStore service.executor.store).map propertiesResponse

section Targets

/-- The part of a target before its query. -/
def beforeQuery (target : List Char) : List Char := target.takeWhile fun c => c != '?' && c != '#'

/-- Whether a character can stand in a scheme. -/
def isSchemeChar (c : Char) : Bool := c.isAlphanum || "+-.".toList.contains c

/-- What follows the scheme of an address. -/
def afterScheme? : List Char → Option (List Char)
  | ':' :: '/' :: '/' :: rest => some rest
  | c :: rest => if isSchemeChar c then afterScheme? rest else none
  | [] => none

/-- `Uri::path` — the path of a target. Behind a scheme and a host the empty path is the root, and
without a scheme a target that is no path has none. -/
def pathOf (target : String) : String :=
  match target.toList with
  | ['*'] => "*"
  | '/' :: rest => String.ofList (beforeQuery ('/' :: rest))
  | address =>
    match afterScheme? address with
    | none => ""
    | some rest =>
      match (beforeQuery rest).dropWhile (· != '/') with
      | [] => "/"
      | path => String.ofList path

end Targets

/-- The answer of the route of a request, and the service after it. -/
def route (service : Service) (request : Request) : Outcome Response × Service :=
  if pathOf request.target = "/search" then
    if request.method = "POST" then
      let (response, service) := service.search request
      (.answers response, service)
    else (.answers (.bare 405 (some "POST")), service)
  else if pathOf request.target = "/properties" then
    if request.method = "GET" then (service.properties, service)
    else if request.method = "HEAD" then (service.properties.map Response.withoutBody, service)
    else (.answers (.bare 405 (some "GET,HEAD")), service)
  else (.answers (.bare 404 none), service)

/-- The service after the outcome of a request: the permit comes back with an answer only. -/
def after (service : Service) : Outcome Response → Service
  | .answers _ => service
  | .hangs => { service with held := service.held + 1 }

/-- The answer to a request, and the service after it. Without a permit left the request waits for
good, because the permits that are kept never come back. -/
def answer (service : Service) (request : Request) : Outcome Response × Service :=
  if service.held < service.options.permits then
    let (outcome, routed) := service.route request
    (outcome.map (Response.withOrigin service.options.corsOrigin), routed.after outcome)
  else (.hangs, service)

/-- The answers to some requests, each sent once the one before it was answered. -/
def answerAll (service : Service) : List Request → List (Outcome Response)
  | [] => []
  | request :: requests =>
    match service.answer request with
    | (.answers response, service) => .answers response :: service.answerAll requests
    | (.hangs, _) => [.hangs]

end Service

end RecordSearch
