import RecordSearch.Proofs.Query.Hangs
import RecordSearch.Proofs.Service.Bodies

/-!
# What the service answers

The answer to a request depends on the request and the store alone. Earlier requests leave two
things behind, a cache and the permits that come back, and neither shows in a later answer: the
cache is sound, and a request is sent only after the one before it was answered. The answer to a
search is told as a relation with one case for each way in which it ends. Two things make a search
time out: a fetch that never returns, and fetches that together take longer than the timeout.
-/

namespace RecordSearch

namespace Outcome

variable {α : Type}

/-- The outcomes up to the first one that is not an answer, with that one. -/
def upToHang : List (Outcome α) → List (Outcome α)
  | [] => []
  | .answers value :: outcomes => .answers value :: upToHang outcomes
  | .hangs :: _ => [.hangs]

end Outcome

namespace Service

/-- The body of an answer to a refused request: an object that has the message under `error`. -/
def errorBody (message : String) : String := (Json.object [("error", .string message)]).text

/-- The scan of a query comes to a fetch that never returns, after fetches of unknown ids and of
records that the filter can be evaluated on. -/
def NeverReturns (store : Store) (query : Query) : Prop :=
  ∃ filter ids, Filter.parse query.filters = .ok filter ∧ store.ids = .ok ids ∧
    store.ReachesHang (fun fetched => fetched.stop? filter = none) ids

/-- The fetches of the scan of a query together take longer than the timeout. -/
def Outlasts (store : Store) (timeout : Nat) (query : Query) : Prop :=
  timeout < store.duration (Scan.ofQuery store.withoutCancelling query).fetches

/-- The timeout elapses before the scan of a query comes to an end. -/
def TimesOut (store : Store) (timeout : Nat) (query : Query) : Prop :=
  NeverReturns store query ∨ Outlasts store timeout query

/-- The scan of a query comes to a result, and in time. -/
structure ScansTo (store : Store) (timeout : Nat) (query : Query) (result : Documents) : Prop where
  comes : (Scan.ofQuery store.withoutCancelling query).outcome = .answers result
  inTime : ¬Outlasts store timeout query

/-- The status and the body that a search request is answered with. -/
inductive SearchReply (words : BodyWords) (timeout : Nat) (store : Store) (request : Request) :
    Nat → String → Prop where
  /-- The request asks no query. -/
  | rejected (fault : BodyFault) (refused : request.RefusedFor fault) :
      SearchReply words timeout store request 400
        (errorBody ("invalid request body: " ++ words request fault))
  /-- The scan comes to an end. -/
  | documents (query : Query) (documents : List Document) (asks : request.Asks query)
      (scans : ScansTo store timeout query (.ok documents)) :
      SearchReply words timeout store request 200 (Json.array (documents.map .object)).text
  /-- The filter text is not a filter. -/
  | invalid (query : Query) (error : Filter.SyntaxError) (asks : request.Asks query)
      (scans : ScansTo store timeout query (.error (.invalid error))) :
      SearchReply words timeout store request 400 (errorBody error.message)
  /-- The filter cannot be evaluated on a record. -/
  | type (query : Query) (error : TypeError) (asks : request.Asks query)
      (scans : ScansTo store timeout query (.error (.type error))) :
      SearchReply words timeout store request 400 (errorBody error.message)
  /-- The store fails. -/
  | store (query : Query) (error : StoreError) (asks : request.Asks query)
      (scans : ScansTo store timeout query (.error (.store error))) :
      SearchReply words timeout store request 500 (errorBody ("store error: " ++ error.message))
  /-- The timeout elapses first. -/
  | timeout (query : Query) (asks : request.Asks query) (late : TimesOut store timeout query) :
      SearchReply words timeout store request 503 (errorBody "query timed out")

/-- A service that answered nothing yet, with a cache of a capacity or without one. Every search has
a token of its own, which no fetch reaches. -/
def fresh (words : BodyWords) (options : RunningOptions) (store : Store) (capacity : Option Nat) :
    Service where
  words := words
  options := options
  executor := .fresh store.withoutCancelling capacity

/-- The service still has the words, the options and the store that it was set up with, and a sound
cache. -/
structure Serves (service : Service) (words : BodyWords) (options : RunningOptions)
    (store : Store) : Prop where
  sameWords : service.words = words
  sameOptions : service.options = options
  sameStore : service.executor.store = store.withoutCancelling
  sound : service.executor.Sound

variable {words : BodyWords} {options : RunningOptions} {store : Store} {service : Service}

/-- A service that answered nothing yet serves its store. -/
theorem serves_fresh (words : BodyWords) (options : RunningOptions) (store : Store)
    (capacity : Option Nat) : (fresh words options store capacity).Serves words options store :=
  ⟨rfl, rfl, rfl, Executor.sound_fresh store.withoutCancelling capacity⟩

/-- A permit that is kept changes nothing else. -/
theorem Serves.after (serves : service.Serves words options store) (outcome : Outcome Response) :
    (service.after outcome).Serves words options store := by
  cases outcome with
  | answers response => exact serves
  | hangs => exact ⟨serves.sameWords, serves.sameOptions, serves.sameStore, serves.sound⟩

section Timeouts

/-- Fetches that do not cancel a scan take the time that they take otherwise. -/
theorem duration_withoutCancelling (store : Store) (ids : List Nat) :
    store.withoutCancelling.duration ids = store.duration ids := by
  induction ids with
  | nil => rfl
  | cons id ids ih =>
    rw [Store.duration, Store.duration, ih]
    rfl

/-- Nothing is there in time exactly when the timeout elapses before the scan comes to an end. -/
theorem within?_eq_none_iff {timeout : Nat} {query : Query} :
    (Scan.ofQuery store.withoutCancelling query).within? timeout store.withoutCancelling = none ↔
      TimesOut store timeout query := by
  unfold TimesOut Outlasts NeverReturns
  rw [← Scan.outcome_ofQuery_eq_hangs_iff, Scan.within?, duration_withoutCancelling]
  cases (Scan.ofQuery store.withoutCancelling query).outcome with
  | hangs => exact iff_of_true rfl (.inl rfl)
  | answers result => simp

/-- A result is there in time exactly when the scan comes to it in time. -/
theorem within?_eq_some_iff {timeout : Nat} {query : Query} {result : Documents} :
    (Scan.ofQuery store.withoutCancelling query).within? timeout store.withoutCancelling =
        some result ↔
      ScansTo store timeout query result := by
  constructor
  · intro within
    unfold Scan.within? at within
    rw [duration_withoutCancelling] at within
    cases comes : (Scan.ofQuery store.withoutCancelling query).outcome with
    | hangs =>
      rw [comes] at within
      cases within
    | answers other =>
      rw [comes] at within
      obtain ⟨inTime, same⟩ := Option.ite_none_left_eq_some.1 within
      cases same
      exact ⟨comes, inTime⟩
  · rintro ⟨comes, inTime⟩
    rw [Scan.within?, comes, duration_withoutCancelling]
    exact if_neg inTime

/-- Of the scans that end in time, only those with a fetch that never returns time out. -/
theorem timesOut_iff {timeout : Nat} {query : Query} (inTime : ¬Outlasts store timeout query) :
    TimesOut store timeout query ↔ NeverReturns store query :=
  or_iff_left inTime

end Timeouts

section Search

/-- A request that asks no query is refused. -/
theorem search_fst_of_fault {request : Request} {fault : BodyFault}
    (read : queryOf request = .error fault) :
    (service.search request).1 = .ofRefused (.badRequest (service.words request fault)) := by
  rw [search, read]

/-- A query is answered as its scan with a token of its own comes to an end in time or not. -/
theorem search_fst_of_query (serves : service.Serves words options store) {request : Request}
    {query : Query} (read : queryOf request = .ok query) :
    (service.search request).1 =
      searchResponse ((Scan.ofQuery store.withoutCancelling query).within? options.timeout
        store.withoutCancelling) := by
  have scanned : (service.executor.execute query false).1 =
      Scan.ofQuery store.withoutCancelling query := by
    rw [Executor.execute_fst serves.sound, serves.sameStore]
    rfl
  rw [search, read, ← scanned, ← serves.sameOptions, ← serves.sameStore]

/-- A search leaves the words, the options, the store and a sound cache. -/
theorem Serves.search (serves : service.Serves words options store) (request : Request) :
    (service.search request).2.Serves words options store := by
  unfold Service.search
  cases queryOf request with
  | error fault => exact serves
  | ok query =>
    refine ⟨serves.sameWords, serves.sameOptions, ?_,
      Executor.sound_execute serves.sound query false⟩
    exact (Executor.store_execute service.executor query false).trans serves.sameStore

/-- A search keeps the permits. -/
theorem held_search (request : Request) : (service.search request).2.held = service.held := by
  unfold search
  cases queryOf request <;> rfl

/-- Every search has a way to end. -/
theorem exists_searchReply (words : BodyWords) (timeout : Nat) (store : Store)
    (request : Request) : ∃ status body, SearchReply words timeout store request status body := by
  cases read : queryOf request with
  | error fault => exact ⟨_, _, .rejected fault (queryOf_eq_error_iff.1 read)⟩
  | ok query =>
    have asks : request.Asks query := queryOf_eq_ok_iff.1 read
    cases within : (Scan.ofQuery store.withoutCancelling query).within? timeout
        store.withoutCancelling with
    | none => exact ⟨_, _, .timeout query asks (within?_eq_none_iff.1 within)⟩
    | some result =>
      have scans : ScansTo store timeout query result := within?_eq_some_iff.1 within
      cases result with
      | ok documents => exact ⟨_, _, .documents query documents asks scans⟩
      | error error =>
        cases error with
        | invalid error => exact ⟨_, _, .invalid query error asks scans⟩
        | type error => exact ⟨_, _, .type query error asks scans⟩
        | store error => exact ⟨_, _, .store query error asks scans⟩
        | cancelled =>
          exact absurd scans.comes (Scan.outcome_ofQuery_ne_cancelled store query)

/-- A search is answered as timed out exactly when its query times out. -/
theorem searchReply_timeout_iff {timeout : Nat} {request : Request} {query : Query}
    (asks : request.Asks query) :
    SearchReply words timeout store request 503 (errorBody "query timed out") ↔
      TimesOut store timeout query := by
  constructor
  · intro reply
    cases reply with
    | timeout other asksOther late =>
      obtain rfl : other = query := asksOther.unique asks
      exact late
  · intro late
    exact .timeout query asks late

/-- A search is answered in the way in which it ends. -/
theorem search_fst_of_reply (serves : service.Serves words options store) {request : Request}
    {status : Nat} {body : String}
    (reply : SearchReply words options.timeout store request status body) :
    (service.search request).1 = ⟨status, some "application/json", none, none, body⟩ := by
  cases reply with
  | rejected fault refused =>
    rw [search_fst_of_fault (queryOf_eq_error_iff.2 refused), serves.sameWords]
    rfl
  | documents query documents asks scans | invalid query error asks scans
  | type query error asks scans | store query error asks scans =>
    rw [search_fst_of_query serves (queryOf_eq_ok_iff.2 asks), within?_eq_some_iff.2 scans]
    rfl
  | timeout query asks late =>
    rw [search_fst_of_query serves (queryOf_eq_ok_iff.2 asks), within?_eq_none_iff.2 late]
    rfl

/-- The ways in which a search ends are those of its answer, whatever origin it carries. -/
theorem searchReply_iff (serves : service.Serves words options store) {request : Request}
    (origin : Option String) {status : Nat} {body : String} :
    SearchReply words options.timeout store request status body ↔
      (service.search request).1.withOrigin origin =
        ⟨status, some "application/json", origin, none, body⟩ := by
  constructor
  · intro reply
    rw [search_fst_of_reply serves reply]
    rfl
  · intro answered
    obtain ⟨otherStatus, otherBody, reply⟩ :=
      exists_searchReply words options.timeout store request
    rw [search_fst_of_reply serves reply] at answered
    cases answered
    exact reply

/-- A search has the status of a timeout exactly when it asks a query that times out. -/
theorem status_search (serves : service.Serves words options store) (request : Request) :
    (service.search request).1.status = 503 ↔
      ∃ query, request.Asks query ∧ TimesOut store options.timeout query := by
  constructor
  · obtain ⟨status, body, reply⟩ := exists_searchReply words options.timeout store request
    rw [search_fst_of_reply serves reply]
    intro isTimeout
    cases reply with
    | timeout query asks late => exact ⟨query, asks, late⟩
    | _ => cases isTimeout
  · rintro ⟨query, asks, late⟩
    rw [search_fst_of_reply serves (.timeout query asks late)]

end Search

section Route

/-- A route leaves the service as it is or as a search leaves it. -/
theorem route_snd (service : Service) (request : Request) :
    (service.route request).2 = service ∨
      (service.route request).2 = (service.search request).2 := by
  unfold route
  split
  · split
    · exact .inr rfl
    · exact .inl rfl
  · repeat' split
    all_goals exact .inl rfl

/-- Every route comes to what it comes to without a cache and without earlier requests. -/
theorem route_fst (serves : service.Serves words options store) (request : Request) :
    (service.route request).1 = ((fresh words options store none).route request).1 := by
  have sameSearch : (service.search request).1 =
      ((fresh words options store none).search request).1 := by
    cases read : queryOf request with
    | error fault =>
      rw [search_fst_of_fault read, search_fst_of_fault read, serves.sameWords]
      rfl
    | ok query =>
      rw [search_fst_of_query serves read,
        search_fst_of_query (serves_fresh words options store none) read]
  have sameProperties : service.properties = (fresh words options store none).properties := by
    unfold properties
    rw [serves.sameStore]
    rfl
  unfold route
  simp only [sameProperties, sameSearch]
  repeat' split
  all_goals rfl

/-- Every route leaves the words, the options, the store and a sound cache. -/
theorem Serves.route (serves : service.Serves words options store) (request : Request) :
    (service.route request).2.Serves words options store := by
  rcases route_snd service request with same | searched
  · rw [same]
    exact serves
  · rw [searched]
    exact serves.search request

/-- Every route keeps the permits. -/
theorem held_route (request : Request) : (service.route request).2.held = service.held := by
  rcases route_snd service request with same | searched
  · rw [same]
  · rw [searched, held_search]

end Route

section Answer

/-- With a permit left, a request goes to its route, and the answer carries the origin. -/
theorem answer_of_free (free : service.held < service.options.permits) (request : Request) :
    service.answer request =
      ((service.route request).1.map (Response.withOrigin service.options.corsOrigin),
        (service.route request).2.after (service.route request).1) := by
  rw [answer, if_pos free]

/-- A service that answered nothing yet has a permit left. -/
theorem held_fresh (words : BodyWords) (options : RunningOptions) (store : Store)
    (capacity : Option Nat) : (fresh words options store capacity).held < options.permits :=
  Nat.lt_of_lt_of_le Nat.zero_lt_one (Nat.le_max_right options.maxConcurrent 1)

/-- With a permit left, a request is answered as without a cache and without earlier requests. -/
theorem answer_fst (serves : service.Serves words options store)
    (free : service.held < options.permits) (request : Request) :
    (service.answer request).1 = ((fresh words options store none).answer request).1 := by
  rw [answer_of_free (serves.sameOptions.symm ▸ free), answer_of_free (held_fresh _ _ _ _)]
  simp only [route_fst serves, serves.sameOptions]
  rfl

/-- A request leaves the words, the options, the store and a sound cache. -/
theorem Serves.answer (serves : service.Serves words options store) (request : Request) :
    (service.answer request).2.Serves words options store := by
  unfold Service.answer
  split
  · exact (serves.route request).after _
  · exact serves

/-- An answered request gives its permit back. -/
theorem held_answer_of_answered {request : Request} {response : Response}
    (answered : (service.answer request).1 = .answers response) :
    (service.answer request).2.held = service.held := by
  by_cases free : service.held < service.options.permits
  · rw [answer_of_free free] at answered ⊢
    obtain ⟨before, routed, -⟩ := Outcome.map_eq_answers_iff.1 answered
    simp only [routed, after, held_route]
  · rw [answer, if_neg free] at answered
    cases answered

/-- Every answer carries the origin of the service, and none if it has none. -/
theorem allowOrigin_of_answered {request : Request} {response : Response}
    (answered : (service.answer request).1 = .answers response) :
    response.allowOrigin = service.options.corsOrigin := by
  by_cases free : service.held < service.options.permits
  · rw [answer_of_free free] at answered
    obtain ⟨before, -, rfl⟩ := Outcome.map_eq_answers_iff.1 answered
    rfl
  · rw [answer, if_neg free] at answered
    cases answered

/-- With a permit left, a search is answered, and its answer carries the origin. -/
theorem answer_search (free : service.held < service.options.permits) {request : Request}
    (isPost : request.method = "POST") (isSearch : pathOf request.target = "/search") :
    (service.answer request).1 =
      .answers ((service.search request).1.withOrigin service.options.corsOrigin) := by
  rw [answer_of_free free, route, if_pos isSearch, if_pos isPost]
  rfl

end Answer

section Runs

/-- Requests that are sent one after another are answered as each of them is on its own, up to the
first one that is never answered. -/
theorem answerAll_of_serves (serves : service.Serves words options store)
    (free : service.held < options.permits) (requests : List Request) :
    service.answerAll requests = Outcome.upToHang
      (requests.map fun request => ((fresh words options store none).answer request).1) := by
  induction requests generalizing service with
  | nil => rfl
  | cons request requests ih =>
    have first := answer_fst serves free request
    have later := ih (serves.answer request)
    rw [answerAll, List.map_cons, ← first]
    cases answered : service.answer request with
    | mk outcome next =>
      cases outcome with
      | hangs => rfl
      | answers response =>
        have sameHeld : next.held = service.held := by
          have kept := held_answer_of_answered (congrArg Prod.fst answered)
          rwa [answered] at kept
        rw [answered] at later
        simp only [Outcome.upToHang]
        rw [later (sameHeld ▸ free)]

end Runs

/-- Requests that are sent to a service one after another, each once the one before it was answered,
are answered as each of them is by a service without a cache that answered nothing before. Every
answer carries the origin of the service, if it has one. A search is always answered, and its answer
has exactly a status and a body that the ways to end allow. Where the fetches of its scan take no
longer than the timeout, it times out exactly if the scan comes to a fetch that never returns. -/
theorem answerAll_fresh (words : BodyWords) (options : RunningOptions) (store : Store)
    (capacity : Option Nat) (requests : List Request) :
    (fresh words options store capacity).answerAll requests = Outcome.upToHang
        (requests.map fun request => ((fresh words options store none).answer request).1) ∧
      ∀ request,
        (∀ response, ((fresh words options store none).answer request).1 = .answers response →
          response.allowOrigin = options.corsOrigin) ∧
        (request.method = "POST" → pathOf request.target = "/search" →
          (∃ status body, SearchReply words options.timeout store request status body) ∧
          (∀ status body, SearchReply words options.timeout store request status body ↔
            ((fresh words options store none).answer request).1 =
              .answers ⟨status, some "application/json", options.corsOrigin, none, body⟩) ∧
          ∀ query, request.Asks query → ¬Outlasts store options.timeout query →
            (SearchReply words options.timeout store request 503 (errorBody "query timed out") ↔
              NeverReturns store query)) := by
  have alone := serves_fresh words options store none
  have aloneFree := held_fresh words options store none
  refine ⟨answerAll_of_serves (serves_fresh words options store capacity)
    (held_fresh words options store capacity) requests, ?_⟩
  intro request
  refine ⟨fun response answered => allowOrigin_of_answered answered, ?_⟩
  intro isPost isSearch
  refine ⟨exists_searchReply words options.timeout store request, ?_, ?_⟩
  · intro status body
    rw [searchReply_iff alone options.corsOrigin, answer_search aloneFree isPost isSearch]
    exact (Outcome.answers.injEq _ _).symm.to_iff
  · intro query asks inTime
    rw [searchReply_timeout_iff asks, timesOut_iff inTime]

end Service

end RecordSearch
