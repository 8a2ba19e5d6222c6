import RecordSearch.Proofs.Service.Replies

/-!
# Requests that are never answered

A search runs under a timeout, so with a permit left it is always answered. The properties are
collected without one: a store whose scan comes to a fetch that never returns keeps the request for
them waiting, and each such request keeps its permit. Once all permits are kept, no request is
answered any more.
-/

namespace RecordSearch

namespace Outcome

variable {α : Type}

/-- Whether an outcome never returns can be told from it. -/
instance decidableHangs : (outcome : Outcome α) → Decidable (outcome = .hangs)
  | .hangs => .isTrue rfl
  | .answers _ => .isFalse nofun

end Outcome

namespace Service

/-- The request asks for the properties of a store whose scan comes to a fetch that never returns,
after fetches that do not fail. -/
def WaitsForever (store : Store) (request : Request) : Prop :=
  pathOf request.target = "/properties" ∧ (request.method = "GET" ∨ request.method = "HEAD") ∧
    ∃ ids, store.ids = .ok ids ∧ store.ReachesHang Fetched.IsRead ids

/-- The request is a search for a query whose scan does not come to an end before the timeout: it
comes to a fetch that never returns, or its fetches take longer. -/
def SearchTimesOut (store : Store) (timeout : Nat) (request : Request) : Prop :=
  request.method = "POST" ∧ pathOf request.target = "/search" ∧
    ∃ query, request.Asks query ∧ TimesOut store timeout query

/-- Whether a request waits forever can be told by collecting the properties. -/
instance decidableWaitsForever (store : Store) : DecidablePred (WaitsForever store) :=
  fun request =>
    decidable_of_iff
      (pathOf request.target = "/properties" ∧
        (request.method = "GET" ∨ request.method = "HEAD") ∧ Properties.ofStore store = .hangs)
      (by rw [WaitsForever, Properties.ofStore_eq_hangs_iff])

/-- The service after some requests that were sent to it, answered or not. -/
def afterAll (service : Service) (requests : List Request) : Service :=
  requests.foldl (fun service request => (service.answer request).2) service

variable {words : BodyWords} {options : RunningOptions} {store : Store} {service : Service}

section Properties

/-- The properties are never answered exactly when collecting them never returns. -/
theorem properties_eq_hangs_iff (serves : service.Serves words options store) :
    service.properties = .hangs ↔
      ∃ ids, store.ids = .ok ids ∧ store.ReachesHang Fetched.IsRead ids := by
  rw [properties, serves.sameStore, Outcome.map_eq_hangs_iff, Properties.ofStore_eq_hangs_iff]
  rfl

/-- An answer with the properties is never the one of a timeout. -/
theorem status_ne_of_properties {response : Response}
    (answered : service.properties = .answers response) : response.status ≠ 503 := by
  obtain ⟨collected, -, rfl⟩ := Outcome.map_eq_answers_iff.1 answered
  cases collected with
  | error error => exact Nat.ne_of_lt (by decide : 500 < 503)
  | ok properties => exact Nat.ne_of_lt (by decide : 200 < 503)

end Properties

section Route

/-- What a route comes to: a search, the properties with or without their body, or neither. -/
inductive Routed (service : Service) (request : Request) : Outcome Response → Prop where
  | search (isPost : request.method = "POST") (isSearch : pathOf request.target = "/search") :
      Routed service request (.answers (service.search request).1)
  | properties (isGet : request.method = "GET")
      (isProperties : pathOf request.target = "/properties") :
      Routed service request service.properties
  | withoutBody (isHead : request.method = "HEAD")
      (isProperties : pathOf request.target = "/properties") :
      Routed service request (service.properties.map Response.withoutBody)
  | neither (status : Nat) (allow : Option String) (noTimeout : status ≠ 503)
      (notPost : pathOf request.target = "/search" → request.method ≠ "POST")
      (notRead : pathOf request.target = "/properties" →
        ¬(request.method = "GET" ∨ request.method = "HEAD")) :
      Routed service request (.answers (.bare status allow))

/-- Every route comes to one of these. -/
theorem routed_route (service : Service) (request : Request) :
    Routed service request (service.route request).1 := by
  unfold route
  by_cases isSearch : pathOf request.target = "/search"
  · have notProperties : pathOf request.target ≠ "/properties" := by simp [isSearch]
    rw [if_pos isSearch]
    by_cases isPost : request.method = "POST"
    · rw [if_pos isPost]
      exact .search isPost isSearch
    · rw [if_neg isPost]
      exact .neither 405 _ (by decide) (fun _ => isPost) fun found => absurd found notProperties
  · rw [if_neg isSearch]
    by_cases isProperties : pathOf request.target = "/properties"
    · rw [if_pos isProperties]
      by_cases isGet : request.method = "GET"
      · rw [if_pos isGet]
        exact .properties isGet isProperties
      · rw [if_neg isGet]
        by_cases isHead : request.method = "HEAD"
        · rw [if_pos isHead]
          exact .withoutBody isHead isProperties
        · rw [if_neg isHead]
          exact .neither 405 _ (by decide) (fun found => absurd found isSearch) fun _ =>
            not_or.2 ⟨isGet, isHead⟩
    · rw [if_neg isProperties]
      exact .neither 404 _ (by decide) (fun found => absurd found isSearch) fun found =>
        absurd found isProperties

/-- What never answers is the properties of a store that keeps them waiting. -/
theorem Routed.eq_hangs_iff (serves : service.Serves words options store) {request : Request}
    {outcome : Outcome Response} (routed : Routed service request outcome) :
    outcome = .hangs ↔ WaitsForever store request := by
  rw [WaitsForever, ← properties_eq_hangs_iff serves]
  cases routed with
  | search isPost isSearch => simp [isSearch]
  | properties isGet isProperties => simp [isGet, isProperties]
  | withoutBody isHead isProperties => simp [isHead, isProperties, Outcome.map_eq_hangs_iff]
  | neither status allow noTimeout notPost notRead =>
    constructor
    · intro hangs
      cases hangs
    · rintro ⟨isProperties, reads, -⟩
      exact absurd reads (notRead isProperties)

/-- The answers of a timeout are those to the searches that time out. -/
theorem Routed.status (serves : service.Serves words options store) {request : Request}
    {outcome : Outcome Response} (routed : Routed service request outcome) {response : Response}
    (answered : outcome = .answers response) :
    response.status = 503 ↔ SearchTimesOut store options.timeout request := by
  rw [SearchTimesOut, ← status_search serves]
  cases routed with
  | search isPost isSearch =>
    cases answered
    simp [isPost, isSearch]
  | properties isGet isProperties =>
    have noTimeout := status_ne_of_properties answered
    simp [isProperties, noTimeout]
  | withoutBody isHead isProperties =>
    obtain ⟨full, found, rfl⟩ := Outcome.map_eq_answers_iff.1 answered
    have noTimeout : full.status ≠ 503 := status_ne_of_properties found
    simp [isProperties, Response.withoutBody, noTimeout]
  | neither status allow noTimeout notPost notRead =>
    cases answered
    constructor
    · intro isTimeout
      exact absurd isTimeout noTimeout
    · rintro ⟨isPost, isSearch, -⟩
      exact absurd isPost (notPost isSearch)

end Route

section Permits

/-- A request is never answered exactly when no permit is left, or it waits forever. -/
theorem answer_eq_hangs_iff (serves : service.Serves words options store) (request : Request) :
    (service.answer request).1 = .hangs ↔
      options.permits ≤ service.held ∨ WaitsForever store request := by
  by_cases free : service.held < service.options.permits
  · have freeHere : ¬options.permits ≤ service.held := by
      rw [← serves.sameOptions]
      omega
    rw [answer_of_free free, Outcome.map_eq_hangs_iff,
      (routed_route service request).eq_hangs_iff serves]
    exact (or_iff_right freeHere).symm
  · have noneLeft : options.permits ≤ service.held := by
      rw [← serves.sameOptions]
      omega
    rw [answer, if_neg free]
    exact iff_of_true rfl (.inl noneLeft)

/-- A request that is answered with the status of a timeout is a search that times out. -/
theorem status_answer (serves : service.Serves words options store) {request : Request}
    {response : Response} (answered : (service.answer request).1 = .answers response) :
    response.status = 503 ↔ SearchTimesOut store options.timeout request := by
  by_cases free : service.held < service.options.permits
  · rw [answer_of_free free] at answered
    obtain ⟨routed, found, rfl⟩ := Outcome.map_eq_answers_iff.1 answered
    have sameStatus : routed.status = 503 ↔ SearchTimesOut store options.timeout request :=
      (routed_route service request).status serves found
    exact sameStatus
  · rw [answer, if_neg free] at answered
    cases answered

/-- A request that waits forever keeps one permit more, if there is one. -/
theorem held_answer (serves : service.Serves words options store) (request : Request)
    (within : service.held ≤ options.permits) :
    (service.answer request).2.held =
      min options.permits (service.held + [request].countP (WaitsForever store ·)) := by
  rw [List.countP_singleton]
  by_cases free : service.held < service.options.permits
  · have more : service.held + 1 ≤ options.permits := serves.sameOptions ▸ free
    rw [answer_of_free free]
    have waits := (routed_route service request).eq_hangs_iff serves
    cases routed : (service.route request).1 with
    | hangs =>
      have forever := waits.1 routed
      simp only [after, held_route, decide_eq_true forever, if_pos]
      omega
    | answers response =>
      have notForever : ¬WaitsForever store request := by
        rw [← waits, routed]
        intro hangs
        cases hangs
      simp only [after, held_route, decide_eq_false notForever, Bool.false_eq_true, if_false]
      omega
  · have noneLeft : service.held = options.permits := by
      rw [← serves.sameOptions] at within ⊢
      omega
    rw [answer, if_neg free, noneLeft]
    exact (Nat.min_eq_left (Nat.le_add_right _ _)).symm

/-- Some requests leave a service that serves its store and keeps a permit for each of them that
waits forever, until none is left. -/
theorem afterAll_of_serves (serves : service.Serves words options store)
    (within : service.held ≤ options.permits) (requests : List Request) :
    (service.afterAll requests).Serves words options store ∧
      (service.afterAll requests).held =
        min options.permits (service.held + requests.countP (WaitsForever store ·)) := by
  induction requests generalizing service with
  | nil => exact ⟨serves, (Nat.min_eq_right within).symm⟩
  | cons request requests ih =>
    have first := held_answer serves request within
    have laterWithin : (service.answer request).2.held ≤ options.permits := by
      rw [first]
      exact Nat.min_le_left _ _
    obtain ⟨laterServes, held⟩ := ih (serves.answer request) laterWithin
    have split : (request :: requests).countP (WaitsForever store ·) =
        [request].countP (WaitsForever store ·) + requests.countP (WaitsForever store ·) := by
      rw [← List.countP_append, List.singleton_append]
    refine ⟨laterServes, held.trans ?_⟩
    omega

end Permits

/-- Whatever was sent to a service before, a request is never answered exactly when it asks for the
properties of a store whose scan comes to a fetch that never returns, or when so many such requests
were sent before it that no permit is left. The answers with the status of a timeout are those to
the searches whose scan comes to such a fetch or takes longer than the timeout. -/
theorem answer_afterAll_fresh (words : BodyWords) (options : RunningOptions) (store : Store)
    (capacity : Option Nat) (earlier : List Request) (request : Request) :
    ((((fresh words options store capacity).afterAll earlier).answer request).1 = .hangs ↔
        options.permits ≤ earlier.countP (WaitsForever store ·) ∨ WaitsForever store request) ∧
      ∀ response,
        (((fresh words options store capacity).afterAll earlier).answer request).1 =
            .answers response →
          (response.status = 503 ↔ SearchTimesOut store options.timeout request) := by
  obtain ⟨serves, held⟩ := afterAll_of_serves (serves_fresh words options store capacity)
    (Nat.le_of_lt (held_fresh words options store capacity)) earlier
  constructor
  · have enough : options.permits ≤ ((fresh words options store capacity).afterAll earlier).held ↔
        options.permits ≤ earlier.countP (WaitsForever store ·) := by
      have none : (fresh words options store capacity).held = 0 := rfl
      rw [held, none]
      omega
    rw [answer_eq_hangs_iff serves, enough]
  · intro response answered
    exact status_answer serves answered

section PropertiesOfHanging

/-- A store with one id, whose fetch never returns. -/
def hangingStore : Store where
  ids := .ok [0]
  fetch := fun _ => { cancels := false, fetched := .hangs }

/-- A request for the properties. -/
def askProperties : Request := ⟨"GET", "/properties", none, []⟩

/-- The options of a service with one permit. -/
def onePermit : RunningOptions where
  timeout := 5
  corsOrigin := none
  maxConcurrent := 1
  permitted := by decide

/-- A service of the store with one permit. -/
def hangingService : Service :=
  fresh (fun _ fault => fault.message) onePermit hangingStore none

/-- The request for the properties of the store is not answered, and with one permit nothing is
answered after it. -/
theorem properties_never_answered :
    (hangingService.answer askProperties).1 = .hangs ∧
      ∀ request, ((hangingService.afterAll [askProperties]).answer request).1 = .hangs := by
  have waits : WaitsForever hangingStore askProperties := by
    refine ⟨by decide, .inl rfl, [0], rfl, ?_⟩
    exact Store.reachesHang_cons.2 (.inl rfl)
  have serves : hangingService.Serves (fun _ fault => fault.message) onePermit hangingStore :=
    serves_fresh _ onePermit hangingStore none
  obtain ⟨later, held⟩ := afterAll_of_serves serves (Nat.zero_le _) [askProperties]
  refine ⟨(answer_eq_hangs_iff serves askProperties).2 (.inr waits), ?_⟩
  intro request
  apply (answer_eq_hangs_iff later request).2
  left
  rw [held, List.countP_singleton, if_pos (decide_eq_true waits)]
  decide

end PropertiesOfHanging

end Service

end RecordSearch
