import RecordSearch.Startup

/-!
# How a start ends

A start ends at the first of its stages that fails, with the error of that stage, or it listens. The
stages see files and an endpoint as a world answers, and every question may change the world. One
stage has no error to end with: a limit with more permits than there can be aborts the start. The
settings can ask for such a limit, because a number in them is bounded by its word only.
-/

namespace RecordSearch

section Limits

/-- A limit hands out at least one permit. -/
theorem ServiceOptions.one_le_permits (options : ServiceOptions) : 1 ≤ options.permits :=
  Nat.le_max_right options.maxConcurrent 1

/-- A limit has as many permits as there can be at most exactly when no more are asked for. -/
theorem ServiceOptions.permits_le_iff (options : ServiceOptions) :
    options.permits ≤ maxPermits ↔ options.maxConcurrent ≤ maxPermits := by
  unfold ServiceOptions.permits maxPermits
  omega

/-- The options ask for the limit that the settings ask for. -/
theorem Settings.maxConcurrent_of_options {settings : Settings} {options : ServiceOptions}
    (accepted : settings.options = .ok options) :
    options.maxConcurrent = settings.server.maxConcurrent.toNat := by
  unfold Settings.options at accepted
  split at accepted
  · cases accepted
    rfl
  · cases accepted

/-- The limit of a service has as many permits as there can be at most exactly when its settings ask
for no more. -/
theorem Settings.permits_le_iff {settings : Settings} {options : ServiceOptions}
    (accepted : settings.options = .ok options) :
    options.permits ≤ maxPermits ↔ settings.server.maxConcurrent.toNat ≤ maxPermits := by
  rw [options.permits_le_iff, settings.maxConcurrent_of_options accepted]

variable {words : BodyWords} {options : ServiceOptions} {executor : Executor}

/-- With a limit that there can be, the service is built. -/
theorem Service.build?_of_permitted (permitted : options.permits ≤ maxPermits) :
    build? words options executor = some { words, options := ⟨options, permitted⟩, executor } :=
  dif_pos permitted

/-- With a higher limit, no service is built. -/
theorem Service.build?_of_tooMany (tooMany : maxPermits < options.permits) :
    build? words options executor = none :=
  dif_neg (Nat.not_le.2 tooMany)

end Limits

section Stages

variable {World : Type} (environment : Environment (StateM World))

/-- What reading the settings of a directory comes to, and the world after it. -/
def Environment.readSettings (directory : String) (world : World) :
    Except ConfigFault Settings × World :=
  let found := (environment.entry (settingsPath directory)).run world
  (Settings.load environment.wording.settings (settingsPath directory) found.1, found.2)

/-- What loading the dataset at a path comes to, and the world after it. -/
def Environment.readDataset (path : String) (world : World) : Except StoreError Dataset × World :=
  let found := (environment.entry path).run world
  (Dataset.load environment.wording.json found.1, found.2)

/-- How the stages end that come after the dataset: the first one that fails decides, and where none
does the service listens. -/
inductive ServingEnds (settings : Settings) (dataset : Dataset) (world : World) :
    Started → Prop where
  | options {fault : ConfigFault} (refused : settings.options = .error fault) :
    ServingEnds settings dataset world (.failed (.config fault))
  | limit {options : ServiceOptions} (accepted : settings.options = .ok options)
    (tooMany : maxPermits < options.permits) : ServingEnds settings dataset world .aborted
  | endpoint {options : ServiceOptions} {fault : ListenFault} {later : World}
    (accepted : settings.options = .ok options) (permitted : options.permits ≤ maxPermits)
    (refused : (environment.listen settings.server.endpoint).run world = (.error fault, later)) :
    ServingEnds settings dataset world (.failed (.listen settings.server.endpoint fault))
  | listening {options : ServiceOptions} {later : World}
    (accepted : settings.options = .ok options) (permitted : options.permits ≤ maxPermits)
    (free : (environment.listen settings.server.endpoint).run world = (.ok (), later)) :
    ServingEnds settings dataset world
      (.listening
        { words := environment.wording.body
          options := ⟨options, permitted⟩
          executor := settings.executor dataset.store })

/-- How a start ends, with its warnings: at the settings, at the dataset, or at a later stage. -/
inductive StartEnds (directory : String) (world : World) : Start → Prop where
  | settings {fault : ConfigFault} {later : World}
    (refused : environment.readSettings directory world = (.error fault, later)) :
    StartEnds directory world ⟨[], .failed (.config fault)⟩
  | dataset {settings : Settings} {error : StoreError} {between later : World}
    (read : environment.readSettings directory world = (.ok settings, between))
    (refused : environment.readDataset (joinPath directory settings.datasetPath) between =
      (.error error, later)) :
    StartEnds directory world ⟨[], .failed (.dataset error)⟩
  | serving {settings : Settings} {dataset : Dataset} {between later : World} {result : Started}
    (read : environment.readSettings directory world = (.ok settings, between))
    (loaded : environment.readDataset (joinPath directory settings.datasetPath) between =
      (.ok dataset, later))
    (ends : ServingEnds environment settings dataset later result) :
    StartEnds directory world
      ⟨datasetWarnings (joinPath directory settings.datasetPath) dataset, result⟩

variable {environment} {settings : Settings} {dataset : Dataset} {directory : String}
  {world : World}

-- `StateT.run_bind` leaves a bind of the identity monad, which hides the answer that the next stage
-- decides on; here the answer and the world stand apart.
/-- Of two steps the second one runs in the world that the first one leaves. -/
theorem run_steps {α β : Type} (first : StateM World α) (next : α → StateM World β) :
    (first >>= next).run world = (next (first.run world).1).run (first.run world).2 := rfl

/-- The settings are read first, then the dataset is loaded, and then it is served. -/
theorem run_start :
    ((start environment directory).run world).1 =
      match environment.readSettings directory world with
      | (.error fault, _) => ⟨[], .failed (.config fault)⟩
      | (.ok settings, between) =>
        match environment.readDataset (joinPath directory settings.datasetPath) between with
        | (.error error, _) => ⟨[], .failed (.dataset error)⟩
        | (.ok dataset, later) =>
          ⟨datasetWarnings (joinPath directory settings.datasetPath) dataset,
            ((settings.serve environment dataset).run later).1⟩ := by
  unfold start Environment.readSettings
  rw [run_steps]
  dsimp only
  cases Settings.load environment.wording.settings (settingsPath directory)
      ((environment.entry (settingsPath directory)).run world).1 with
  | error fault => rfl
  | ok settings =>
    unfold Environment.readDataset
    dsimp only
    rw [run_steps]
    cases Dataset.load environment.wording.json
        ((environment.entry (joinPath directory settings.datasetPath)).run
          ((environment.entry (settingsPath directory)).run world).2).1 with
    | error error => rfl
    | ok dataset => rfl

/-- A dataset is served with the options of the settings, if a service can be built with them. -/
theorem run_serve :
    ((settings.serve environment dataset).run world).1 =
      match settings.options with
      | .error fault => .failed (.config fault)
      | .ok options =>
        match Service.build? environment.wording.body options
          (settings.executor dataset.store) with
        | none => .aborted
        | some service =>
          match (environment.listen settings.server.endpoint).run world with
          | (.error fault, _) => .failed (.listen settings.server.endpoint fault)
          | (.ok (), _) => .listening service := by
  unfold Settings.serve
  cases settings.options with
  | error fault => rfl
  | ok options =>
    dsimp only
    cases Service.build? environment.wording.body options (settings.executor dataset.store) with
    | none => rfl
    | some service =>
      unfold Service.listen
      dsimp only
      rw [run_steps]
      cases (environment.listen settings.server.endpoint).run world with
      | mk answer later =>
        cases answer with
        | error fault => rfl
        | ok free => rfl

/-- The stages after the dataset end in exactly one way. -/
theorem servingEnds_iff {result : Started} :
    ServingEnds environment settings dataset world result ↔
      ((settings.serve environment dataset).run world).1 = result := by
  rw [run_serve]
  constructor
  · intro ends
    cases ends with
    | options refused => rw [refused]
    | limit accepted tooMany =>
      rw [accepted]
      dsimp only
      rw [Service.build?_of_tooMany tooMany]
    | endpoint accepted permitted refused =>
      rw [accepted]
      dsimp only
      rw [Service.build?_of_permitted permitted, refused]
    | listening accepted permitted free =>
      rw [accepted]
      dsimp only
      rw [Service.build?_of_permitted permitted, free]
  · rintro rfl
    cases accepted : settings.options with
    | error fault => exact .options accepted
    | ok options =>
      dsimp only
      by_cases permitted : options.permits ≤ maxPermits
      · rw [Service.build?_of_permitted permitted]
        cases listened : (environment.listen settings.server.endpoint).run world with
        | mk answer later =>
          cases answer with
          | error fault => exact .endpoint accepted permitted listened
          | ok free => exact .listening accepted permitted listened
      · have tooMany : maxPermits < options.permits := Nat.lt_of_not_le permitted
        rw [Service.build?_of_tooMany tooMany]
        exact .limit accepted tooMany

/-- A start ends in exactly one way. -/
theorem startEnds_iff {begun : Start} :
    StartEnds environment directory world begun ↔
      ((start environment directory).run world).1 = begun := by
  rw [run_start]
  constructor
  · intro ends
    cases ends with
    | settings refused => rw [refused]
    | dataset read refused =>
      rw [read]
      dsimp only
      rw [refused]
    | serving read loaded ends =>
      rw [read]
      dsimp only
      rw [loaded, ← servingEnds_iff.1 ends]
  · rintro rfl
    cases read : environment.readSettings directory world with
    | mk settingsRead between =>
      cases settingsRead with
      | error fault => exact .settings read
      | ok settings =>
        dsimp only
        cases loaded : environment.readDataset (joinPath directory settings.datasetPath)
            between with
        | mk datasetRead later =>
          cases datasetRead with
          | error error => exact .dataset read loaded
          | ok dataset => exact .serving read loaded (servingEnds_iff.2 rfl)

/-- The settings are accepted with their origin, the dataset is loaded, and the limit asked for has
more permits than there can be. -/
def AsksTooMuch (environment : Environment (StateM World)) (directory : String) (world : World) :
    Prop :=
  ∃ settings between dataset later options,
    environment.readSettings directory world = (.ok settings, between) ∧
      environment.readDataset (joinPath directory settings.datasetPath) between =
        (.ok dataset, later) ∧
      settings.options = .ok options ∧ maxPermits < settings.server.maxConcurrent.toNat

/-- A start aborts exactly when no stage before its limit fails and the limit is too high. -/
theorem aborted_iff :
    ((start environment directory).run world).1.result = .aborted ↔
      AsksTooMuch environment directory world := by
  constructor
  · intro aborted
    cases begun : ((start environment directory).run world).1 with
    | mk warnings result =>
      rw [begun] at aborted
      change result = .aborted at aborted
      cases startEnds_iff.2 begun with
      | settings refused => cases aborted
      | dataset read refused => cases aborted
      | serving read loaded ends =>
        -- Of the later stages only the limit has no error of its own.
        cases ends with
        | options refused => cases aborted
        | endpoint accepted permitted refused => cases aborted
        | listening accepted permitted free => cases aborted
        | @limit options accepted tooMany =>
          refine ⟨_, _, _, _, options, read, loaded, accepted, ?_⟩
          exact Nat.lt_of_not_le fun asked =>
            Nat.not_le.2 tooMany ((Settings.permits_le_iff accepted).2 asked)
  · rintro ⟨settings, between, dataset, later, options, read, loaded, accepted, asked⟩
    have tooMany : maxPermits < options.permits := Nat.lt_of_not_le fun permitted =>
      Nat.not_le.2 asked ((Settings.permits_le_iff accepted).1 permitted)
    have ends := StartEnds.serving read loaded (.limit accepted tooMany)
    rw [startEnds_iff.1 ends]

end Stages

/-- Every start ends at the first of its stages that fails, with the error of that stage, or it
listens, or else it aborts; and it aborts exactly when the limit asked for is too high where no
stage before it fails. A limit has a permit at least, and at most as many as there can be exactly
when the settings ask for no more. -/
theorem start_ends_at_first_failure {World : Type} (environment : Environment (StateM World))
    (directory : String) (world : World) :
    (∀ begun, StartEnds environment directory world begun ↔
        ((start environment directory).run world).1 = begun) ∧
      (((start environment directory).run world).1.result = .aborted ↔
        AsksTooMuch environment directory world) ∧
      ∀ (settings : Settings) (options : ServiceOptions), settings.options = .ok options →
        1 ≤ options.permits ∧
          (options.permits ≤ maxPermits ↔ settings.server.maxConcurrent.toNat ≤ maxPermits) := by
  refine ⟨fun begun => startEnds_iff, aborted_iff, ?_⟩
  intro settings options accepted
  exact ⟨options.one_le_permits, Settings.permits_le_iff accepted⟩

section HighLimits

/-- Settings that ask for a number of permits. -/
def settingsAsking (permits : String) : String :=
  "[server]\nip = \"0.0.0.0\"\nport = 0\nmax_concurrent_queries = " ++ permits ++
    "\n\n[dataset]\npath = \"movies.json\"\n"

/-- A directory with such settings and a dataset of one record, on a machine where every endpoint is
free. -/
def siteAsking (permits : String) : Environment (StateM Unit) where
  wording := ⟨fun _ => "not JSON", fun _ => "not settings", fun _ fault => fault.message⟩
  entry path :=
    let tree : FileTree :=
      ⟨[([['d'], "settings.toml".toList], (settingsAsking permits).toUTF8.toList),
        ([['d'], "movies.json".toList], "[\x7b\x7d]".toUTF8.toList)]⟩
    return tree.entry path.toList
  listen _ := return .ok ()

/-- With the most permits that there can be, the service listens. -/
theorem start_ends_at_first_failure_mostPermits :
    ((start (siteAsking "2305843009213693951") "/d").run ()).1.result.exitCode = 0 ∧
      StartEnds (siteAsking "2305843009213693951") "/d" ()
        ((start (siteAsking "2305843009213693951") "/d").run ()).1 ∧
      ¬AsksTooMuch (siteAsking "2305843009213693951") "/d" () := by
  have listens :
      ((start (siteAsking "2305843009213693951") "/d").run ()).1.result.exitCode = 0 := by
    decide +kernel
  obtain ⟨ends, aborts, -⟩ :=
    start_ends_at_first_failure (siteAsking "2305843009213693951") "/d" ()
  refine ⟨listens, (ends _).2 rfl, ?_⟩
  intro asks
  rw [aborts.2 asks] at listens
  exact absurd listens (by decide)

/-- Only an aborted start has this exit code. -/
theorem Started.eq_aborted_of_exitCode {started : Started} (exit : started.exitCode = 101) :
    started = .aborted := by
  cases started with
  | listening service =>
    change (0 : UInt32) = 101 at exit
    exact absurd exit (by decide)
  | failed fault =>
    change (1 : UInt32) = 101 at exit
    exact absurd exit (by decide)
  | aborted => rfl

/-- Settings that ask for one permit more than there can be are accepted, and the start aborts. -/
theorem highLimit_aborts :
    (∃ settings options,
      Settings.ofText? (settingsAsking "2305843009213693952").toList = some settings ∧
        settings.options = .ok options ∧ options.permits = maxPermits + 1) ∧
      ((start (siteAsking "2305843009213693952") "/d").run ()).1.result = .aborted := by
  constructor
  · have asked : (Settings.ofText? (settingsAsking "2305843009213693952").toList).bind
        (fun settings => settings.options.toOption.map ServiceOptions.permits) =
          some (maxPermits + 1) := by
      decide +kernel
    obtain ⟨settings, accepted, permits⟩ := Option.bind_eq_some_iff.1 asked
    cases read : settings.options with
    | error fault =>
      rw [read] at permits
      cases permits
    | ok options =>
      rw [read] at permits
      exact ⟨settings, options, accepted, read, Option.some.inj permits⟩
  · apply Started.eq_aborted_of_exitCode
    decide +kernel

end HighLimits

end RecordSearch
