import RecordSearch.Settings
import RecordSearch.Store.Dataset

/-!
# Starting the service

Starting goes through stages, and the first one that fails ends it: the settings, the dataset, the
options of the service, its concurrency limit, and the endpoint. What the stages need from outside,
files and an endpoint, is an environment over any monad.
-/

namespace RecordSearch

/-- Why an endpoint cannot be listened on. -/
inductive ListenFault where
  | addressInUse
  | addressNotAvailable
  /-- Anything else, in the words of the system. -/
  | other (words : String)
  deriving DecidableEq

/-- The wording of a listening fault. -/
def ListenFault.message : ListenFault → String
  | addressInUse => "Address already in use (os error 98)"
  | addressNotAvailable => "Cannot assign requested address (os error 99)"
  | other words => words

/-- `Error` — why the service does not start. -/
inductive StartFault where
  | config (fault : ConfigFault)
  | dataset (error : StoreError)
  | listen (endpoint : Endpoint) (fault : ListenFault)
  deriving DecidableEq

/-- The message of a start fault. -/
def StartFault.message : StartFault → String
  | config fault => "Config error: " ++ fault.message
  | dataset error => "dataset error: " ++ error.message
  | listen endpoint fault => "failed to bind " ++ endpoint.text ++ ": " ++ fault.message

/-- What a start comes to. -/
inductive Started where
  | listening (service : Service)
  | failed (fault : StartFault)
  /-- The limit asked for is too high, and the program ends without a report. -/
  | aborted

/-- `start` — the exit code of the program; a service that listens goes on until it is stopped. -/
def Started.exitCode : Started → UInt32
  | listening _ => 0
  | failed _ => 1
  | aborted => 101

/-- A start with the warnings on the way. -/
structure Start where
  warnings : List String
  result : Started

/-- How the libraries below the service word what they refuse. The service passes their words on. -/
structure Wording where
  /-- Why the contents of a file are not JSON. -/
  json : List UInt8 → String
  /-- Why a text does not denote settings. -/
  settings : List Char → String
  body : BodyWords

/-- What a start needs from outside. -/
structure Environment (m : Type → Type) where
  wording : Wording
  /-- What stands at a path. -/
  entry : String → m (Except FileFault FileEntry)
  listen : Endpoint → m (Except ListenFault Unit)

/-- `StartProcess::load_dataset` — the warnings about a dataset. -/
def datasetWarnings (path : String) (dataset : Dataset) : List String :=
  if dataset.size = 0 then ["dataset " ++ path ++ " holds no records"] else []

section Stages

variable {m : Type → Type} [Monad m]

/-- `StartProcess::bind` — the last stage, with the service set up. -/
def Service.listen (environment : Environment m) (endpoint : Endpoint) (service : Service) :
    m Started := do
  match ← environment.listen endpoint with
  | .error fault => return .failed (.listen endpoint fault)
  | .ok () => return .listening service

/-- `StartProcess::build_router` and the stage after it, once the dataset is loaded. -/
def Settings.serve (environment : Environment m) (settings : Settings) (dataset : Dataset) :
    m Started :=
  match settings.options with
  | .error fault => return .failed (.config fault)
  | .ok options =>
    match Service.build? environment.wording.body options (settings.executor dataset.store) with
    | none => return .aborted
    | some service => service.listen environment settings.server.endpoint

/-- `do_start` — starts the service of a directory. -/
def start (environment : Environment m) (directory : String) : m Start := do
  match Settings.load environment.wording.settings (settingsPath directory)
      (← environment.entry (settingsPath directory)) with
  | .error fault => return ⟨[], .failed (.config fault)⟩
  | .ok settings =>
    let path := joinPath directory settings.datasetPath
    match Dataset.load environment.wording.json (← environment.entry path) with
    | .error error => return ⟨[], .failed (.dataset error)⟩
    | .ok dataset =>
      return ⟨datasetWarnings path dataset, ← settings.serve environment dataset⟩

end Stages

end RecordSearch
