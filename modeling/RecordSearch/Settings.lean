import RecordSearch.Address
import RecordSearch.Files
import RecordSearch.Service.Router
import RecordSearch.Text.Utf8
import RecordSearch.Toml.Reader

/-!
# Settings

A directory to serve holds a file with three sections: where the service listens and how it treats
queries, where the dataset is, and how many parsed filters are kept. Each section is a table, or the
list of its values in order; other members are passed over.
-/

namespace RecordSearch

/-- `DEFAULT_QUERY_TIMEOUT_MS` — the milliseconds that a query may take unless the settings tell. -/
def defaultQueryTimeout : UInt64 := 5000

/-- `DEFAULT_MAX_CONCURRENT_QUERIES` — the queries that may run at the same time unless the settings
tell. -/
def defaultMaxConcurrent : UInt64 := 64

/-- `DEFAULT_FILTER_CACHE_CAPACITY` — the filter texts that are kept parsed unless the settings
tell. -/
def defaultCacheCapacity : UInt64 := 1024

/-- `ServerSettings` — where the service listens, and how it treats queries. -/
structure ServerSettings where
  endpoint : Endpoint
  /-- The origin that may read answers. -/
  corsOrigin : Option String
  /-- The milliseconds that a query may take. -/
  queryTimeout : UInt64
  /-- The queries that may run at the same time. -/
  maxConcurrent : UInt64

/-- `QuerySettings` — how queries are parsed. -/
structure QuerySettings where
  /-- The filter texts that are kept parsed; none are where it is zero. -/
  cacheCapacity : UInt64

/-- `Settings` — the settings of a directory. -/
structure Settings where
  server : ServerSettings
  /-- The path of the dataset, inside the directory unless it is absolute. -/
  datasetPath : String
  query : QuerySettings

/-- `Error::Config` — why a directory cannot be served as configured. -/
inductive ConfigFault where
  /-- There are no settings at the path. -/
  | missing (path : String)
  | unreadable (path : String) (fault : FileFault)
  /-- The file is not TOML, or not of the shape of settings, in the words of the library that reads
  it. -/
  | invalid (path : String) (cause : String)
  /-- The origin cannot be sent in a header. -/
  | corsOrigin
  deriving DecidableEq

/-- `SETTINGS_FILE`. -/
def settingsFile : String := "settings.toml"

/-- The message of a configuration fault. -/
def ConfigFault.message : ConfigFault → String
  | missing path => settingsFile ++ " not found at " ++ path
  | unreadable path fault => "Failed reading " ++ path ++ ": " ++ fault.message
  | invalid path cause => "Invalid " ++ settingsFile ++ " at " ++ path ++ ": " ++ cause
  | corsOrigin => "Invalid cors_origin: failed to parse header value"

section Reading

/-- The named values of a section. -/
structure Section where
  values : List (String × Toml)
  /-- Whether they came as a list, where only values with a default can be left out. -/
  listed : Bool

namespace Section

/-- The section that a value is, with the names that it can give. Numbers under other names still
have to be readable. A date is a section without values. -/
def ofToml? (names : List String) : Toml → Option Section
  | .table entries =>
    let (known, others) := entries.partition fun entry => names.contains entry.1
    if Toml.areReadableEntries others then some ⟨known, false⟩ else none
  | .array items => some ⟨names.zip items, true⟩
  | .datetime => some ⟨[], false⟩
  | _ => none

/-- The value of a name. -/
def get? (s : Section) (name : String) : Option Toml := s.values.lookup name

/-- A string that has to be there. -/
def string? (s : Section) (name : String) : Option String := (s.get? name).bind Toml.string?

/-- A number of 64 bits, with the one that stands in for it. -/
def numberOr? (s : Section) (name : String) (default : UInt64) : Option UInt64 :=
  match s.get? name with
  | none => some default
  | some value => (value.natural? UInt64.size).map UInt64.ofNat

/-- A string that a table can leave out. -/
def optionalString? (s : Section) (name : String) : Option (Option String) :=
  match s.get? name with
  | none => if s.listed then none else some none
  | some value => value.string?.map some

end Section

/-- The server settings that a value denotes. -/
def ServerSettings.ofToml? (value : Toml) : Option ServerSettings := do
  let s ← Section.ofToml?
    ["ip", "port", "cors_origin", "query_timeout_ms", "max_concurrent_queries"] value
  let address ← Address.ofText? (← s.string? "ip")
  let port ← (← s.get? "port").natural? UInt16.size
  let corsOrigin ← s.optionalString? "cors_origin"
  let queryTimeout ← s.numberOr? "query_timeout_ms" defaultQueryTimeout
  let maxConcurrent ← s.numberOr? "max_concurrent_queries" defaultMaxConcurrent
  return ⟨⟨address, port.toUInt16⟩, corsOrigin, queryTimeout, maxConcurrent⟩

/-- The path that the dataset section denotes. -/
def datasetPathOfToml? (value : Toml) : Option String := do
  (← Section.ofToml? ["path"] value).string? "path"

/-- The query settings that a value denotes. -/
def QuerySettings.ofToml? (value : Toml) : Option QuerySettings := do
  let s ← Section.ofToml? ["filter_cache_capacity"] value
  return ⟨← s.numberOr? "filter_cache_capacity" defaultCacheCapacity⟩

/-- The settings that a document denotes. The query section can be left out. -/
def Settings.ofToml? (document : Toml) : Option Settings := do
  let s ← Section.ofToml? ["server", "dataset", "query"] document
  let server ← ServerSettings.ofToml? (← s.get? "server")
  let datasetPath ← datasetPathOfToml? (← s.get? "dataset")
  let query ←
    match s.get? "query" with
    | none => some ⟨defaultCacheCapacity⟩
    | some value => QuerySettings.ofToml? value
  return ⟨server, datasetPath, query⟩

/-- The settings that a text denotes. -/
def Settings.ofText? (text : List Char) : Option Settings :=
  (Toml.ofText? text).bind Settings.ofToml?

/-- The path of the settings of a directory. -/
def settingsPath (directory : String) : String := joinPath directory settingsFile

/-- `read_settings` — the settings that reading their file gives, with the words for a text that
does not denote any. -/
def Settings.load (words : List Char → String) (path : String)
    (file : Except FileFault FileEntry) : Except ConfigFault Settings :=
  match file with
  | .error (.other words) => .error (.unreadable path (.other words))
  | .error _ => .error (.missing path)
  | .ok .directory => .error (.unreadable path .isADirectory)
  | .ok (.file contents) =>
    match Text.characters? contents with
    | none => .error (.unreadable path .notText)
    | some text =>
      match Settings.ofText? text with
      | none => .error (.invalid path (words text))
      | some settings => .ok settings

end Reading

namespace Settings

/-- `HeaderValue::from_str` — whether a text can be sent as the value of a header. -/
def isHeaderText (text : String) : Bool :=
  text.toList.all fun c => c == '\t' || (' ' ≤ c && c != '\x7f')

/-- `app_options` — how the service is run under the settings. -/
def options (settings : Settings) : Except ConfigFault ServiceOptions :=
  if settings.server.corsOrigin.all isHeaderText then
    .ok ⟨settings.server.queryTimeout.toNat, settings.server.corsOrigin,
      settings.server.maxConcurrent.toNat⟩
  else .error .corsOrigin

/-- The cache that parsed filters are kept in. -/
def cache (settings : Settings) : Option FilterCache :=
  if settings.query.cacheCapacity = 0 then none
  else some (.empty settings.query.cacheCapacity.toNat)

/-- `executor` — what runs queries on a store under the settings. -/
def executor (settings : Settings) (store : Store) : Executor := ⟨store, settings.cache⟩

end Settings

end RecordSearch
