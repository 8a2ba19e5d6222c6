import RecordSearch.Toml.Value

/-!
# Building TOML tables

A document is built statement by statement. A table can be opened by one header at most, a dotted
key goes into tables that only dotted keys and deeper headers made, and no name is given a value
twice.
-/

namespace RecordSearch.Toml

/-- What brought a table about. -/
inductive Origin where
  /-- A header of a table inside it. -/
  | implicit
  /-- A dotted key with a value inside it. -/
  | dotted
  /-- A header of its own. -/
  | header
  deriving DecidableEq

/-- What a name stands for while a document is built. -/
inductive Node where
  | value (value : Toml)
  | table (origin : Origin) (entries : List (String × Node))
  /-- A list of tables; headers and keys concern the last one. -/
  | tables (earlier : List (List (String × Node))) (last : List (String × Node))

/-- The names of a table with what they stand for. -/
abbrev Entries := List (String × Node)

/-- The names of a dotted key, from the outermost table to the key itself. -/
abbrev Key := List String

/-- A statement of a document. -/
inductive Statement where
  | assign (key : Key) (value : Toml)
  /-- The header of a table. -/
  | openTable (key : Key)
  /-- The header of one more table in a list. -/
  | openItem (key : Key)

namespace Entries

/-- The entries with a name standing for a node, at the place of the name where it has one. -/
def put (name : String) (node : Node) : Entries → Entries
  | [] => [(name, node)]
  | entry :: rest => if entry.1 = name then (name, node) :: rest else entry :: put name node rest

/-- The entries with a change to the table at a path below them. Missing tables are made; a dotted
key does not go into tables with a header. -/
def changeAt (dotted : Bool) (change : Origin → Entries → Option Entries) :
    Key → Origin → Entries → Option Entries
  | [], origin, entries => change origin entries
  | name :: path, _, entries =>
    match entries.lookup name with
    | none =>
      let origin := if dotted then Origin.dotted else .implicit
      (changeAt dotted change path origin []).map fun inner =>
        put name (.table origin inner) entries
    | some (.table origin inner) =>
      if dotted ∧ origin = .header then none
      else
        (changeAt dotted change path origin inner).map fun inner =>
          put name (.table origin inner) entries
    | some (.tables earlier last) =>
      (changeAt dotted change path .header last).map fun last =>
        put name (.tables earlier last) entries
    | some (.value _) => none

/-- The entries with a value under a key that has none yet. -/
def assign? (key : Key) (value : Toml) (entries : Entries) : Option Entries := do
  let name ← key.getLast?
  let dotted := 1 < key.length
  let add : Origin → Entries → Option Entries := fun origin inner =>
    if dotted ∧ origin ≠ .dotted then none
    else if (inner.lookup name).isSome then none
    else some (inner ++ [(name, .value value)])
  changeAt dotted add key.dropLast .header entries

/-- The entries with a table that a header opens. -/
def openTable? (key : Key) (entries : Entries) : Option Entries := do
  let name ← key.getLast?
  let start : Origin → Entries → Option Entries := fun _ inner =>
    match inner.lookup name with
    | none => some (put name (.table .header []) inner)
    | some (.table .implicit within) => some (put name (.table .header within) inner)
    | some _ => none
  changeAt false start key.dropLast .header entries

/-- The entries with one more table in the list that a header names. -/
def openItem? (key : Key) (entries : Entries) : Option Entries := do
  let name ← key.getLast?
  let start : Origin → Entries → Option Entries := fun _ inner =>
    match inner.lookup name with
    | none => some (put name (.tables [] []) inner)
    | some (.tables earlier last) => some (put name (.tables (earlier ++ [last]) []) inner)
    | some _ => none
  changeAt false start key.dropLast .header entries

/-- The entries after statements, where values go into the table at the path `current`. -/
def run? (current : Key) (entries : Entries) : List Statement → Option Entries
  | [] => some entries
  | .assign key value :: more => do
    let entries ← changeAt false (fun _ inner => assign? key value inner) current .header entries
    run? current entries more
  | .openTable key :: more => do run? key (← openTable? key entries) more
  | .openItem key :: more => do run? key (← openItem? key entries) more

end Entries

mutual

/-- The value that a node stands for. -/
def Node.toml : Node → Toml
  | .value known => known
  | .table _ entries => .table (Node.tomlEntries entries)
  | .tables earlier last => .array (Node.tomlTables earlier ++ [.table (Node.tomlEntries last)])

/-- The values that some names stand for. -/
def Node.tomlEntries : List (String × Node) → List (String × Toml)
  | [] => []
  | (name, node) :: more => (name, node.toml) :: Node.tomlEntries more

/-- The tables of a list. -/
def Node.tomlTables : List (List (String × Node)) → List Toml
  | [] => []
  | entries :: more => .table (Node.tomlEntries entries) :: Node.tomlTables more

end

/-- The table that statements make up. -/
def ofStatements? (statements : List Statement) : Option Toml :=
  (Entries.run? [] [] statements).map fun entries => .table (Node.tomlEntries entries)

end RecordSearch.Toml
