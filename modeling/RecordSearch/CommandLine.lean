import RecordSearch.Files

/-!
# The command line

The arguments name one command: `start` with the directory to serve, or `help`. Flags show the usage
or the version. The directory is looked at only when all arguments are read.
-/

namespace RecordSearch

/-- `Commands` — what the arguments ask for. -/
inductive Command where
  | start (directory : String)
  /-- To show the usage, once a directory given before the flag is found to exist. -/
  | help (directory : Option String)
  | version
  deriving DecidableEq

/-- Why the arguments are refused. -/
inductive UsageFault where
  /-- There is no command. -/
  | noCommand
  | unknownCommand
  | unknownArgument
  /-- A flag was given a value. -/
  | valueForFlag
  | noDirectory
  /-- Nothing stands at the path of the directory. -/
  | notFound (path : String)
  | notADirectory (path : String)
  deriving DecidableEq

/-- What is wrong with a directory; other faults speak for themselves. -/
def UsageFault.reason? : UsageFault → Option String
  | notFound path => some ("Not found: " ++ path)
  | notADirectory path => some ("Not a directory: " ++ path)
  | _ => none

/-- The usage of the program. -/
def usage : String :=
  "Usage: search-service start <DIR>\n\n" ++
    "Filtered search over a JSON dataset; serves the one configured in <DIR>/settings.toml\n"

/-- The name and the version of the program. -/
def version : String := "search-service 0.1.0\n"

/-- The message of a fault; without a command the usage is shown. -/
def UsageFault.message : UsageFault → String
  | noCommand => usage
  | unknownCommand => "error: unrecognized subcommand\n\n" ++ usage
  | unknownArgument => "error: unexpected argument found\n\n" ++ usage
  | valueForFlag => "error: unexpected value for a flag\n\n" ++ usage
  | noDirectory => "error: <DIR> is required\n\n" ++ usage
  | notFound path => "error: invalid value for <DIR>: Not found: " ++ path ++ "\n"
  | notADirectory path => "error: invalid value for <DIR>: Not a directory: " ++ path ++ "\n"

/-- An argument in a place where flags are read. -/
inductive Argument where
  | word
  /-- The mark after which no flags are read. -/
  | endOfFlags
  | help
  | version
  /-- A flag for the usage or the version with a value behind an equals sign. -/
  | flagWithValue (name : String)
  | unknownFlag
  deriving DecidableEq

/-- What an argument is. A letter after a single dash is a flag whatever follows it. -/
def Argument.ofText (argument : String) : Argument :=
  match argument.toList with
  | ['-'] => word
  | ['-', '-'] => endOfFlags
  | '-' :: '-' :: flag =>
    let name := String.ofList (flag.takeWhile (· != '='))
    if '=' ∈ flag then flagWithValue name
    else if name = "help" then help
    else if name = "version" then version
    else unknownFlag
  | '-' :: 'h' :: _ => help
  | '-' :: 'V' :: _ => version
  | '-' :: _ => unknownFlag
  | _ => word

namespace Command

/-- The names of the commands. -/
def names : List String := ["start", "help"]

/-- The command that shows the usage of a command, given by the words after `help`. -/
def ofTopic : List String → Except UsageFault Command
  | [] => .ok (help none)
  | [topic] => if topic ∈ names then .ok (help none) else .error .unknownCommand
  | _ => .error .unknownCommand

/-- The command with the values of `start`. -/
def ofValues : List String → Except UsageFault Command
  | [] => .error .noDirectory
  | [directory] => .ok (start directory)
  | _ => .error .unknownArgument

/-- The command of the arguments after `start` and a directory, if one was given. -/
def ofStart (directory : Option String) : List String → Except UsageFault Command
  | [] => ofValues directory.toList
  | argument :: rest =>
    match Argument.ofText argument with
    | .word =>
      if directory.isSome then .error .unknownArgument else ofStart (some argument) rest
    | .endOfFlags => ofValues (directory.toList ++ rest)
    | .help => .ok (help directory)
    | .flagWithValue name => .error (if name = "help" then .valueForFlag else .unknownArgument)
    | .version | .unknownFlag => .error .unknownArgument

/-- `Cli` — the command that the arguments ask for. -/
def ofArguments : List String → Except UsageFault Command
  | [] => .error .noCommand
  | argument :: rest =>
    match Argument.ofText argument with
    | .word =>
      if argument = "start" then ofStart none rest
      else if argument = "help" then ofTopic rest
      else .error .unknownCommand
    | .endOfFlags =>
      match rest with
      | [] => .error .noCommand
      | word :: _ => .error (if word ∈ names then .unknownArgument else .unknownCommand)
    | .help => .ok (help none)
    | .version => .ok version
    | .flagWithValue name =>
      .error (if name = "help" ∨ name = "version" then .valueForFlag else .unknownArgument)
    | .unknownFlag => .error .unknownArgument

/-- The directory that has to exist for the command. -/
def directory? : Command → Option String
  | start directory => some directory
  | help directory => directory
  | version => none

/-- `dir_must_exist` — the command, unless `found` at the path of its directory is no directory. -/
def checked (found : Except FileFault FileEntry) (command : Command) : Except UsageFault Command :=
  match command.directory?, found with
  | none, _ => .ok command
  | some path, .error _ => .error (.notFound path)
  | some path, .ok (.file _) => .error (.notADirectory path)
  | some _, .ok .directory => .ok command

end Command

end RecordSearch
