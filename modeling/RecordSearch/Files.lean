/-!
# Files

Why a file cannot be read, how a path continues a directory, and a tree of files in memory that
resolves paths as a file system does.
-/

namespace RecordSearch

/-- Why a file cannot be read. -/
inductive FileFault where
  | notFound
  /-- Something other than a directory stands inside the path. -/
  | notADirectory
  | isADirectory
  /-- The path holds the character U+0000. -/
  | nulInName
  /-- The contents are not UTF-8 where a text is wanted. -/
  | notText
  /-- Anything else, in the words of the system. -/
  | other (words : String)
  deriving DecidableEq

namespace FileFault

/-- The name of the kind of fault. -/
def kind : FileFault → String
  | notFound => "NotFound"
  | notADirectory => "NotADirectory"
  | isADirectory => "IsADirectory"
  | nulInName => "InvalidInput"
  | notText => "InvalidData"
  | other _ => "Other"

/-- The wording of a fault. -/
def message : FileFault → String
  | notFound => "No such file or directory (os error 2)"
  | notADirectory => "Not a directory (os error 20)"
  | isADirectory => "Is a directory (os error 21)"
  | nulInName => "file name contained an unexpected NUL byte"
  | notText => "stream did not contain valid UTF-8"
  | other words => words

end FileFault

/-- What a path leads to. -/
inductive FileEntry where
  | file (contents : List UInt8)
  | directory

namespace FileEntry

/-- The contents of a file; a directory has none. -/
def contents : FileEntry → Except FileFault (List UInt8)
  | file contents => .ok contents
  | directory => .error .isADirectory

end FileEntry

/-- A path inside a directory. An absolute path stands for itself. -/
def joinPath (directory path : String) : String :=
  if path.toList.head? = some '/' then path
  else if directory.isEmpty ∨ directory.toList.getLast? = some '/' then directory ++ path
  else directory ++ "/" ++ path

/-- The components of a path between its slashes. -/
def pathComponents (path : List Char) : List (List Char) :=
  match path with
  | [] => [[]]
  | c :: rest =>
    match pathComponents rest with
    | [] => [[c]]
    | component :: more => if c = '/' then [] :: component :: more else (c :: component) :: more

/-- Files by the components of their paths from the root. -/
structure FileTree where
  files : List (List (List Char) × List UInt8)

namespace FileTree

/-- Whether a place is a directory: the root, or above some file. -/
def isDirectory (tree : FileTree) (place : List (List Char)) : Bool :=
  place.isEmpty || tree.files.any fun file => place.isPrefixOf file.1 && file.1 != place

/-- What stands at a place. -/
def at? (tree : FileTree) (place : List (List Char)) : Option FileEntry :=
  if tree.isDirectory place then some .directory
  else (tree.files.find? fun file => file.1 == place).map fun file => .file file.2

/-- The entry that the components lead to from a place. Every component needs a directory to stand
in, and two dots lead up to the one above, if there is one. -/
def walk (tree : FileTree) (place : List (List Char)) :
    List (List Char) → Except FileFault FileEntry
  | [] =>
    match tree.at? place with
    | some entry => .ok entry
    | none => .error .notFound
  | component :: more =>
    match tree.at? place with
    | none => .error .notFound
    | some (.file _) => .error .notADirectory
    | some .directory =>
      if component = [] ∨ component = ['.'] then walk tree place more
      else if component = ['.', '.'] then walk tree place.dropLast more
      else walk tree (place ++ [component]) more

/-- The entry at a path that is read from the root of the tree. -/
def entry (tree : FileTree) (path : List Char) : Except FileFault FileEntry :=
  if '\x00' ∈ path then .error .nulInName
  else if path.isEmpty then .error .notFound
  else tree.walk [] (pathComponents path)

end FileTree

end RecordSearch
