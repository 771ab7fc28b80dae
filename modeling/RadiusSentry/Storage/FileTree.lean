import RadiusSentry.Octets
import RadiusSentry.Storage.Path

/-!
# File trees

Files and directories by the names that lead to them from the root. A path is
walked name by name: a single dot stays where it is, two dots go up, and every
name before the last must be a directory. This is what decides which file, if
any, a text from outside reaches.

Symbolic links, permissions and the size of devices are left out: a name leads to a
file or a directory of its own, and whatever is there can be read and written.
-/

set_option autoImplicit false

namespace RadiusSentry

/-- Why the system refuses an operation. -/
inductive SystemError
  | notFound
  | alreadyExists
  | notDirectory
  | isDirectory
  | nameTooLong
  | addressNotAvailable
  | networkUnreachable
  | notUtf8
  | nulInName
  /-- the name of a host is not found; `detail` is how the resolver puts it -/
  | unresolved (detail : String)
deriving DecidableEq, Repr

def SystemError.message : SystemError → String
  | .notFound => "No such file or directory (os error 2)"
  | .alreadyExists => "File exists (os error 17)"
  | .notDirectory => "Not a directory (os error 20)"
  | .isDirectory => "Is a directory (os error 21)"
  | .nameTooLong => "File name too long (os error 36)"
  | .addressNotAvailable => "Cannot assign requested address (os error 99)"
  | .networkUnreachable => "Network is unreachable (os error 101)"
  | .notUtf8 => "stream did not contain valid UTF-8"
  | .nulInName => "file name contained an unexpected NUL byte"
  | .unresolved detail => "failed to lookup address information: " ++ detail

/-- What a name leads to. -/
inductive FileTree.Entry
  | file (contents : Octets)
  | directory
deriving DecidableEq, Repr

/-- Files and directories; the root itself is always there. Relative paths begin
at the working directory. -/
structure FileTree where
  entries : List (List String × FileTree.Entry) := []
  working : List String := []
deriving DecidableEq, Repr

namespace FileTree

/-- The longest name, in octets. -/
def maxNameLength : Nat := 255

/-- The longest path, in octets. -/
def maxPathLength : Nat := 4095

def lookup (t : FileTree) (place : List String) : Option Entry :=
  if place = [] then some .directory
  else (t.entries.find? fun (names, _) => names == place).map Prod.snd

/-- The tree with an entry put at a place. -/
def put (t : FileTree) (place : List String) (e : Entry) : FileTree :=
  if (t.lookup place).isSome then
    { t with entries := t.entries.map fun (names, old) =>
        if names = place then (names, e) else (names, old) }
  else { t with entries := t.entries ++ [(place, e)] }

def erase (t : FileTree) (place : List String) : FileTree :=
  { t with entries := t.entries.filter fun (names, _) => names != place }

/-- The place that names lead to from `place`, if it exists. -/
def walk (t : FileTree) (place : List String) : List String → Except SystemError (List String)
  | [] => .ok place
  | name :: rest =>
    match t.lookup place with
    | none => .error .notFound
    | some (.file _) => .error .notDirectory
    | some .directory =>
      if name = "." then t.walk place rest
      else if name = ".." then t.walk place.dropLast rest
      else if maxNameLength < name.utf8ByteSize then .error .nameTooLong
      else if (t.lookup (place ++ [name])).isNone then .error .notFound
      else t.walk (place ++ [name]) rest

/-- Where the walk along a path begins, unless the path itself is no path. -/
def origin (t : FileTree) (path : Path) : Except SystemError (List String) :=
  if '\x00' ∈ path.toList then .error .nulInName
  else if path.toList = [] then .error .notFound
  else if maxPathLength < path.utf8ByteSize then .error .nameTooLong
  else .ok (if Path.isAbsolute path then [] else t.working)

/-- The names of a path, with a dot after a slash at the end. -/
def steps (path : Path) : List String :=
  if Path.endsWithSlash path then Path.names path ++ ["."] else Path.names path

def find (t : FileTree) (path : Path) : Except SystemError (List String) := do
  let start ← t.origin path
  t.walk start (steps path)

/-- Whether a path leads anywhere. -/
def pathExists (t : FileTree) (path : Path) : Bool :=
  (t.find path).toOption.isSome

def read (t : FileTree) (path : Path) : Except SystemError Octets := do
  let place ← t.find path
  match t.lookup place with
  | some (.file contents) => .ok contents
  | some .directory => .error .isDirectory
  | none => .error .notFound

def readText (t : FileTree) (path : Path) : Except SystemError String := do
  let contents ← t.read path
  match Octets.text? contents with
  | some text => .ok text
  | none => .error .notUtf8

/-- The place of a file to be written, which need not exist yet. -/
def target (t : FileTree) (path : Path) : Except SystemError (List String) := do
  let start ← t.origin path
  match (Path.names path).getLast? with
  | none => .error .isDirectory
  | some name =>
    let dir ← t.walk start (Path.names path).dropLast
    match t.lookup dir with
    | none => .error .notFound
    | some (.file _) => .error .notDirectory
    | some .directory =>
      if Path.endsWithSlash path ∨ name = "." ∨ name = ".." then .error .isDirectory
      else if maxNameLength < name.utf8ByteSize then .error .nameTooLong
      else if t.lookup (dir ++ [name]) = some .directory then .error .isDirectory
      else .ok (dir ++ [name])

/-- The contents at a place, none for no file. -/
def contentsAt (t : FileTree) (place : List String) : Octets :=
  match t.lookup place with
  | some (.file contents) => contents
  | _ => []

/-- Replaces the contents of a file, creating it if need be. -/
def write (t : FileTree) (path : Path) (contents : Octets) : Except SystemError FileTree := do
  let place ← t.target path
  .ok (t.put place (.file contents))

/-- Adds to the end of a file, creating it if need be. -/
def append (t : FileTree) (path : Path) (octets : Octets) : Except SystemError FileTree := do
  let place ← t.target path
  .ok (t.put place (.file (t.contentsAt place ++ octets)))

/-- Creates the directories that names lead to from `place`, where they are missing. One
that only dots follow is not created: the walk over the dots needs it to be there. -/
def createAlong (t : FileTree) (place : List String) : List String → Except SystemError FileTree
  | [] => .ok t
  | name :: rest =>
    if name = "." then t.createAlong place rest
    else if name = ".." then t.createAlong place.dropLast rest
    else if maxNameLength < name.utf8ByteSize then .error .nameTooLong
    else
      match t.lookup (place ++ [name]) with
      | some .directory => t.createAlong (place ++ [name]) rest
      | some (.file _) => .error (if rest = [] then .alreadyExists else .notDirectory)
      | none =>
        if rest ≠ [] ∧ rest.all (· == ".") then .error .notFound
        else (t.put (place ++ [name]) .directory).createAlong (place ++ [name]) rest

/-- Creates a directory and those above it, where they are missing. -/
def createDirectories (t : FileTree) (path : Path) : Except SystemError FileTree :=
  if path.toList = [] then .ok t
  else do
    let start ← t.origin path
    t.createAlong start (Path.names path)

def remove (t : FileTree) (path : Path) : Except SystemError FileTree := do
  let place ← t.find path
  match t.lookup place with
  | some (.file _) => .ok (t.erase place)
  | some .directory => .error .isDirectory
  | none => .error .notFound

/-- Names and contents of the files that stand directly in a directory. -/
def filesIn (t : FileTree) (path : Path) : List (String × Octets) :=
  match t.find path with
  | .error _ => []
  | .ok place =>
    t.entries.filterMap fun (names, e) =>
      match e, names.getLast? with
      | .file contents, some name => if names.dropLast = place then some (name, contents) else none
      | _, _ => none

end FileTree

end RadiusSentry
