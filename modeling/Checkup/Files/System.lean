import Checkup.Files.Path

/-!
# A file system

Directories, files and devices, each at a location: the names that lead to it from the root. A path is
resolved piece by piece from the root or from the working directory; every piece but the last must be a
directory, `.` stays where it is and `..` goes up, the root being its own parent. Writing creates a file
that does not exist, in a directory that does, and replaces one that does.
-/
namespace Checkup.Files

inductive FileError where
  | notFound
  | notADirectory
  | isADirectory
  | noSpace
  | nameTooLong
  | containsNul
  deriving DecidableEq, Repr

def FileError.message : FileError → String
  | notFound => "No such file or directory (os error 2)"
  | notADirectory => "Not a directory (os error 20)"
  | isADirectory => "Is a directory (os error 21)"
  | noSpace => "No space left on device (os error 28)"
  | nameTooLong => "File name too long (os error 36)"
  | containsNul => "file name contained an unexpected NUL byte"

inductive Entry where
  | directory
  | file (content : String)
  /-- A device that has nothing to read; it takes everything that is written to it, or nothing. -/
  | device (takes : Bool)
  deriving DecidableEq, Repr

/-- The names that lead from the root to an entry. -/
abbrev Location : Type := List String

/-- The entries of a file system, apart from the root, and its working directory. -/
structure FileSystem where
  entries : List (Location × Entry)
  workingDirectory : Location
  deriving Repr

/-- The longest name of an entry, in bytes. -/
def longestName : Nat := 255

/-- The longest path, in bytes. -/
def longestPath : Nat := 4095

namespace FileSystem

def entry? (fs : FileSystem) (l : Location) : Option Entry :=
  if l.isEmpty then some .directory else fs.entries.lookup l

def put (fs : FileSystem) (l : Location) (e : Entry) : FileSystem :=
  { fs with entries := (l, e) :: fs.entries.filter (·.1 != l) }

/-- The location that a piece leads to from a directory, and what stands there. -/
def step (fs : FileSystem) (l : Location) (piece : String) : Except FileError (Location × Entry) :=
  if piece = "." then .ok (l, .directory)
  else if piece = ".." then .ok (l.dropLast, .directory)
  else if longestName < piece.utf8ByteSize then .error .nameTooLong
  else
    match fs.entry? (l ++ [piece]) with
    | some e => .ok (l ++ [piece], e)
    | none => .error .notFound

/-- The directory that pieces lead to from a directory. -/
def descend (fs : FileSystem) (l : Location) : List String → Except FileError Location
  | [] => .ok l
  | piece :: rest =>
    match fs.step l piece with
    | .ok (l', .directory) => fs.descend l' rest
    | .ok _ => .error .notADirectory
    | .error e => .error e

/-- Where the resolution of a path begins. -/
def start (fs : FileSystem) (path : String) : Location :=
  if isAbsolute path then [] else fs.workingDirectory

/-- Paths that no resolution is tried for. -/
def checkPath (path : String) : Except FileError Unit :=
  if path.toList.contains '\x00' then .error .containsNul
  else if path.isEmpty then .error .notFound
  else if longestPath < path.utf8ByteSize then .error .nameTooLong
  else .ok ()

/-- The directory of a path and its last piece, which is absent for the root. -/
def parent (fs : FileSystem) (path : String) : Except FileError (Location × Option String) := do
  checkPath path
  let names := pieces path
  return (← fs.descend (fs.start path) names.dropLast, names.getLast?)

def read (fs : FileSystem) (path : String) : Except FileError String := do
  let (dir, last) ← fs.parent path
  let (_, e) ← match last with
    | none => .ok (dir, .directory)
    | some piece => fs.step dir piece
  match e with
  | .directory => .error .isADirectory
  | .file content => if endsWithSlash path then .error .notADirectory else .ok content
  | .device _ => if endsWithSlash path then .error .notADirectory else .ok ""

/-- The locations that a path passes, if each of its pieces stands for a directory. -/
def passed (fs : FileSystem) (path : String) : List Location :=
  ((pieces path).foldl (fun (l, seen) piece =>
    let l' := if piece = "." then l else if piece = ".." then l.dropLast else l ++ [piece]
    (l', seen ++ [l'])) (fs.start path, [])).2

/-- The file system after a text was written to a file. -/
def write (fs : FileSystem) (path content : String) : Except FileError FileSystem := do
  let (dir, last) ← fs.parent path
  match last with
  | none => .error .isADirectory
  | some piece =>
    if endsWithSlash path then throw .isADirectory
    match fs.step dir piece with
    | .ok (_, .directory) => .error .isADirectory
    | .ok (l, .file _) => .ok (fs.put l (.file content))
    | .ok (_, .device takes) => if takes then .ok fs else .error .noSpace
    | .error .notFound => .ok (fs.put (dir ++ [piece]) (.file content))
    | .error e => .error e

end FileSystem
end Checkup.Files
