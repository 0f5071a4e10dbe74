import Checkup.Text.Split

/-!
# Paths

A path is a text whose pieces are separated by slashes; one that begins with a slash is absolute. Joining
puts a path below a directory and changes neither of the two: pieces such as `.` and `..` stay as they
are, and an absolute path stands for itself.
-/
namespace Checkup.Files

def isAbsolute (path : String) : Bool := path.toList.head? == some '/'

/-- A path below a directory. -/
def join (dir path : String) : String :=
  if isAbsolute path then path
  else if dir.isEmpty || dir.toList.getLast? == some '/' then dir ++ path
  else dir ++ "/" ++ path

/-- The directory of a file, with the slash behind it if there is one. -/
def directory (path : String) : String :=
  String.ofList (path.toList.reverse.dropWhile (· != '/')).reverse

/-- The pieces of a path that are not empty. -/
def pieces (path : String) : List String := (Text.split '/' path).filter (!·.isEmpty)

/-- Whether a path ends with a slash, so that it can only be a directory. -/
def endsWithSlash (path : String) : Bool := path.toList.getLast? == some '/'

end Checkup.Files
