import Checkup.Binding.Basic
import Checkup.Files.System
import Checkup.Probe

/-!
# The check of a shared volume

The check writes a file below the directory where the volume is mounted and reads it back. A share for
which no file is named is bound all the same, so its check fails in the first step. The file stays where
it is, and the check of another share may find it.

**Names.** A share is the program's `FileShareProbe`; `ofFileName`, `path?` and `run` are its `new`,
`path` and `run`.
-/
namespace Checkup

structure FileShare where
  key : String
  name : String
  mountDir : String
  fileName : Option String
  deriving DecidableEq, Repr

namespace FileShare

def ofFileName (key name mountDir : String) (fileName : Option String) : FileShare :=
  ⟨key, name, mountDir, fileName.filter (!Text.isBlank ·)⟩

/-- The directory where the volume of a binding is mounted. -/
def mountDirOf (b : Binding) : Except BindingError String := do return (← b.firstMount).containerDir

def path? (s : FileShare) : Option String := s.fileName.map (Files.join s.mountDir)

/-- The key and the name of network file systems, and the file that is written there. -/
def nfsKey : String := "nfs"
def nfsName : String := "NFS"
def nfsFile : String := "prodsmoketestfile"

/-- What is written at a time stamp. -/
def contentAt (timestamp : String) : String := s!"test {timestamp}"

/-- The fault of a file operation on a path. -/
def faultOf (doing path : String) (e : Files.FileError) : Fault :=
  .context s!"{doing} {path}" (.message e.message)

/-- The outcome of reading the file back. -/
def checkContent (path content : String) : Except Files.FileError String → Except Fault Unit
  | .ok read =>
    if read = content then .ok ()
    else .error (.message "Read content differs from written content")
  | .error e => .error (faultOf "reading" path e)

/-- Writes the file and reads it back. -/
def exercise (path content : String) (fs : Files.FileSystem) : StepLog × Files.FileSystem :=
  match fs.write path content with
  | .error e => ((StepLog.empty.settle (α := Unit) "Write file" (.error (faultOf "writing" path e))).2, fs)
  | .ok fs' =>
    let log := (StepLog.empty.settle "Write file" (.ok ())).2
    ((log.settle "Read file back" (checkContent path content (fs'.read path))).2, fs')

/-- The steps of the check, and the file system after it. -/
def run (s : FileShare) (timestamp : String) (fs : Files.FileSystem) : StepLog × Files.FileSystem :=
  match s.path? with
  | none => (StepLog.empty.fail "Write file" "No file name configured for this share", fs)
  | some path => exercise path (contentAt timestamp) fs

/-- The file system after the check. -/
def leaves (s : FileShare) (timestamp : String) (fs : Files.FileSystem) : Files.FileSystem :=
  (s.run timestamp fs).2

/-- The probe of a share, for a run at a time stamp on a file system. -/
def probe {ε : Type} (s : FileShare) (timestamp : String) (fs : Files.FileSystem) : Probe ε :=
  .deaf s.key s.name (pure ((s.run timestamp fs).1.finish s.key s.name))

end FileShare
end Checkup
