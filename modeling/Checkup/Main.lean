import Checkup.CommandLine.Program

/-!
# The executable

The program reads its environment and the files that the battery may touch, decides everything in
`Checkup.CommandLine.execute`, prints what that says and keeps the files that the battery has written.
It has no connection to a network: every service counts as one that cannot be reached, and no server can
be started.
-/
namespace Checkup.Executable

/-- The path of a location. -/
def pathOf (l : Files.Location) : String := "/" ++ "/".intercalate l

/-- What stands at a location, if it can be read. What can be opened and is of the wrong type for
reading is a directory. -/
def entryAt (l : Files.Location) : IO (Option Files.Entry) := do
  try
    return some (.file (← IO.FS.readFile (pathOf l)))
  catch
    | .inappropriateType none _ _ => return some .directory
    | _ => return none

/-- Adds what stands along a path. -/
def explore (fs : Files.FileSystem) (path : String) : IO Files.FileSystem :=
  (fs.passed path).foldlM (fun fs l => do
    match ← entryAt l with
    | some e => return fs.put l e
    | none => return fs) fs

/-- The files that a battery may touch; what is read first may name others. -/
def filesOf (c : Config) : IO Files.FileSystem := do
  let here : Files.FileSystem := ⟨[], Files.pieces (toString (← IO.currentDir))⟩
  let known ← (Registry.paths c here).foldlM explore here
  (Registry.paths c known).foldlM explore known

/-- Keeps the files that are new or have changed. -/
def keep (before after : Files.FileSystem) : IO Unit :=
  after.entries.forM fun (l, e) => do
    match e with
    | .file content => unless before.entry? l == some e do IO.FS.writeFile (pathOf l) content
    | _ => return ()

/-- The platform of this machine. Its clock counts from when the machine was started. -/
def machine (files : Files.FileSystem) : IO Platform := do
  let seconds := toString ((← IO.monoMsNow) / 1000)
  let identifier := toString (← IO.rand 0 (2 ^ (64 : Nat) - 1))
  return .isolated files seconds seconds identifier

end Checkup.Executable

open Checkup Checkup.Executable in
def main (args : List String) : IO UInt32 := do
  let settings ← CommandLine.environmentNames.mapM fun name => return (name, ← IO.getEnv name)
  let environment (name : String) : Option String := (settings.lookup name).join
  let config := CommandLine.configuration? args environment
  let files ← match config with
    | some c => filesOf c
    | none => pure ⟨[], []⟩
  let p ← machine files
  let outcome := CommandLine.execute args environment p
  IO.print outcome.stdout
  outcome.stderr.forM IO.eprintln
  match outcome, config with
  | .report _, some c => keep files (Registry.leaves c p)
  | .serving .., _ => IO.eprintln "Error: Operation not supported (os error 95)"
  | _, _ => pure ()
  return match outcome with
    | .serving .. => 1
    | _ => UInt32.ofNat outcome.exitCode
