import Checkup.Probe

/-!
# Scripts of steps

A script does steps in time and records one leaf for each. It stops at the first step that fails, so the
steps of a script are those of its text up to the first failure. `Script.attempt` runs a part of a script
and goes on after it in any case, which is how a script cleans up.
-/
namespace Checkup

/-- Steps in time, with a log, that stop at the first failure. -/
abbrev Script (ε : Type) : Type → Type := OptionT (StateT StepLog (Timed ε))

namespace Script

variable {ε α : Type}

/-- Does something that is no step of its own. -/
def act (x : Timed ε α) : Script ε α := OptionT.mk fun log => do return (some (← x), log)

/-- A step: its outcome is recorded, and a failure ends the script. -/
def step (label : String) (x : Timed ε (Except Fault α)) : Script ε α :=
  OptionT.mk fun log => log.run label x

def record (leaf : Node) : Script ε Unit := OptionT.mk fun log => pure (some (), log.record leaf)

/-- Records a failure and ends the script. -/
def fail (label error : String) : Script ε α := OptionT.mk fun log => pure (none, log.fail label error)

/-- Runs a part of a script; a failure in it does not end the whole. -/
def attempt (s : Script ε α) : Script ε (Option α) :=
  OptionT.mk fun log => do
    let (value, log) ← s.run log
    return (some value, log)

def log (s : Script ε α) : Timed ε StepLog := do return (← s.run .empty).2

def node (s : Script ε α) (key name : String) : Timed ε Node := do return (← s.log).finish key name

end Script

/-- A connection attempt with a limit on its time. -/
def Timed.connecting {ε α : Type} (limit : Span) (late : Fault) (x : Timed ε (Except Fault α)) :
    Timed ε (Except Fault α) := do
  match ← x.within limit with
  | some outcome => return outcome
  | none => return .error late

/-- What a limit on the time of an activity says of itself. -/
def Fault.deadlineElapsed : Fault := .message "deadline has elapsed"

end Checkup
