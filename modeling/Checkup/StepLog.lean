import Checkup.Timed.Basic

/-!
# The log of a check's steps

A check runs its steps in order and records one leaf for each, whether it passed or failed. Nothing that
was recorded is changed afterwards; at the end the log becomes the check's node.

**Names.** `run`, `settle`, `fail`, `record` and `finish` have the same names in the program, and `settle`
stands for its `run_sync` too.
-/
namespace Checkup

/-- The leaves recorded so far, in the order of the steps. -/
structure StepLog where
  leaves : List Node
  deriving Repr

namespace StepLog

def empty : StepLog := ⟨[]⟩

def record (log : StepLog) (leaf : Node) : StepLog := ⟨log.leaves ++ [leaf]⟩

/-- Adds a failure that did not come from running a step. -/
def fail (log : StepLog) (label error : String) : StepLog :=
  log.record (Node.fail label (shownError error))

/-- Adds the outcome of a step and gives its value, if it has one. -/
def settle {α : Type} (log : StepLog) (label : String) : Except Fault α → Option α × StepLog
  | .ok value => (some value, log.record (Node.pass label))
  | .error fault => (none, log.record (Node.ofFault label fault))

/-- Runs a step that takes time, adds its outcome and gives its value, if it has one. -/
def run {ε α : Type} (log : StepLog) (label : String) (step : Timed ε (Except Fault α)) :
    Timed ε (Option α × StepLog) := do
  return log.settle label (← step)

/-- The node of the check. -/
def finish (log : StepLog) (key name : String) : Node := Node.aggregate key name log.leaves

end StepLog
end Checkup
