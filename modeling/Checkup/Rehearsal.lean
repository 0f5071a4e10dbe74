import Checkup.Probe
import Checkup.Wait.Waiter

/-!
# Rehearsed probes

A rehearsal is a probe that contacts no service: it does the actions of a list, one after another, and
records their steps. It serves to try out a harness.
-/
namespace Checkup

inductive Action where
  /-- A step with a given outcome. -/
  | step (label : String) (outcome : Except Fault Unit)
  | fail (label error : String)
  | record (leaf : Node)
  /-- A pause that is deaf to the token. -/
  | sleep (ticks : Nat)
  /-- A pause that the token ends, which is then a failed step. -/
  | hold (label : String) (ticks : Nat)
  /-- A step that waits for a resource. -/
  | wait (label : String) (spec : WaitSpec) (source : StateSource)
  /-- Leaves out the other actions if the last step failed. -/
  | stopIfFailed
  | panic (p : Panic)

inductive Returned where
  | node
  | passed
  | failed
  deriving DecidableEq

structure Rehearsal where
  key : String
  name : String
  actions : List Action
  returns : Returned
  cancellable : Bool

namespace Rehearsal

/-- Does actions one after another, adding their steps to a log. -/
def act (random : Nat → Nat) : List Action → StepLog → Timed Fetch StepLog
  | [], log => pure log
  | .step label outcome :: rest, log => act random rest (log.settle label outcome).2
  | .fail label error :: rest, log => act random rest (log.fail label error)
  | .record leaf :: rest, log => act random rest (log.record leaf)
  | .sleep ticks :: rest, log => do
    Timed.sleep ticks
    act random rest log
  | .hold label ticks :: rest, log => do
    match ← Timed.unlessCancelled (Timed.sleep ticks) with
    | some _ => act random rest (log.record (Node.pass label))
    | none => act random rest (log.fail label "cancelled")
  | .wait label spec source :: rest, log => do
    let outcome := (← spec.wait source random).mapError fun e => Fault.message e.message
    act random rest (log.settle label outcome).2
  | .stopIfFailed :: rest, log =>
    if log.leaves.getLast?.any (!·.passed) then pure log else act random rest log
  | .panic p :: _, _ => Timed.panic p

def result (r : Rehearsal) (log : StepLog) : Node :=
  match r.returns with
  | .node => log.finish r.key r.name
  | .passed => (Node.pass r.name).withKey r.key
  | .failed => (Node.fail r.name "probe failed").withKey r.key

/-- The rehearsal as a probe; the random numbers are for the jitter of its waits. -/
def probe (r : Rehearsal) (random : Nat → Nat) : Probe Fetch :=
  let run := do return r.result (← act random r.actions .empty)
  if r.cancellable then ⟨r.key, r.name, run⟩ else .deaf r.key r.name run

end Rehearsal
end Checkup
