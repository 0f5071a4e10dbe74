import Checkup.Numeric.Shortest
import Checkup.Probe
import Checkup.Publish.Error

/-!
# Running a battery of probes

A harness runs its probes one after another and gives one node for each, in their order. It isolates
them: a probe that panics, or that overruns its time limit, becomes a failed node, and the run goes on.

A probe that overruns its limit is not dropped at once. Its token fires, and for a grace period it may
still clean up and return. Whatever it returns then, the node is a failed one: the steps that it
recorded are kept, with a leaf that tells of the limit behind them.

**Names.** `Harness.run`, `Harness.runAndPublish`, `Harness.keys` and `Probe.guarded` are the program's
`run`, `run_and_publish`, `probe_keys` and `run_probe`; the limits are its `HarnessOptions`, and
`panicNode` shows what its `panic_message` says.
-/
namespace Checkup

/-- How long a probe may take, and how long it may go on after it was cancelled. -/
structure Limits where
  probeTimeout : Option Span
  cleanupGrace : Span
  deriving DecidableEq, Repr

/-- No limit on the time of a probe, and a minute to clean up. -/
def Limits.standard : Limits := ⟨none, Span.ofSeconds 60⟩

namespace Probe

variable {ε : Type}

def panicNode (p : Probe ε) (panic : Panic) : Node :=
  (Node.fail p.name s!"Probe panicked: {panic.message}").withKey p.key

/-- What a node says of a probe that overran its limit. -/
def overrunMessage (limit : Span) : String := s!"Probe timed out after {limit.toSeconds.text}s"

/-- The node of a probe that overran its limit and left no steps. -/
def overrunNode (p : Probe ε) (limit : Span) : Node :=
  (Node.fail p.name (overrunMessage limit)).withKey p.key

/-- The node of a probe that overran its limit but returned within the grace period. -/
def lateNode (p : Probe ε) (limit : Span) (partialNode : Node) : Node :=
  if partialNode.isLeaf then p.overrunNode limit
  else Node.aggregate p.key p.name
    (partialNode.children ++ [Node.fail "Time limit" (overrunMessage limit)])

/-- The end of a probe that ended by itself; a panic is turned into a node. The token is the one for
the probe that comes next. -/
def settle (p : Probe ε) (tok : Token) : Ending Node → Ending Node
  | .returned t _ node => .returned t (tok.next t) node
  | .panicked t panic => .returned t (tok.next t) (p.panicNode panic)
  | .never => .never

/-- The end of a probe after its token was fired at tick `l`; it is given up at tick `last`, if there is
such a tick. -/
def settleLate (p : Probe ε) (limit : Span) (tok : Token) (last : Option Nat)
    (c : Course ε Node) : Course ε Node :=
  let finish (t : Nat) (node : Node) : Ending Node := .returned t (tok.next t) node
  let givenUp (t : Nat) : Course ε Node := ⟨c.callsUntil t, finish t (p.overrunNode limit)⟩
  let inTime (t : Nat) : Bool := last.all (t ≤ ·)
  match c.ending with
  | .returned t _ node =>
    if inTime t then ⟨c.calls, finish t (p.lateNode limit node)⟩ else givenUp (last.getD t)
  | .panicked t _ =>
    if inTime t then ⟨c.calls, finish t (p.overrunNode limit)⟩ else givenUp (last.getD t)
  | .never =>
    match last with
    | some t => givenUp t
    | none => ⟨c.calls, .never⟩

/-- Runs one probe within the limits, from a tick of the run on. A probe that ends in the tick of its
limit is in time. A limit or a grace period that the clock cannot show counts as none. -/
def guarded (p : Probe ε) (limits : Limits) (now : Nat) : Timed ε Node := fun tok =>
  let alone := p.run tok
  let settled : Course ε Node := ⟨alone.calls, p.settle tok alone.ending⟩
  match limits.probeTimeout with
  | none => settled
  | some limit =>
    let l := limit.ticksFrom now
    if !fitsClock now limit || alone.ending.time?.any (· ≤ l) then settled
    else
      let grace := limits.cleanupGrace
      let last := if fitsClock (now + l) grace then some (l + grace.ticksFrom (now + l)) else none
      p.settleLate limit tok last (p.run (tok.within l))

end Probe

/-- A battery of probes with the limits that hold for each of them. -/
structure Harness (ε : Type) where
  probes : List (Probe ε)
  limits : Limits

namespace Harness

variable {ε : Type}

/-- The keys of the probes, in the order of the run. -/
def keys (h : Harness ε) : List String := h.probes.map (·.key)

/-- Runs probes one after another, the first one from a tick of the run on. -/
def runProbes (limits : Limits) : (now : Nat) → List (Probe ε) → Timed ε (List Node)
  | _, [] => Timed.pure []
  | now, p :: ps => Timed.bind (Timed.measured (p.guarded limits now)) fun (t, node) =>
      Timed.bind (runProbes limits (now + t) ps) fun nodes => Timed.pure (node :: nodes)

def run (h : Harness ε) : Timed ε (List Node) := runProbes h.limits 0 h.probes

end Harness

/-- What a run that is published does to the outside: calls, and publications. -/
inductive RunEvent (ε : Type) where
  | call (e : ε)
  | published (results : List Node)

/-- Takes the results of a run somewhere; it may fail. -/
def Publisher (ε : Type) : Type := List Node → Timed ε (Except PublishError Unit)

/-- Drops the results. -/
def Publisher.silent {ε : Type} : Publisher ε := fun _ => pure (.ok ())

/-- One run of the whole battery, whose results are then published; they are returned whatever comes of
that. -/
def Harness.runAndPublish {ε : Type} (h : Harness ε) (publish : Publisher ε) :
    Timed (RunEvent ε) (List Node) := do
  let results ← h.run.mapCalls .call
  Timed.emit (.published results)
  let _ ← (publish results).mapCalls .call
  return results

end Checkup
