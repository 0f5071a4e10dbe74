import Checkup.StepLog
import Checkup.Timed.Basic

/-!
# Probes

A probe checks one service. It runs its steps under a token and always ends with a node, unless it
panics or hangs; a step that fails is a failed leaf and not an error of the probe.

**Names.** The run of a probe under a token is the program's `run_cancellable`, and `deaf` makes it of the
program's `run`, which knows of no token.
-/
namespace Checkup

/-- A check of one service, with the key and the name of its node. -/
structure Probe (ε : Type) where
  key : String
  name : String
  run : Timed ε Node

namespace Probe

variable {ε : Type}

/-- A probe that is deaf to cancellation. -/
def deaf (key name : String) (run : Timed ε Node) : Probe ε := ⟨key, name, Timed.shielded run⟩

/-- The same probe with its calls in a wider type of calls. -/
def mapCalls {δ : Type} (f : ε → δ) (p : Probe ε) : Probe δ := ⟨p.key, p.name, p.run.mapCalls f⟩

end Probe
end Checkup
