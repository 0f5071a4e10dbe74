import Checkup.Proofs.Node.Verdict
import Checkup.Proofs.Timed.Promises

/-!
# The trees that scripts make

A script only ever adds leaves to its log, and each of them is a passed or a failed one with what its
fault has to show. `Script.Sound` says so of a script, whatever its log and the replies of the service.

Results:
* `Sound.bind`, `sound_step`, `sound_act`, `sound_fail` and `Sound.attempt`: one rule for each way to
  build a script.
* `Sound.node` and `Probe.builds_deaf`: the node of a sound script is a built tree, and so is that of a
  probe that runs it.
-/
namespace Checkup

/-! ## Logs -/

namespace StepLog

/-- The leaves of the log are built trees. -/
def Built (log : StepLog) : Prop := ∀ leaf ∈ log.leaves, leaf.Built

theorem built_empty : StepLog.empty.Built := fun _ h => nomatch h

theorem Built.append {log : StepLog} {leaves : List Node} (h : log.Built)
    (hleaves : ∀ leaf ∈ leaves, leaf.Built) : StepLog.Built ⟨log.leaves ++ leaves⟩ := by
  intro leaf hleaf
  rcases List.mem_append.mp hleaf with hleaf | hleaf
  · exact h leaf hleaf
  · exact hleaves leaf hleaf

theorem Built.record {log : StepLog} {leaf : Node} (h : log.Built) (hleaf : leaf.Built) :
    (log.record leaf).Built :=
  h.append fun _ h' => by cases List.mem_singleton.mp h'; exact hleaf

theorem Built.settle {α : Type} {log : StepLog} (h : log.Built) (label : String)
    (r : Except Fault α) : (log.settle label r).2.Built := by
  rw [StepLog.settle_eq]
  exact h.record (Node.built_ofOutcome label r)

theorem Built.finish {log : StepLog} (h : log.Built) (key name : String) :
    (log.finish key name).Built :=
  .aggregate h

end StepLog

/-! ## Scripts -/

namespace Script

variable {ε α β : Type}

/-- The script leaves a log of built trees if it finds one. -/
def Sound (s : Script ε α) : Prop := ∀ log, log.Built → (s.run log).Returns fun r => r.2.Built

theorem sound_pure (v : α) : Sound (pure v : Script ε α) :=
  fun _ hlog => Timed.promises_pure hlog

theorem Sound.bind {s : Script ε α} {f : α → Script ε β} (hs : s.Sound) (hf : ∀ v, (f v).Sound) :
    (s >>= f).Sound := by
  intro log hlog
  refine Timed.Promises.bind (hs log hlog) fun r hr => ?_
  obtain ⟨v, log'⟩ := r
  cases v with
  | none => exact Timed.promises_pure hr
  | some v => exact hf v log' hr

theorem sound_step (label : String) (x : Timed ε (Except Fault α)) : (step label x).Sound :=
  fun _ hlog => Timed.Promises.bind (Timed.returns_any x) fun r _ =>
    Timed.promises_pure (hlog.settle label r)

theorem sound_act (x : Timed ε α) : (act x).Sound :=
  fun _ hlog => Timed.Promises.bind (Timed.returns_any x) fun _ _ => Timed.promises_pure hlog

theorem sound_fail (label error : String) : (fail label error : Script ε α).Sound :=
  fun _ hlog => Timed.promises_pure (hlog.record (.fail label _))

theorem Sound.attempt {s : Script ε α} (hs : s.Sound) : (attempt s).Sound :=
  fun log hlog => Timed.Promises.bind (hs log hlog) fun _ hr => Timed.promises_pure hr

theorem Sound.node {s : Script ε α} (hs : s.Sound) (key name : String) :
    (s.node key name).Returns Node.Built := by
  have hlog : s.log.Returns StepLog.Built :=
    Timed.Promises.bind (hs .empty StepLog.built_empty) fun r hr => Timed.promises_pure hr
  exact Timed.Promises.bind hlog fun log h => Timed.promises_pure (h.finish key name)

end Script

/-! ## Probes -/

/-- If the probe returns a node, that is a built tree. -/
def Probe.Builds {ε : Type} (p : Probe ε) : Prop := p.run.Returns Node.Built

theorem Probe.builds_deaf {ε : Type} {run : Timed ε Node} (key name : String)
    (h : run.Returns Node.Built) : (Probe.deaf key name run).Builds :=
  Timed.Promises.shielded h

theorem Probe.Builds.mapCalls {ε δ : Type} {p : Probe ε} (h : p.Builds) (f : ε → δ) :
    (p.mapCalls f).Builds :=
  Timed.Promises.mapCalls (p := fun _ => True) h

end Checkup
