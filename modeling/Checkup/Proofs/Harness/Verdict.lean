import Checkup.Proofs.Harness.TimeLimit
import Checkup.Proofs.Script.Verdict
import Checkup.Proofs.StatusServer.Serve

/-!
# The trees of a run

The harness makes nodes of its own: for a probe that panics, for one that overruns its limit, and for one
that returns behind it, whose steps it rebuilds with a leaf behind them. So does the server for a run that
breaks off. All of them are built trees, so a run of probes that build theirs keeps the verdicts.

Results:
* `guarded_builds`: one probe within its limits.
* `run_builds`: a run of the battery.
* `built_of_ended`: the answer of a run that is published, whatever the publisher says.
-/
namespace Checkup

namespace Probe

variable {ε : Type} {p : Probe ε} {tok : Token}

theorem built_panicNode (q : Panic) : (p.panicNode q).Built := .withKey _ (.fail _ _)

theorem built_overrunNode (limit : Span) : (p.overrunNode limit).Built := .withKey _ (.fail _ _)

theorem built_lateNode (limit : Span) {node : Node} (h : node.Built) :
    (p.lateNode limit node).Built := by
  by_cases hleaf : node.children = []
  · rw [lateNode_of_leaf hleaf]
    exact built_overrunNode limit
  · rw [lateNode_of_children hleaf]
    refine .aggregate fun u hu => ?_
    rcases List.mem_append.mp hu with hu | hu
    · exact h.of_mem hu
    · cases List.mem_singleton.mp hu
      exact .fail _ _

/-- The node of an ending, if it has one, is a built tree. -/
def BuiltEnding (e : Ending Node) : Prop := ∀ t tok' node, e = .returned t tok' node → node.Built

theorem built_settle {e : Ending Node} (h : BuiltEnding e) : BuiltEnding (p.settle tok e) := by
  intro t tok' node hnode
  cases e with
  | returned u tok₂ node' => cases hnode; exact h _ _ _ rfl
  | panicked u q => cases hnode; exact built_panicNode q
  | never => cases hnode

theorem built_settleLate (limit : Span) (last : Option Nat) {late : Course ε Node}
    (h : BuiltEnding late.ending) : BuiltEnding (p.settleLate limit tok last late).ending := by
  intro t tok' node hnode
  rcases inGrace_or late last with ⟨u, hu, hin⟩ | ⟨m, rfl, hm⟩ | ⟨hnever, rfl⟩
  case inl =>
    rw [settleLate_ended p limit tok hu hin] at hnode
    cases hnode
    cases hend : late.ending with
    | returned v tok₂ node' => exact built_lateNode limit (h _ _ _ hend)
    | panicked v q => exact built_overrunNode limit
    | never => exact built_overrunNode limit
  case inr.inl =>
    rw [settleLate_givenUp p limit tok hm] at hnode
    cases hnode
    exact built_overrunNode limit
  case inr.inr =>
    rw [settleLate_never p limit tok hnever] at hnode
    cases hnode

/-- A probe that builds its node does so within limits too. -/
theorem guarded_builds (h : p.Builds) (limits : Limits) (now : Nat) :
    (p.guarded limits now).Returns Node.Built := by
  intro tok
  refine ⟨fun _ _ => trivial, ?_⟩
  have hsettled : BuiltEnding (p.settle tok (p.run tok).ending) := built_settle (h tok).2
  unfold guarded
  cases limits.probeTimeout with
  | none => exact hsettled
  | some limit =>
    dsimp only
    split
    · exact hsettled
    · exact built_settleLate limit _ (h _).2

end Probe

/-! ## A run -/

namespace Harness

variable {ε : Type}

theorem runProbes_builds {ps : List (Probe ε)} (h : ∀ p ∈ ps, p.Builds) (limits : Limits)
    (now : Nat) : (runProbes limits now ps).Returns fun nodes => ∀ t ∈ nodes, t.Built := by
  induction ps generalizing now with
  | nil => exact Timed.promises_pure fun _ ht => nomatch ht
  | cons p ps ih =>
    refine Timed.Promises.bind (Probe.guarded_builds (h p List.mem_cons_self) limits now).measured ?_
    rintro ⟨u, node⟩ hnode
    refine Timed.Promises.bind (ih (fun q hq => h q (List.mem_cons_of_mem p hq)) (now + u)) ?_
    intro nodes hnodes
    exact Timed.promises_pure (List.forall_mem_cons.mpr ⟨hnode, hnodes⟩)

theorem run_builds {h : Harness ε} (hprobes : ∀ p ∈ h.probes, p.Builds) :
    h.run.Returns fun nodes => ∀ t ∈ nodes, t.Built :=
  runProbes_builds hprobes h.limits 0

/-- Publishing hands the results on as they are. -/
theorem runAndPublish_builds {h : Harness ε} (hprobes : ∀ p ∈ h.probes, p.Builds)
    (publish : Publisher ε) : (h.runAndPublish publish).Returns fun nodes => ∀ t ∈ nodes, t.Built := by
  unfold runAndPublish
  refine Timed.Promises.bind (Timed.Promises.mapCalls (p := fun _ => True) (run_builds hprobes)) ?_
  intro nodes hnodes
  refine Timed.Promises.bind (Timed.returns_any _) fun _ _ => ?_
  exact Timed.Promises.bind (Timed.returns_any _) fun _ _ => Timed.promises_pure hnodes

end Harness

theorem StatusServer.built_aborted (q : Panic) : ∀ t ∈ aborted q, t.Built := by
  intro t ht
  cases List.mem_singleton.mp ht
  exact .fail _ _

/-- The answer of a run consists of built trees, also if the run broke off. -/
theorem StatusServer.built_of_ended {ε : Type} {h : Harness ε} (hprobes : ∀ p ∈ h.probes, p.Builds)
    (publish : Publisher ε) {tok : Token} {t : Nat} {answer : List Node}
    (hended : ended (h.runAndPublish publish tok).ending = some (t, answer)) :
    ∀ r ∈ answer, r.Built := by
  cases hend : (h.runAndPublish publish tok).ending with
  | returned u tok' nodes =>
    rw [hend] at hended
    cases hended
    exact (Harness.runAndPublish_builds hprobes publish tok).2 _ _ _ hend
  | panicked u q =>
    rw [hend] at hended
    cases hended
    exact built_aborted q
  | never => rw [hend] at hended; cases hended

end Checkup
