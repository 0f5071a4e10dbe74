import Checkup.Proofs.Script.Contract

/-!
# What a part of a script adds

A part of a script that makes calls of one sort only, and adds leaves of one sort only to the log, leaves
all others as they are. `x.Adds p l` says so of it, whatever its log and its token: `p` holds of its calls
and `l` of the leaves that it adds.

Results:
* `adds_pure`, `Adds.bind`, `Adds.attempt`, `adds_recorded`, `adds_step` and `adds_fail`: one rule for each way
  to build a script.
-/
namespace Checkup.Script

open Timed

variable {ε α β : Type} {p : ε → Prop} {l : Node → Prop}

/-- The part makes only calls of one sort, and adds only leaves of one sort. -/
def Adds (p : ε → Prop) (l : Node → Prop) (s : Script ε α) : Prop :=
  ∀ log, s.Ensures log fun es _ log' => (∀ e ∈ es, p e) ∧
    ∃ leaves, log'.leaves = log.leaves ++ leaves ∧ ∀ leaf ∈ leaves, l leaf

theorem adds_pure (v : α) : Adds p l (pure v : Script ε α) := by
  intro log
  exact ensures_pure ⟨nofun, [], (List.append_nil _).symm, nofun⟩

theorem Adds.bind {s : Script ε α} {f : α → Script ε β} (hs : Adds p l s) (hf : ∀ v, Adds p l (f v)) :
    Adds p l (s >>= f) := by
  intro log
  refine (hs log).bind (fun es log' h => h) fun es v log' h => ?_
  obtain ⟨hes, leaves, hleaves, hl⟩ := h
  refine (hf v log').mono fun es' w log'' h => ?_
  obtain ⟨hes', leaves', hleaves', hl'⟩ := h
  refine ⟨?_, leaves ++ leaves', ?_, ?_⟩
  · exact fun e he => (List.mem_append.mp he).elim (hes e) (hes' e)
  · rw [hleaves', hleaves, List.append_assoc]
  · exact fun leaf hleaf => (List.mem_append.mp hleaf).elim (hl leaf) (hl' leaf)

theorem Adds.attempt {s : Script ε α} (hs : Adds p l s) : Adds p l (attempt s) := by
  intro log
  refine Timed.Ensures.bind (hs log) fun es r hr => Timed.ensures_pure ?_
  rw [List.append_nil]
  exact hr

theorem adds_recorded {s : Script ε α} {x : Timed ε (Except Fault α)} {leaf : Except Fault α → Node}
    (hs : ∀ log, s.run log = do
      let result ← x
      return (result.toOption, log.record (leaf result)))
    (hx : Only p x) (hleaf : ∀ result, l (leaf result)) : Adds p l s := by
  intro log
  refine (ensures_recorded hs hx log).mono fun es v log' h => ?_
  obtain ⟨result, hes, -, rfl⟩ := h
  refine ⟨hes, [leaf result], rfl, fun other hother => ?_⟩
  rw [List.mem_singleton.mp hother]
  exact hleaf result

theorem adds_step {label : String} {x : Timed ε (Except Fault α)} (hx : Only p x)
    (hleaf : ∀ leaf : Node, leaf.name = label → l leaf) : Adds p l (step label x) :=
  adds_recorded (step_run label x) hx fun result => hleaf _ (Node.ofOutcome_leaf label result).1

theorem adds_fail {label error : String} (hleaf : ∀ leaf : Node, leaf.name = label → l leaf) :
    Adds p l (fail label error : Script ε α) := by
  intro log
  refine Timed.ensures_pure ⟨nofun, [.fail label (shownError error)], rfl, fun leaf h => ?_⟩
  rw [List.mem_singleton.mp h]
  exact hleaf _ rfl

end Checkup.Script
