import Checkup.Proofs.Timed.Ensures
import Checkup.Proofs.Timed.Promises

/-!
# The two ways out of an activity

`x.Exits B Q` is a contract for activities whose calls may panic. It says what has been called by the time
at which the activity is left: `B` holds of that if a panic breaks it off, and `Q` holds of it and of the
value if it returns. A part that panics ends the whole, so what stands behind it is not called.

Results:
* `exits_pure`, `Exits.bind`, `exits_call` and `Promises.exits`: the rules.
* `Promises.unlessCancelled`: what an activity promises, it promises up to the point at which it is given
  up.
-/
namespace Checkup.Timed

variable {ε α β : Type} {B : List ε → Prop} {P : List ε → α → Prop} {Q : List ε → β → Prop}

/-- What has been called when a panic breaks the activity off, and what when it returns. -/
def Exits (x : Timed ε α) (B : List ε → Prop) (Q : List ε → α → Prop) : Prop :=
  ∀ tok, (∀ t p, (x tok).ending = .panicked t p → B (x tok).called) ∧
    ∀ t tok' v, (x tok).ending = .returned t tok' v → Q (x tok).called v

theorem Exits.mono {B' : List ε → Prop} {P' : List ε → α → Prop} {x : Timed ε α} (h : x.Exits B P)
    (hB : ∀ es, B es → B' es) (hP : ∀ es v, P es v → P' es v) : x.Exits B' P' :=
  fun tok => ⟨fun t p he => hB _ ((h tok).1 t p he), fun t tok' v he => hP _ v ((h tok).2 t tok' v he)⟩

theorem exits_pure {v : α} (h : P [] v) : (Pure.pure v : Timed ε α).Exits B P := by
  intro tok
  refine ⟨nofun, fun t tok' w he => ?_⟩
  cases he
  exact h

/-- Either the first part is broken off, or its calls stand before those of the second. -/
theorem Exits.bind {B' : List ε → Prop} {x : Timed ε α} {f : α → Timed ε β} (hx : x.Exits B' P)
    (hB : ∀ es, B' es → B es)
    (hf : ∀ es v, P es v → (f v).Exits (fun es' => B (es ++ es')) fun es' w => Q (es ++ es') w) :
    (x >>= f).Exits B Q := by
  intro tok
  obtain ⟨hbroken, hvalue⟩ := hx tok
  cases hend : (x tok).ending with
  | returned t tok' v =>
    obtain ⟨hbroken', hvalue'⟩ := hf _ v (hvalue t tok' v hend) tok'
    rw [bind_returned hend, Course.called_following]
    constructor
    · intro u p hp
      obtain ⟨u', hp⟩ := Course.panicked_of_following hp
      exact hbroken' u' p hp
    · intro u tok'' w hw
      obtain ⟨u', hw⟩ := Course.returned_of_following hw
      exact hvalue' u' tok'' w hw
  | panicked t p =>
    rw [bind_panicked hend]
    exact ⟨fun _ _ _ => hB _ (hbroken t p hend), nofun⟩
  | never =>
    rw [bind_never hend]
    exact ⟨nofun, nofun⟩

/-- A call is made before it panics or returns. -/
theorem exits_call {e : ε} {r : Reply α} {P : List ε → Except Fault α → Prop}
    (hB : ∀ d p, r = .panics d p → B [e]) (hP : ∀ d result, r = .answers d result → P [e] result) :
    (call e r).Exits B P := by
  intro tok
  cases r with
  | answers d result =>
    refine ⟨nofun, fun t tok' v he => ?_⟩
    cases he
    exact hP d result rfl
  | panics d q =>
    exact ⟨fun _ _ _ => hB d q rfl, nofun⟩
  | hangs => exact ⟨nofun, nofun⟩

section
variable {p : ε → Prop} {P : α → Prop} {x : Timed ε α}

/-- What holds of each call, holds of those made by the time of either exit. -/
theorem Promises.exits (h : x.Promises p P) :
    x.Exits (fun es => ∀ e ∈ es, p e) fun es v => (∀ e ∈ es, p e) ∧ P v :=
  fun tok => ⟨fun _ _ _ => (h tok).1, fun t tok' v he => ⟨(h tok).1, (h tok).2 t tok' v he⟩⟩

/-- Giving an activity up adds no call. -/
theorem called_unlessCancelled_subset (x : Timed ε α) (tok : Token) :
    (x.unlessCancelled tok).called ⊆ (x tok).called := by
  have hdone : ∀ (tok' : Token) (t : Nat) (e : Ending (Option α)),
      (if tok'.firesBefore t then (x tok).cut (tok'.time?.getD 0) .fired none
        else ⟨(x tok).calls, e⟩ : Course ε (Option α)).called ⊆ (x tok).called := by
    intro tok' t e
    split
    · exact Course.called_cut_subset ..
    · exact List.Subset.refl _
  unfold Timed.unlessCancelled
  split
  · exact List.nil_subset _
  · dsimp only
    split
    · exact hdone _ _ _
    · exact hdone _ _ _
    · split
      · exact Course.called_cut_subset ..
      · exact List.Subset.refl _

theorem Promises.unlessCancelled (h : x.Promises p P) :
    x.unlessCancelled.Promises p fun _ => True :=
  fun tok => ⟨fun e he => (h tok).1 e (called_unlessCancelled_subset x tok he), fun _ _ _ _ => trivial⟩

end

end Checkup.Timed
