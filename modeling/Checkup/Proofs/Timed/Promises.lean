import Checkup.Proofs.Timed.Ensures

/-!
# What activities promise

`x.Promises p Q` is a contract for activities that need not come to an end: each call has the property
`p`, and if a value comes back it has the property `Q`. A panic and a hanging call keep it, so it holds of
a probe over any service. `x.Returns Q` is the contract that leaves the calls open.

Results:
* `Promises.bind`, `promises_call`, `promises_emit`, `Promises.mapCalls`, `Promises.shielded` and
  `Promises.measured`: one rule for each way to build an activity.
* `Ends.bind` and `ends_within`: activities that do come to an end.
-/
namespace Checkup

namespace Timed

variable {ε α β : Type} {p : ε → Prop} {P : α → Prop} {Q : β → Prop}

/-- Each call of the activity has a property, and so has the value if one comes back. -/
def Promises (x : Timed ε α) (p : ε → Prop) (Q : α → Prop) : Prop :=
  ∀ tok, (∀ e ∈ (x tok).called, p e) ∧ ∀ t tok' v, (x tok).ending = .returned t tok' v → Q v

/-- The value of the activity has a property if it comes back. -/
abbrev Returns (x : Timed ε α) (Q : α → Prop) : Prop := x.Promises (fun _ => True) Q

theorem returns_any (x : Timed ε α) : x.Returns fun _ => True :=
  fun _ => ⟨fun _ _ => trivial, fun _ _ _ _ => trivial⟩

theorem promises_pure {v : β} (h : Q v) : (Pure.pure v : Timed ε β).Promises p Q := by
  intro tok
  constructor
  · intro e he
    cases he
  · intro t tok' w hw
    cases hw
    exact h

theorem Promises.bind {x : Timed ε α} {f : α → Timed ε β} (hx : x.Promises p P)
    (hf : ∀ v, P v → (f v).Promises p Q) : (x >>= f).Promises p Q := by
  intro tok
  obtain ⟨hcalls, hvalue⟩ := hx tok
  cases hend : (x tok).ending with
  | returned t tok' v =>
    obtain ⟨hcalls', hvalue'⟩ := hf v (hvalue t tok' v hend) tok'
    rw [bind_returned hend]
    constructor
    · intro e he
      rw [Course.called_following] at he
      rcases List.mem_append.mp he with he | he
      · exact hcalls e he
      · exact hcalls' e he
    · intro u tok'' w hw
      obtain ⟨u', hw⟩ := Course.returned_of_following hw
      exact hvalue' u' tok'' w hw
  | panicked t q =>
    rw [bind_panicked hend]
    refine ⟨hcalls, fun u tok'' w hw => ?_⟩
    cases hw
  | never =>
    rw [bind_never hend]
    refine ⟨hcalls, fun u tok'' w hw => ?_⟩
    cases hw

theorem promises_emit {e : ε} (h : p e) : (emit e).Promises p fun _ => True := by
  intro tok
  refine ⟨fun e' he => ?_, fun _ _ _ _ => trivial⟩
  cases List.mem_singleton.mp he
  exact h

theorem promises_call {e : ε} {r : Reply α} (h : p e) : (call e r).Promises p fun _ => True := by
  intro tok
  refine ⟨fun e' he => ?_, fun _ _ _ _ => trivial⟩
  have : e' = e := by cases r <;> exact List.mem_singleton.mp he
  rw [this]
  exact h

theorem Promises.mapCalls {δ : Type} {f : ε → δ} {p : δ → Prop} {x : Timed ε α}
    (h : x.Promises (fun e => p (f e)) P) : (x.mapCalls f).Promises p P := by
  intro tok
  obtain ⟨hcalls, hvalue⟩ := h tok
  refine ⟨fun e he => ?_, hvalue⟩
  simp only [Timed.mapCalls, Course.called, List.map_map, List.mem_map] at he
  obtain ⟨call, hcall, rfl⟩ := he
  exact hcalls call.2 (List.mem_map_of_mem hcall)

theorem Promises.shielded {x : Timed ε α} (h : x.Promises p P) : x.shielded.Promises p P := by
  intro tok
  obtain ⟨hcalls, hvalue⟩ := h .never
  refine ⟨hcalls, fun t tok' v hv => ?_⟩
  unfold Timed.shielded at hv
  cases hend : (x .never).ending with
  | returned u tok'' w =>
    simp only [hend] at hv
    cases hv
    exact hvalue _ _ _ hend
  | panicked u q => simp only [hend] at hv; cases hv
  | never => simp only [hend] at hv; cases hv

theorem Promises.measured {x : Timed ε α} (h : x.Promises p P) :
    x.measured.Promises p fun v => P v.2 := by
  intro tok
  obtain ⟨hcalls, hvalue⟩ := h tok
  refine ⟨hcalls, fun t tok' v hv => ?_⟩
  unfold Timed.measured at hv
  cases hend : (x tok).ending with
  | returned u tok'' w =>
    simp only [hend] at hv
    cases hv
    exact hvalue _ _ _ hend
  | panicked u q => simp only [hend] at hv; cases hv
  | never => simp only [hend] at hv; cases hv

/-! ## Activities that end -/

/-- The activity comes to an end: it returns or panics. -/
def Ends (x : Timed ε α) : Prop := ∀ tok, (x tok).ending ≠ .never

theorem ends_pure (v : α) : Ends (Pure.pure v : Timed ε α) := nofun

theorem Ends.bind {x : Timed ε α} {f : α → Timed ε β} (hx : x.Ends) (hf : ∀ v, (f v).Ends) :
    (x >>= f).Ends := by
  intro tok h
  cases hend : (x tok).ending with
  | returned t tok' v =>
    rw [bind_returned hend, Course.following] at h
    cases hv : (f v tok').ending with
    | returned u tok'' w => rw [hv] at h; cases h
    | panicked u q => rw [hv] at h; cases h
    | never => exact hf v tok' hv
  | panicked t q => rw [bind_panicked hend] at h; cases h
  | never => exact hx tok hend

/-- A limit that the clock can show ends anything. -/
theorem ends_within (x : Timed ε α) {limit : Span} (h : fitsClock 0 limit = true) :
    (x.within limit).Ends := by
  intro tok
  unfold Timed.within
  simp only [h, Bool.not_true, Bool.false_eq_true, if_false]
  cases (x tok).ending with
  | returned t tok' v => dsimp only; split <;> exact nofun
  | panicked t q => dsimp only; split <;> exact nofun
  | never => exact nofun

theorem Ends.mapCalls {δ : Type} {x : Timed ε α} (h : x.Ends) (f : ε → δ) : (x.mapCalls f).Ends := h

end Timed
end Checkup
