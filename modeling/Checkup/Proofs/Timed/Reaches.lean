import Checkup.Proofs.Timed.Exits

/-!
# How far an activity gets

`x.Reaches B Q` is a contract for activities whose calls may panic and may not come back either. `B` holds
of what was called if the activity does not return, and `Q` of what was called and of the value if it does;
so something is said of every course. A part that does not return is the last one.

Results:
* `reaches_pure`, `Reaches.bind`, `reaches_call` and `Promises.reaches`: the rules.
* `Reaches.exits`: what is left of it where only panics are of interest.
* `Reaches.called`: what holds of the calls in any case.
-/
namespace Checkup.Timed

variable {ε α β : Type} {B : List ε → Prop} {P : List ε → α → Prop} {Q : List ε → β → Prop}

/-- What was called if the activity does not return, and what if it does. -/
def Reaches (x : Timed ε α) (B : List ε → Prop) (Q : List ε → α → Prop) : Prop :=
  ∀ tok, ((∀ t tok' v, (x tok).ending ≠ .returned t tok' v) → B (x tok).called) ∧
    ∀ t tok' v, (x tok).ending = .returned t tok' v → Q (x tok).called v

theorem Reaches.mono {B' : List ε → Prop} {P' : List ε → α → Prop} {x : Timed ε α} (h : x.Reaches B P)
    (hB : ∀ es, B es → B' es) (hP : ∀ es v, P es v → P' es v) : x.Reaches B' P' := by
  intro tok
  obtain ⟨hstuck, hvalue⟩ := h tok
  exact ⟨fun hno => hB _ (hstuck hno), fun t tok' v he => hP _ v (hvalue t tok' v he)⟩

theorem reaches_pure {v : α} (h : P [] v) : (Pure.pure v : Timed ε α).Reaches B P := by
  intro tok
  constructor
  · intro hno
    exact absurd rfl (hno 0 tok v)
  · intro t tok' w he
    cases he
    exact h

/-- Either the first part does not return, or its calls stand before those of the second. -/
theorem Reaches.bind {B' : List ε → Prop} {x : Timed ε α} {f : α → Timed ε β} (hx : x.Reaches B' P)
    (hB : ∀ es, B' es → B es)
    (hf : ∀ es v, P es v → (f v).Reaches (fun es' => B (es ++ es')) fun es' w => Q (es ++ es') w) :
    (x >>= f).Reaches B Q := by
  intro tok
  obtain ⟨hstuck, hvalue⟩ := hx tok
  cases hend : (x tok).ending with
  | returned t tok' v =>
    obtain ⟨hstuck', hvalue'⟩ := hf _ v (hvalue t tok' v hend) tok'
    rw [bind_returned hend, Course.called_following]
    constructor
    · intro hno
      refine hstuck' fun u tok'' w hw => hno (t + u) tok'' w ?_
      rw [Course.following, hw]
      rfl
    · intro u tok'' w hw
      obtain ⟨u', hw⟩ := Course.returned_of_following hw
      exact hvalue' u' tok'' w hw
  | panicked t p =>
    rw [bind_panicked hend]
    exact ⟨fun _ => hB _ (hstuck fun _ _ _ he => by rw [hend] at he; cases he),
      fun _ _ _ he => by cases he⟩
  | never =>
    rw [bind_never hend]
    exact ⟨fun _ => hB _ (hstuck fun _ _ _ he => by rw [hend] at he; cases he),
      fun _ _ _ he => by cases he⟩

/-- A call is made, whether it comes back or not. -/
theorem reaches_call {e : ε} {r : Reply α} {P : List ε → Except Fault α → Prop} (hB : B [e])
    (hP : ∀ result, P [e] result) : (call e r).Reaches B P := by
  intro tok
  have hcalled : (call e r tok).called = [e] := by cases r <;> rfl
  rw [hcalled]
  exact ⟨fun _ => hB, fun _ _ v _ => hP v⟩

section
variable {x : Timed ε α}

theorem Promises.reaches {p : ε → Prop} {P : α → Prop} (h : x.Promises p P) :
    x.Reaches (fun es => ∀ e ∈ es, p e) fun es v => (∀ e ∈ es, p e) ∧ P v :=
  fun tok => ⟨fun _ => (h tok).1, fun t tok' v he => ⟨(h tok).1, (h tok).2 t tok' v he⟩⟩

/-- A panic is one way not to return. -/
theorem Reaches.exits (h : x.Reaches B P) : x.Exits B P := by
  intro tok
  obtain ⟨hstuck, hvalue⟩ := h tok
  refine ⟨fun t p he => hstuck fun u tok' v he' => ?_, hvalue⟩
  rw [he] at he'
  cases he'

/-- What holds of the calls whether the activity returns or not. -/
theorem Reaches.called {C : List ε → Prop} (h : x.Reaches C fun es _ => C es) (tok : Token) :
    C (x tok).called := by
  obtain ⟨hstuck, hvalue⟩ := h tok
  cases hend : (x tok).ending with
  | returned t tok' v => exact hvalue t tok' v hend
  | panicked t p => exact hstuck fun _ _ _ he => by rw [hend] at he; cases he
  | never => exact hstuck fun _ _ _ he => by rw [hend] at he; cases he

end

end Checkup.Timed
