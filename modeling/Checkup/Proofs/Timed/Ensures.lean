import Checkup.Proofs.Timed.Sequencing

/-!
# Contracts of activities

`x.Ensures Q` says of an activity that it returns whatever becomes of its token, and that `Q` holds of
what it has called by then and of its value. There is one rule for each way to build an activity; the one
for `bind` puts the calls of the second part behind those of the first.

Results:
* `Ensures.mono`: the rule of consequence.
* `ensures_pure`, `Ensures.bind`, `ensures_call`, `ensures_sleep`, `ensures_isCancelled` and
  `Ensures.mapCalls`: the rules.
* `Only.bind` and `Only.unlessCancelled`: the rules for activities that make calls of one sort only.
-/
namespace Checkup

namespace Course

variable {ε α β : Type}

theorem called_following (calls : List (Nat × ε)) (t : Nat) (c : Course ε α) :
    (following calls t c).called = calls.map Prod.snd ++ c.called := by
  simp [following, called, laterCalls, Function.comp_def]

/-- A course that returns behind other calls returns by itself, with the same token and value. -/
theorem returned_of_following {calls : List (Nat × ε)} {t u : Nat} {c : Course ε α} {tok : Token} {v : α}
    (h : (following calls t c).ending = .returned u tok v) : ∃ u', c.ending = .returned u' tok v := by
  obtain ⟨own, ending⟩ := c
  cases ending with
  | returned u' tok' w => cases h; exact ⟨u', rfl⟩
  | panicked u' p => cases h
  | never => cases h

/-- A course that panics behind other calls panics by itself. -/
theorem panicked_of_following {calls : List (Nat × ε)} {t u : Nat} {c : Course ε α} {p : Panic}
    (h : (following calls t c).ending = .panicked u p) : ∃ u', c.ending = .panicked u' p := by
  obtain ⟨own, ending⟩ := c
  cases ending with
  | returned u' tok' w => cases h
  | panicked u' q => cases h; exact ⟨u', rfl⟩
  | never => cases h

/-- What is called by a tick is called at all. -/
theorem called_cut_subset (t : Nat) (tok : Token) (v : β) (c : Course ε α) :
    (c.cut t tok v).called ⊆ c.called := by
  intro e he
  simp only [called, cut, callsUntil, List.mem_map, List.mem_filter] at he ⊢
  obtain ⟨call, ⟨hcall, -⟩, rfl⟩ := he
  exact ⟨call, hcall, rfl⟩

end Course

namespace Timed

variable {ε α β : Type}

/-- The activity always returns, with these calls and this value. -/
def Ensures (x : Timed ε α) (Q : List ε → α → Prop) : Prop :=
  ∀ tok, ∃ t tok' v, (x tok).ending = .returned t tok' v ∧ Q (x tok).called v

theorem Ensures.mono {x : Timed ε α} {P Q : List ε → α → Prop} (h : x.Ensures P)
    (hpq : ∀ es v, P es v → Q es v) : x.Ensures Q := by
  intro tok
  obtain ⟨t, tok', v, he, hv⟩ := h tok
  exact ⟨t, tok', v, he, hpq _ _ hv⟩

theorem ensures_pure {v : α} {Q : List ε → α → Prop} (h : Q [] v) :
    (Pure.pure v : Timed ε α).Ensures Q :=
  fun tok => ⟨0, tok, v, rfl, h⟩

theorem Ensures.bind {x : Timed ε α} {f : α → Timed ε β} {P : List ε → α → Prop}
    {Q : List ε → β → Prop} (hx : x.Ensures P)
    (hf : ∀ es v, P es v → (f v).Ensures fun es' w => Q (es ++ es') w) : (x >>= f).Ensures Q := by
  intro tok
  obtain ⟨t, tok', v, he, hv⟩ := hx tok
  obtain ⟨t', tok'', w, he', hw⟩ := hf _ _ hv tok'
  rw [bind_returned he]
  refine ⟨t + t', tok'', w, ?_, ?_⟩
  · rw [Course.following, he']; rfl
  · rw [Course.called_following]; exact hw

theorem ensures_call {e : ε} {d : Nat} {r : Except Fault α} :
    (call e (.answers d r)).Ensures fun es v => es = [e] ∧ v = r :=
  fun tok => ⟨d, tok.after d, r, rfl, rfl, rfl⟩

theorem ensures_sleep {n : Nat} : (sleep n : Timed ε Unit).Ensures fun es _ => es = [] :=
  fun tok => ⟨n, tok.after n, (), rfl, rfl⟩

theorem ensures_isCancelled : (isCancelled : Timed ε Bool).Ensures fun es _ => es = [] :=
  fun tok => ⟨0, tok, tok == .fired, rfl, rfl⟩

theorem Ensures.mapCalls {δ : Type} {f : ε → δ} {x : Timed ε α} {P : List ε → α → Prop}
    (h : x.Ensures P) : (x.mapCalls f).Ensures fun es v => ∃ es', es = es'.map f ∧ P es' v := by
  intro tok
  obtain ⟨t, tok', v, he, hv⟩ := h tok
  exact ⟨t, tok', v, he, (x tok).called,
    by simp [Timed.mapCalls, Course.called, Function.comp_def], hv⟩

/-! ## Activities that make calls of one sort only -/

/-- The activity always returns, and makes only calls with a property. -/
def Only (p : ε → Prop) (x : Timed ε α) : Prop := x.Ensures fun es _ => ∀ e ∈ es, p e

variable {p : ε → Prop}

theorem only_pure (v : α) : Only p (Pure.pure v : Timed ε α) :=
  ensures_pure fun _ he => nomatch he

theorem Only.bind {x : Timed ε α} {f : α → Timed ε β} (hx : Only p x) (hf : ∀ v, Only p (f v)) :
    Only p (x >>= f) :=
  Ensures.bind hx fun _ v hes => (hf v).mono fun _ _ hes' _ he =>
    (List.mem_append.mp he).elim (hes _) (hes' _)

theorem only_sleep (n : Nat) : Only p (sleep n : Timed ε Unit) :=
  ensures_sleep.mono fun _ _ h _ he => by rw [h] at he; cases he

theorem only_call {e : ε} {d : Nat} {r : Except Fault α} (he : p e) :
    Only p (call e (.answers d r)) :=
  ensures_call.mono fun _ _ h _ he' => by rw [h.1] at he'; cases List.mem_singleton.mp he'; exact he

/-- An activity that may be given up makes some of its calls at most. -/
theorem Only.unlessCancelled {x : Timed ε α} (h : Only p x) : Only p x.unlessCancelled := by
  intro tok
  obtain ⟨t, tok', v, he, hcalls⟩ := h tok
  by_cases hfired : tok = .fired
  · subst hfired
    exact ⟨0, .fired, none, rfl, fun e he => nomatch he⟩
  · cases hf : tok.firesBefore t with
    | false =>
      have hrun : x.unlessCancelled tok = ⟨(x tok).calls, .returned t tok' (some v)⟩ := by
        cases tok <;> simp_all [Timed.unlessCancelled]
      rw [hrun]
      exact ⟨t, tok', some v, rfl, hcalls⟩
    | true =>
      have hrun : x.unlessCancelled tok = (x tok).cut (tok.time?.getD 0) .fired none := by
        cases tok <;> simp_all [Timed.unlessCancelled]
      rw [hrun]
      exact ⟨_, _, _, rfl, fun e he => hcalls e (Course.called_cut_subset _ _ _ _ he)⟩

end Timed
end Checkup
