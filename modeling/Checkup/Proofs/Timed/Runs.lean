import Checkup.Proofs.Timed.Cancellation

/-!
# The token and the clock along a run

`x.Runs tok Q` says of an activity that it returns when it starts under a token, and that `Q` holds of its
calls, of the tick at which it ends, of the token as it is seen then, and of its value. Seen from a later
tick a token is what time has made of it (`Token.Sees`), which ties what an activity finds in its token to
the tick at which it looks.

Results:
* `Sees.trans`, `Sees.unfired` and `Sees.fired`: what a token that is seen tells of its time.
* `runs_pure`, `Runs.map`, `Runs.bind`, `runs_call` and `runs_isCancelled`: the rules of the contract.
* `Prompt.sees` and `Ensures.runs`: activities that heed their token keep to it.
-/
namespace Checkup

namespace Token

/-- A token as it is seen `t` ticks later: what is left of its time, or fired if it fires right then. -/
def Sees (tok : Token) (t : Nat) (tok' : Token) : Prop :=
  tok' = tok.after t ∨ tok' = .fired ∧ tok.time? = some t

variable {tok tok' tok'' : Token} {t u : Nat}

theorem sees_after : tok.Sees t (tok.after t) := .inl rfl

theorem sees_zero : tok.Sees 0 tok := by
  refine .inl ?_
  cases tok <;> rfl

theorem Sees.trans (h : tok.Sees t tok') (h' : tok'.Sees u tok'') : tok.Sees (t + u) tok'' := by
  obtain rfl | ⟨rfl, hfires⟩ := h
  · cases tok with
    | fired =>
      refine .inl ?_
      obtain rfl | ⟨rfl, -⟩ := h' <;> rfl
    | never =>
      obtain rfl | ⟨-, hfires⟩ := h'
      · exact .inl rfl
      · cases hfires
    | due c =>
      by_cases hc : c < t
      · have hfired : (due c).after t = fired := if_pos hc
        have hlater : (due c).after (t + u) = fired := if_pos (by omega)
        rw [hfired] at h'
        refine .inl (hlater ▸ ?_)
        obtain rfl | ⟨rfl, -⟩ := h' <;> rfl
      · rw [after_due (Nat.le_of_not_lt hc)] at h'
        obtain rfl | ⟨rfl, hfires⟩ := h'
        · refine .inl ?_
          simp only [after]
          split
          · rw [if_pos (by omega)]
          · rw [if_neg (by omega), Nat.sub_sub]
        · have hcu : c - t = u := Option.some.inj hfires
          exact .inr ⟨rfl, congrArg some (by omega)⟩
  · -- A token that has fired stays so, and if no more time passes it fires right then.
    have hfired : tok'' = .fired := by obtain rfl | ⟨rfl, -⟩ := h' <;> rfl
    cases u with
    | zero => exact .inr ⟨hfired, hfires⟩
    | succ u =>
      refine .inl (hfired.trans ?_)
      cases tok with
      | fired => rfl
      | never => cases hfires
      | due c =>
        have hct : c = t := Option.some.inj hfires
        exact (if_pos (by omega)).symm

/-- A token that is seen unfired has not fired before. -/
theorem Sees.unfired (h : tok.Sees t tok') (hne : tok' ≠ .fired) : tok.firesBefore t = false := by
  obtain rfl | ⟨rfl, -⟩ := h
  · cases tok with
    | fired => exact absurd rfl hne
    | never => rfl
    | due c =>
      refine firesBefore_due (Nat.le_of_not_lt fun hc => hne ?_)
      exact if_pos hc
  · exact absurd rfl hne

/-- A token that is seen fired has fired by then. -/
theorem Sees.fired (h : tok.Sees t .fired) : ∃ a, tok.time? = some a ∧ a ≤ t := by
  obtain h | ⟨-, hfires⟩ := h
  · cases tok with
    | fired => exact ⟨0, rfl, Nat.zero_le t⟩
    | never => cases h
    | due c =>
      refine ⟨c, rfl, Nat.le_of_not_lt fun hc => ?_⟩
      rw [after_due (Nat.le_of_lt hc)] at h
      cases h
  · exact ⟨t, hfires, Nat.le_refl t⟩

end Token

namespace Timed

variable {ε α β : Type} {x : Timed ε α} {f : α → Timed ε β} {tok : Token}
  {P : List (Nat × ε) → Nat → Token → α → Prop} {Q : List (Nat × ε) → Nat → Token → β → Prop}

/-- Under this token the activity returns, with these calls, at this tick, with the token as it is seen
there, and with this value. -/
def Runs (x : Timed ε α) (tok : Token) (Q : List (Nat × ε) → Nat → Token → α → Prop) : Prop :=
  ∃ calls t tok' v, x tok = ⟨calls, .returned t tok' v⟩ ∧ tok.Sees t tok' ∧ Q calls t tok' v

theorem Runs.mono {P' : List (Nat × ε) → Nat → Token → α → Prop} (h : x.Runs tok P)
    (hpq : ∀ calls t tok' v, P calls t tok' v → P' calls t tok' v) : x.Runs tok P' := by
  obtain ⟨calls, t, tok', v, hrun, hsees, hP⟩ := h
  exact ⟨calls, t, tok', v, hrun, hsees, hpq calls t tok' v hP⟩

/-- What a run comes to is the course of the activity. -/
theorem Runs.course (h : x.Runs tok P) : x.Runs tok fun calls t tok' v =>
    x tok = ⟨calls, .returned t tok' v⟩ ∧ P calls t tok' v := by
  obtain ⟨calls, t, tok', v, hrun, hsees, hP⟩ := h
  exact ⟨calls, t, tok', v, hrun, hsees, hrun, hP⟩

theorem runs_pure {v : β} (h : Q [] 0 tok v) : (Pure.pure v : Timed ε β).Runs tok Q :=
  ⟨[], 0, tok, v, rfl, Token.sees_zero, h⟩

theorem Runs.map (hx : x.Runs tok P) (g : α → β) :
    (x >>= fun v => Pure.pure (g v)).Runs tok fun calls t tok' w =>
      ∃ v, P calls t tok' v ∧ w = g v := by
  obtain ⟨calls, t, tok', v, hrun, hsees, hP⟩ := hx
  refine ⟨calls, t, tok', g v, ?_, hsees, v, hP, rfl⟩
  rw [bind_pure_apply, hrun]
  rfl

theorem Runs.bind (hx : x.Runs tok P)
    (hf : ∀ calls t tok' v, tok.Sees t tok' → P calls t tok' v →
      (f v).Runs tok' fun calls' u tok'' w => Q (calls ++ Course.laterCalls t calls') (t + u) tok'' w) :
    (x >>= f).Runs tok Q := by
  obtain ⟨calls, t, tok', v, hrun, hsees, hP⟩ := hx
  obtain ⟨calls', u, tok'', w, hrun', hsees', hQ⟩ := hf calls t tok' v hsees hP
  have hend : (x tok).ending = .returned t tok' v := by rw [hrun]
  refine ⟨calls ++ Course.laterCalls t calls', t + u, tok'', w, ?_, hsees.trans hsees', hQ⟩
  rw [bind_returned hend, hrun, hrun']
  rfl

theorem runs_call {e : ε} {d : Nat} {r : Except Fault α} :
    (call e (.answers d r)).Runs tok fun calls t _ v => calls = [(0, e)] ∧ t = d ∧ v = r :=
  ⟨[(0, e)], d, tok.after d, r, rfl, Token.sees_after, rfl, rfl, rfl⟩

theorem runs_isCancelled : (isCancelled : Timed ε Bool).Runs tok fun calls t tok' v =>
    calls = [] ∧ t = 0 ∧ tok' = tok ∧ v = (tok == .fired) :=
  ⟨[], 0, tok, tok == .fired, rfl, Token.sees_zero, rfl, rfl, rfl, rfl⟩

/-- An activity that heeds its token leaves it as it is seen at its end. -/
theorem Prompt.sees {cost : ε → Nat} {change : ε → Prop} {P : List ε → α → Prop} {t : Nat}
    {tok' : Token} {v : α} (h : x.Prompt cost change P) (hend : (x tok).ending = .returned t tok' v) :
    tok.Sees t tok' := by
  cases tok with
  | fired =>
    obtain ⟨u, w, hfired, -⟩ := h.fired
    rw [hfired] at hend
    cases hend
    exact .inl rfl
  | due a =>
    obtain ⟨u, w, calls, hu, hrun, -⟩ | ⟨u, w, after, hrun, -, hstopped, -⟩ := h.due a
    · rw [hrun _ (Token.firesBefore_due hu)] at hend
      cases hend
      exact .inl rfl
    · rw [hrun] at hend
      cases hend
      obtain hlt | heq := Nat.lt_or_eq_of_le hstopped.le
      · exact .inl (if_pos hlt).symm
      · exact .inr ⟨rfl, congrArg some heq⟩
  | never =>
    -- Without a token the activity ends as it does with one that is due at its end.
    obtain ⟨u, w, calls, -, hrun, -⟩ | ⟨u, w, after, -, hlate, -⟩ := h.due t
    · rw [hrun .never rfl] at hend
      cases hend
      exact .inl rfl
    · have hlt : t < t := hlate t (by rw [hend]; rfl)
      exact absurd hlt (Nat.lt_irrefl t)

theorem Ensures.runs {cost : ε → Nat} {change : ε → Prop} {P P' : List ε → α → Prop}
    (h : x.Ensures P) (hprompt : x.Prompt cost change P') :
    x.Runs tok fun calls _ _ v => P (calls.map Prod.snd) v := by
  obtain ⟨t, tok', v, hend, hP⟩ := h tok
  exact ⟨(x tok).calls, t, tok', v, by rw [← hend], hprompt.sees hend, hP⟩

end Timed
end Checkup
