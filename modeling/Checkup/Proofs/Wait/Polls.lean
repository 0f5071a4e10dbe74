import Checkup.Proofs.Wait.Turn

/-!
# The polls of a wait

Which fetches the loop makes and when, how it counts them, and after which of them it is satisfied.

Everything follows from one fact about the loop, `pollFrom_suffix`: what comes from the `k`-th fetch on
is the whole loop again, begun at a later state. Each law of the calls is then a look at one or two turns
of that loop.

Results:
* `pollFrom_next` and `pollFrom_paced`: the fetch after one that came back in vain starts exactly one
  delay later, and no fetch starts otherwise.
* `pollFrom_ok_of_met` and `pollFrom_met_of_ok`: the wait is satisfied exactly by a fetch that meets the
  condition in time.
* `pollFrom_counts`: the result tells the number of fetches.
-/
namespace Checkup.Wait

theorem pollFrom_first {w : Wait} {s : State} (hs : w.checkStop s = none) :
    (w.pollFrom s).calls[0]? = some (s.now, w.fetch) := by
  cases ht : w.turn s with
  | stops e => rw [pollFrom_stops hs ht]; rfl
  | goesOn s' => rw [pollFrom_goesOn hs ht]; rfl

theorem pollFrom_head {w : Wait} {s : State} {call : Nat × Fetch}
    (h : (w.pollFrom s).calls[0]? = some call) :
    call = (s.now, w.fetch) ∧ w.checkStop s = none := by
  cases hs : w.checkStop s with
  | some e => simp [pollFrom_stopped hs] at h
  | none => rw [pollFrom_first hs] at h; cases h; exact ⟨rfl, rfl⟩

/-- From the `k`-th fetch on, a loop is the same loop from a later state. -/
theorem pollFrom_suffix (w : Wait) (s : State) (k : Nat) {call : Nat × Fetch}
    (h : (w.pollFrom s).calls[k]? = some call) :
    ∃ s', s'.polls = s.polls + k ∧ call = (s'.now, w.fetch) ∧ w.checkStop s' = none ∧
      (w.pollFrom s).calls.drop k = (w.pollFrom s').calls ∧
      (w.pollFrom s).ending = (w.pollFrom s').ending := by
  induction k generalizing s with
  | zero =>
    obtain ⟨hcall, hs⟩ := pollFrom_head h
    exact ⟨s, rfl, hcall, hs, rfl, rfl⟩
  | succ k ih =>
    cases hs : w.checkStop s with
    | some e => simp [pollFrom_stopped hs] at h
    | none => cases ht : w.turn s with
      | stops e => simp [pollFrom_stops hs ht] at h
      | goesOn s₁ =>
        rw [pollFrom_goesOn hs ht] at h ⊢
        obtain ⟨s', hp, hcall, hs', hdrop, hend⟩ := ih s₁ h
        exact ⟨s', by rw [hp, turn_polls ht]; omega, hcall, hs', hdrop, hend⟩

theorem mem_pollFrom {w : Wait} {s : State} {k t : Nat} {f : Fetch}
    (h : (w.pollFrom s).calls[k]? = some (t, f)) :
    f = w.fetch ∧ t < w.limit ∧ w.token.firesBefore t = false := by
  obtain ⟨s', -, hcall, hs, -, -⟩ := pollFrom_suffix w s k h
  cases hcall
  exact ⟨rfl, (checkStop_eq_none hs).2, (checkStop_eq_none hs).1⟩

/-- The call behind the `k`-th is the second of the loop that starts with the `k`-th. -/
theorem getElem?_succ_of_drop {α : Type} {l m : List α} {k : Nat} (h : l.drop k = m) :
    l[k + 1]? = m[1]? := by
  rw [← h, List.getElem?_drop]

/-- A fetch starts one delay after the one before it has come back, which was in vain. -/
theorem pollFrom_paced {w : Wait} {s : State} {k u : Nat} {f : Fetch}
    (h : (w.pollFrom s).calls[k + 1]? = some (u, f)) :
    ∃ t d r p, (w.pollFrom s).calls[k]? = some (t, w.fetch) ∧
      w.observe (s.polls + k) = .answers d r ∧ r ≠ .ok true ∧ w.delay (s.polls + k) = .ok p ∧
      u = t + d + p.ticks := by
  have hlt := (List.getElem?_eq_some_iff.mp h).1
  have hk := List.getElem?_eq_getElem (show k < (w.pollFrom s).calls.length by omega)
  obtain ⟨s', hp, hcall, hs, hdrop, -⟩ := pollFrom_suffix w s k hk
  rw [hcall] at hk
  rw [getElem?_succ_of_drop hdrop] at h
  cases ht : w.turn s' with
  | stops e => simp [pollFrom_stops hs ht] at h
  | goesOn s₁ =>
    rw [pollFrom_goesOn hs ht] at h
    obtain ⟨hcall, hs₁⟩ := pollFrom_head h
    have hl := (checkStop_eq_none hs₁).2
    obtain ⟨d, r, p, ho, hr, -, hd, -, rfl⟩ := turn_goesOn ht
    cases hcall
    refine ⟨s'.now, d, r, p, hk, hp ▸ ho, hr, hp ▸ hd, ?_⟩
    simp only at hl ⊢; omega

/-- The fetch after one that came back in vain starts one delay later, unless the deadline or the token
comes first. -/
theorem pollFrom_next {w : Wait} (hw : w.Fits) {s : State} {k t d : Nat} {f : Fetch}
    {r : Except Fault Bool} {p : Delay} (h : (w.pollFrom s).calls[k]? = some (t, f))
    (ho : w.observe (s.polls + k) = .answers d r) (hr : r ≠ .ok true)
    (hd : w.delay (s.polls + k) = .ok p) (hl : t + d + p.ticks < w.limit)
    (hf : w.token.firesBefore (t + d + p.ticks) = false) :
    (w.pollFrom s).calls[k + 1]? = some (t + d + p.ticks, w.fetch) := by
  obtain ⟨s', hp, hcall, hs, hdrop, -⟩ := pollFrom_suffix w s k h
  cases hcall
  rw [← hp] at ho hd
  have ht := turn_of_answer hw ho hr hd hl hf
  have hs₁ : w.checkStop ⟨s'.now + d + p.ticks, s'.polls + 1, lastErrorOf r s'.lastError⟩ = none :=
    checkStop_of_lt hf hl
  rw [getElem?_succ_of_drop hdrop, pollFrom_goesOn hs ht, List.getElem?_cons_succ, pollFrom_first hs₁]

/-- The result of a wait tells that `n` fetches were begun. -/
def Counts (n : Nat) : Result → Prop
  | .ok report => report.polls = UInt32.ofNat n
  | .error (.deadlineExceeded _ polls _) => polls = UInt32.ofNat n
  | .error (.cancelled polls) => polls = UInt32.ofNat n
  | .error _ => False

theorem pollFrom_counts {w : Wait} (hw : w.Fits) (s : State) {t : Nat} {tok : Token} {r : Result}
    (h : (w.pollFrom s).ending = .returned t tok r) :
    Counts (s.polls + (w.pollFrom s).calls.length) r := by
  fun_induction pollFrom w s with
  | case1 s e hs =>
    rcases checkStop_eq_some hs with ⟨-, rfl⟩ | ⟨-, rfl⟩
    · cases h; rfl
    · cases h; rfl
  | case2 s hs e ht =>
    simp only at h
    cases turn_stops hw hs ht <;> cases h <;> rfl
  | case3 s hs s' ht later ih =>
    have hcounts := ih h
    rw [turn_polls ht, Nat.add_right_comm] at hcounts
    exact hcounts

/-- A fetch that comes back before the deadline, and before the token fires, with the condition met
satisfies the wait, and is the last. -/
theorem pollFrom_ok_of_met {w : Wait} {s : State} {k t d : Nat} {f : Fetch}
    (h : (w.pollFrom s).calls[k]? = some (t, f)) (ho : w.observe (s.polls + k) = .answers d (.ok true))
    (hl : t + d < w.limit) (hf : w.token.firesBefore (t + d) = false) :
    (∃ tok report, (w.pollFrom s).ending = .returned (t + d) tok (.ok report)) ∧
      (w.pollFrom s).calls.length = k + 1 := by
  obtain ⟨s', hp, hcall, hs, hdrop, hend⟩ := pollFrom_suffix w s k h
  cases hcall
  rw [← hp] at ho
  have hrun := pollFrom_stops hs (turn_satisfied ho hl hf)
  have hlt := (List.getElem?_eq_some_iff.mp h).1
  have hlen := congrArg List.length hdrop
  rw [hrun, List.length_drop, List.length_singleton] at hlen
  exact ⟨⟨_, _, by rw [hend, hrun]; rfl⟩, by omega⟩

/-- A wait that is satisfied was so by its last fetch. -/
theorem pollFrom_met_of_ok {w : Wait} (hw : w.Fits) (s : State) {e : Nat} {tok : Token}
    {report : WaitReport} (h : (w.pollFrom s).ending = .returned e tok (.ok report)) :
    ∃ k t d, (w.pollFrom s).calls.length = k + 1 ∧ (w.pollFrom s).calls[k]? = some (t, w.fetch) ∧
      w.observe (s.polls + k) = .answers d (.ok true) ∧ e = t + d ∧ e < w.limit ∧
      ∀ c, w.token.time? = some c → e ≤ c := by
  fun_induction pollFrom w s with
  | case1 s e' hs =>
    rcases checkStop_eq_some hs with ⟨-, rfl⟩ | ⟨-, rfl⟩
    · cases h
    · cases h
  | case2 s hs e' ht =>
    simp only at h
    cases turn_stops hw hs ht with
    | cancelled => cases h
    | timedOut => cases h
    | panicked => cases h
    | @satisfied d ho hl hc => cases h; exact ⟨0, s.now, d, rfl, rfl, ho, rfl, hl, hc⟩
  | case3 s hs s' ht later ih =>
    obtain ⟨k, t, d, hlen, hk, ho, he⟩ := ih h
    rw [turn_polls ht, Nat.add_right_comm] at ho
    exact ⟨k + 1, t, d, congrArg (· + 1) hlen, hk, ho, he⟩

end Checkup.Wait
