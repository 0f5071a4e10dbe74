import Checkup.Proofs.Timed.Basic
import Checkup.Wait.Waiter

/-!
# One turn of the wait loop

All that a turn of the loop can do, said once, for the laws of whole waits.

Results:
* `rest_cases`: what comes of the part of a turn behind a fetch that came back in time; what a fetch comes
  to is said by `poll_tells`, beside the loop.
* `turn_stops`: the ways in which a turn ends the wait, as the inductive `Stop`. Neither of the checks
  of the token and the deadline within a turn is among them: a fetch that came back in time leaves the
  token unfired and the deadline ahead.
* `turn_satisfied` and `turn_of_answer`: when a turn ends the wait with success, and when it goes on.
  The converse of the second is `turn_goesOn`, beside the loop.
* `turn_of_vain`: a fetch that came back in vain leaves the turn to the pause behind it.
* `pollFrom_stopped`, `pollFrom_stops` and `pollFrom_goesOn`: the loop in terms of its turns.
-/
namespace Checkup.Wait

/-- The clock can show the end of each pause that begins before the deadline. -/
def Fits (w : Wait) : Prop :=
  ∀ n t, t < w.limit → ∃ d, w.delay n = .ok d ∧ fitsClock t d.span = true

/-- The state behind the start of a fetch. -/
def State.begun (s : State) : State := { s with polls := s.polls + 1 }

/-- How a turn from a state can end the wait. -/
inductive Stop (w : Wait) (s : State) : Ending Result → Prop where
  | cancelled {c : Nat} : w.token.time? = some c → s.now ≤ c → c ≤ w.limit →
      Stop w s (cancelled c s.begun)
  | timedOut : (∀ c, w.token.time? = some c → w.limit ≤ c) →
      Stop w s
        (w.timedOut w.limit { s.begun with lastError := some (s.lastError.getD unfinishedFetch) })
  | satisfied {d : Nat} : w.observe s.polls = .answers d (.ok true) → s.now + d < w.limit →
      (∀ c, w.token.time? = some c → s.now + d ≤ c) →
      Stop w s (w.finish (s.now + d) (.ok ⟨s.begun.counted, Span.ofMillis (s.now + d)⟩))
  | panicked {d : Nat} {p : Panic} : w.observe s.polls = .panics d p → s.now + d < w.limit →
      Stop w s (.panicked (s.now + d) p)

theorem checkStop_of_lt {w : Wait} {s : State} (hf : w.token.firesBefore s.now = false)
    (hl : s.now < w.limit) : w.checkStop s = none := by
  simp [checkStop, hf, hl]

theorem checkStop_eq_some {w : Wait} {s : State} {e : Ending Result} (h : w.checkStop s = some e) :
    (w.token.firesBefore s.now = true ∧ e = cancelled s.now s) ∨
      (w.limit ≤ s.now ∧ e = w.timedOut s.now s) := by
  unfold checkStop at h
  split at h
  · cases h; exact .inl ⟨‹_›, rfl⟩
  · split at h
    · cases h; exact .inr ⟨‹_›, rfl⟩
    · cases h

/-- A wait that the token ends is ended at the tick at which the token fires. -/
theorem stop_of_firesBefore {w : Wait} {s s' : State} {t u : Nat}
    (hs : w.token.firesBefore s.now = false) (ht : t ≤ w.limit) (hf : w.token.firesBefore t = true)
    (hp : s'.polls = s.polls + 1) : Stop w s (cancelled (w.token.time?.getD u) s') := by
  obtain ⟨c, hc, hct⟩ := Token.firesBefore_eq_true hf
  have h := Stop.cancelled (s := s) hc (Token.firesBefore_eq_false hs c hc) (Nat.le_trans hct ht)
  simpa [hc, cancelled, State.counted, State.begun, hp] using h

theorem poll_panicked {w : Wait} {now n t : Nat} {p : Panic} (h : w.poll now n = .panicked t p) :
    ∃ d, w.observe n = .panics d p ∧ t = now + d ∧ t < w.limit := by
  have htells := w.poll_tells now n
  rwa [h] at htells

theorem poll_cancelled {w : Wait} {now n : Nat} (h : w.poll now n = .cancelled) :
    ∃ t, t ≤ w.limit ∧ w.token.firesBefore t = true := by
  have htells := w.poll_tells now n
  rwa [h] at htells

theorem poll_timedOut {w : Wait} {now n : Nat} (h : w.poll now n = .timedOut) :
    w.token.firesBefore w.limit = false ∧
      ∀ d, (w.observe n).time? = some d → w.limit ≤ now + d := by
  have htells := w.poll_tells now n
  rwa [h] at htells

/-- The part of a turn behind a fetch that came back in time: its pause cannot begin, or the token fires
during it, or the loop goes on when it is over. -/
theorem rest_cases {w : Wait} {n : Nat} {s : State} (hf : w.token.firesBefore s.now = false)
    (hl : s.now < w.limit) :
    (∃ p, w.pause s.now n = .error p ∧ w.rest n s = .stops (.panicked s.now p)) ∨
    (∃ u, w.pause s.now n = .ok u ∧ w.token.firesBefore u = true ∧
      w.rest n s = .stops (cancelled (w.token.time?.getD s.now) s)) ∨
    (∃ u, w.pause s.now n = .ok u ∧ w.token.firesBefore u = false ∧
      w.rest n s = .goesOn { s with now := u }) := by
  unfold rest
  rw [checkStop_of_lt hf hl]
  cases hp : w.pause s.now n with
  | error p => exact .inl ⟨p, rfl, rfl⟩
  | ok u =>
    cases hu : w.token.firesBefore u with
    | true => exact .inr (.inl ⟨u, rfl, hu, if_pos hu⟩)
    | false => exact .inr (.inr ⟨u, rfl, hu, if_neg (ne_true_of_eq_false hu)⟩)

/-- The part of a turn behind a fetch ends the wait only when the token fires during the pause. -/
theorem rest_stops {w : Wait} (hw : w.Fits) {n : Nat} {s : State} {e : Ending Result}
    (hf : w.token.firesBefore s.now = false) (hl : s.now < w.limit) (h : w.rest n s = .stops e) :
    ∃ u, u ≤ w.limit ∧ w.token.firesBefore u = true ∧ e = cancelled (w.token.time?.getD s.now) s := by
  obtain ⟨p, hp, hclock⟩ := hw n s.now hl
  rcases rest_cases (n := n) hf hl with ⟨q, hq, -⟩ | ⟨u, hu, hfu, hrest⟩ | ⟨u, -, -, hrest⟩
  · simp [pause, hp, hclock] at hq
  · obtain ⟨d, -, rfl⟩ := pause_ok hu
    cases hrest.symm.trans h
    exact ⟨_, Nat.min_le_right .., hfu, rfl⟩
  · cases hrest.symm.trans h

theorem rest_of_ok {w : Wait} {n u : Nat} {s : State} (hl : s.now < w.limit)
    (hf : w.token.firesBefore s.now = false) (hp : w.pause s.now n = .ok u)
    (hu : w.token.firesBefore u = false) : w.rest n s = .goesOn { s with now := u } := by
  simp only [rest, checkStop_of_lt hf hl, hp, hu, Bool.false_eq_true, if_false]

/-- What a turn that ends the wait has come to. -/
theorem turn_stops {w : Wait} (hw : w.Fits) {s : State} {e : Ending Result}
    (hs : w.checkStop s = none) (h : w.turn s = .stops e) : Stop w s e := by
  have hf := (checkStop_eq_none hs).1
  unfold turn at h
  split at h
  · rename_i hp
    obtain ⟨t, ht, htok⟩ := poll_cancelled hp
    cases h; exact stop_of_firesBefore hf ht htok rfl
  · rename_i hp
    cases h; exact .timedOut (Token.firesBefore_eq_false (poll_timedOut hp).1)
  · rename_i t p hp
    obtain ⟨d, hd, rfl, hl⟩ := poll_panicked hp
    cases h; exact .panicked hd hl
  · rename_i t hp
    obtain ⟨d, hd, rfl, hl, htok⟩ := poll_answered hp
    cases h; exact .satisfied hd hl (Token.firesBefore_eq_false htok)
  · rename_i t r hr hp
    obtain ⟨d, hd, rfl, hl, htok⟩ := poll_answered hp
    obtain ⟨u, hu, hfu, rfl⟩ := rest_stops hw (by exact htok) (by exact hl) h
    exact stop_of_firesBefore hf hu hfu rfl

theorem poll_of_answer {w : Wait} {now n d : Nat} {r : Except Fault Bool}
    (ho : w.observe n = .answers d r) (hl : now + d < w.limit)
    (hf : w.token.firesBefore (now + d) = false) : w.poll now n = .answered (now + d) r := by
  simp [poll, ho, Nat.min_eq_left (Nat.le_of_lt hl), hf, hl]

/-- A fetch that finds the condition met in time ends the wait with success. -/
theorem turn_satisfied {w : Wait} {s : State} {d : Nat}
    (ho : w.observe s.polls = .answers d (.ok true)) (hl : s.now + d < w.limit)
    (hf : w.token.firesBefore (s.now + d) = false) :
    w.turn s =
      .stops (w.finish (s.now + d) (.ok ⟨s.begun.counted, Span.ofMillis (s.now + d)⟩)) := by
  simp [turn, poll_of_answer ho hl hf, State.begun]

/-- A fetch that came back in vain leaves the turn to the pause behind it. -/
theorem turn_of_vain {w : Wait} {s : State} {t : Nat} {x : Except Fault Bool}
    (hp : w.poll s.now s.polls = .answered t x) (hx : x ≠ .ok true) :
    w.turn s = w.rest s.polls ⟨t, s.polls + 1, lastErrorOf x s.lastError⟩ := by
  unfold turn
  rw [hp]
  rcases x with e | (_ | _)
  · rfl
  · rfl
  · exact absurd rfl hx

/-- The wait goes on when a fetch came back without what was waited for and the pause behind it ends
before the deadline with the token unfired. -/
theorem turn_of_answer {w : Wait} (hw : w.Fits) {s : State} {d : Nat} {r : Except Fault Bool}
    {p : Delay} (ho : w.observe s.polls = .answers d r) (hr : r ≠ .ok true)
    (hp : w.delay s.polls = .ok p) (hl : s.now + d + p.ticks < w.limit)
    (hf : w.token.firesBefore (s.now + d + p.ticks) = false) :
    w.turn s = .goesOn ⟨s.now + d + p.ticks, s.polls + 1, lastErrorOf r s.lastError⟩ := by
  have hf' : w.token.firesBefore (s.now + d) = false := Token.firesBefore_mono (by omega) hf
  obtain ⟨p', hp', hclock⟩ := hw s.polls (s.now + d) (by omega)
  rw [hp] at hp'; cases hp'
  have hc : w.checkStop ⟨s.now + d, s.polls + 1, lastErrorOf r s.lastError⟩ = none :=
    checkStop_of_lt hf' (by simp only; omega)
  simp [turn, poll_of_answer ho (by omega) hf', rest, hc, pause, hp, hclock,
    Nat.min_eq_left (Nat.le_of_lt hl), hf]

theorem turn_polls {w : Wait} {s s' : State} (h : w.turn s = .goesOn s') :
    s'.polls = s.polls + 1 := by
  obtain ⟨-, -, -, -, -, -, -, -, rfl⟩ := turn_goesOn h
  rfl

/-! ## The loop -/

theorem pollFrom_stopped {w : Wait} {s : State} {e : Ending Result} (h : w.checkStop s = some e) :
    w.pollFrom s = ⟨[], e⟩ := by
  rw [pollFrom]; split
  · simp_all
  · simp_all

theorem pollFrom_stops {w : Wait} {s : State} {e : Ending Result} (hs : w.checkStop s = none)
    (h : w.turn s = .stops e) : w.pollFrom s = ⟨[(s.now, w.fetch)], e⟩ := by
  rw [pollFrom]; split
  · simp_all
  · split <;> simp_all

theorem pollFrom_goesOn {w : Wait} {s s' : State} (hs : w.checkStop s = none)
    (h : w.turn s = .goesOn s') :
    w.pollFrom s = ⟨(s.now, w.fetch) :: (w.pollFrom s').calls, (w.pollFrom s').ending⟩ := by
  rw [pollFrom]; split
  · simp_all
  · split <;> simp_all

end Checkup.Wait
