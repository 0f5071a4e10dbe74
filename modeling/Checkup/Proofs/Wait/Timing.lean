import Checkup.Proofs.Timed.Ensures
import Checkup.Proofs.Wait.Spec

/-!
# When a wait ends

The deadline and the delays are given in nanoseconds and the timers end at whole ticks, so the wait is
measured against `limit`, its deadline rounded up.

**Assumptions.** The clock can show the deadline and the end of every pause that begins before it
(`WaitSpec.Representable`); no call to the source panics (`StateSource.Calm`). A fetch may take any time
or hang, and answer anything.

Results:
* `turn_timely` and `pollFrom_timely`: whatever turn ends the wait, it ends at the tick that its result
  stands for.
* `length_pollFrom`: each fetch starts at a tick of its own.
* `waitOn_ensures`: a wait returns, also under a spec that makes no sense.
* `waitOn_ends_in_time`: a wait always ends, by its deadline; with success before it, with an exceeded
  deadline exactly at it, and with a cancellation exactly when the token fires. It makes at most as many
  fetches as there are ticks up to the deadline.
-/
namespace Checkup

structure StateSource.Calm (source : StateSource) : Prop where
  readyReplicas : ∀ name n d p, source.readyReplicas name n ≠ .panics d p
  podState : ∀ name n d p, source.podState name n ≠ .panics d p

theorem Reply.map_eq_panics {α β : Type} {f : α → β} {r : Reply α} {d : Nat} {p : Panic}
    (h : r.map f = .panics d p) : r = .panics d p := by
  cases r with
  | answers => cases h
  | panics => simpa [Reply.map] using h
  | hangs => cases h

theorem Condition.observe_calm {source : StateSource} (h : source.Calm) (c : Condition) (n d : Nat)
    (p : Panic) : c.observe source n ≠ .panics d p := by
  cases c with
  | readyReplicas name r => exact fun e => h.readyReplicas name n d p (Reply.map_eq_panics e)
  | podPhase name ph => exact fun e => h.podState name n d p (Reply.map_eq_panics e)

namespace Wait

/-- The result of a wait that ends at tick `t` is one that stands for this tick: success before the
deadline, an exceeded deadline at it, and a cancellation when the token fires. -/
def Stands (w : Wait) (t : Nat) : Result → Prop
  | .ok report => t < w.limit ∧ report.elapsed = Span.ofMillis t
  | .error (.deadlineExceeded d _ _) => t = w.limit ∧ d = w.deadline
  | .error (.cancelled _) => w.token.time? = some t
  | .error _ => False

/-- A wait ends by its deadline, and at the tick that its result stands for. -/
def Timely (w : Wait) (e : Ending Result) : Prop :=
  ∃ t tok r, e = .returned t tok r ∧ t ≤ w.limit ∧ w.Stands t r

/-- The states in which the loop stands before a fetch: not beyond the deadline, and beyond the firing
of the token only at the very tick of it. -/
def Inv (w : Wait) (s : State) : Prop :=
  s.now ≤ w.limit ∧ (w.token.firesBefore s.now = true → w.token.time? = some s.now)

theorem inv_start (w : Wait) : w.Inv ⟨0, 0, none⟩ := by
  refine ⟨Nat.zero_le _, fun hf => ?_⟩
  obtain ⟨a, ha, h0⟩ := Token.firesBefore_eq_true hf
  rw [ha, Nat.le_zero.mp h0]

theorem inv_goesOn {w : Wait} {s s' : State} (hs : w.checkStop s = none)
    (h : w.turn s = .goesOn s') : w.Inv s' := by
  refine ⟨(turn_advances (checkStop_eq_none hs).2 h).2, ?_⟩
  obtain ⟨-, -, -, -, -, -, -, hf, -⟩ := turn_goesOn h
  intro hf'; rw [hf] at hf'; cases hf'

theorem checkStop_timely {w : Wait} {s : State} {e : Ending Result} (hi : w.Inv s)
    (h : w.checkStop s = some e) : w.Timely e := by
  rcases checkStop_eq_some h with ⟨hf, rfl⟩ | ⟨hl, rfl⟩
  · exact ⟨_, _, _, rfl, hi.1, hi.2 hf⟩
  · exact ⟨_, _, _, rfl, hi.1, Nat.le_antisymm hi.1 hl, rfl⟩

theorem turn_timely {w : Wait} (hw : w.Fits) (hcalm : ∀ n d p, w.observe n ≠ .panics d p) {s : State}
    {e : Ending Result} (hs : w.checkStop s = none) (h : w.turn s = .stops e) : w.Timely e := by
  cases turn_stops hw hs h with
  | cancelled hc _ hl => exact ⟨_, _, _, rfl, hl, hc⟩
  | timedOut _ => exact ⟨_, _, _, rfl, Nat.le_refl _, rfl, rfl⟩
  | satisfied _ hl _ => exact ⟨_, _, _, rfl, Nat.le_of_lt hl, hl, rfl⟩
  | panicked hp _ => exact absurd hp (hcalm _ _ _)

theorem pollFrom_timely {w : Wait} (hw : w.Fits) (hcalm : ∀ n d p, w.observe n ≠ .panics d p)
    (s : State) (hi : w.Inv s) : w.Timely (w.pollFrom s).ending := by
  fun_induction pollFrom w s with
  | case1 s e hs => exact checkStop_timely hi hs
  | case2 s hs e ht => exact turn_timely hw hcalm hs ht
  | case3 s hs s' ht later ih => exact ih (inv_goesOn hs ht)

/-- Each fetch starts at a later tick than the one before it, and before the deadline. -/
theorem length_pollFrom (w : Wait) (s : State) :
    (w.pollFrom s).calls.length ≤ w.limit - s.now := by
  fun_induction pollFrom w s with
  | case1 s e hs => exact Nat.zero_le _
  | case2 s hs e ht =>
    have := (checkStop_eq_none hs).2
    simp only [List.length_singleton]; omega
  | case3 s hs s' ht later ih =>
    have hlt := (checkStop_eq_none hs).2
    have := turn_advances hlt ht
    simp only [List.length_cons, later]; omega

end Wait

namespace WaitSpec

/-- A wait whose token has fired beforehand ends at once. -/
theorem Drives.fired {s : WaitSpec} {c : Condition} {source : StateSource} {delays : Nat → Delay}
    {w : Wait} (hw : s.Drives c source delays (some 0) w) :
    w.pollFrom ⟨0, 0, none⟩ = ⟨[], .returned 0 .fired (.error (.cancelled 0))⟩ := by
  have hfired : w.token.firesBefore 0 = true := by rw [hw.token]; rfl
  have hs : w.checkStop ⟨0, 0, none⟩ = some (.returned 0 .fired (.error (.cancelled 0))) := by
    simp only [Wait.checkStop, hfired, if_true]; rfl
  exact Wait.pollFrom_stopped hs

/-- A wait under any spec returns; one that does not resolve is refused at once. -/
theorem waitOn_ensures (s : WaitSpec) {source : StateSource} (hcalm : source.Calm)
    {delays : Nat → Delay} (hr : s.Representable delays) :
    (s.waitOn source fun n => .ok (delays n)).Ensures fun _ _ => True := by
  intro tok
  cases hc : s.resolve with
  | error e => exact ⟨0, tok, .error e, by simp [waitOn, hc], trivial⟩
  | ok c =>
    rw [waitOn_of_resolve hc hr.deadline]
    obtain ⟨t, tok', r, he, -⟩ := Wait.pollFrom_timely (fits_waitFor hr c source tok)
      (c.observe_calm hcalm) ⟨0, 0, none⟩ (Wait.inv_start _)
    exact ⟨t, tok', r, he, trivial⟩

/-- A wait always ends. It ends by the deadline, rounded up to a tick: with success strictly before the
deadline, with an exceeded deadline exactly at its tick, and with a cancellation exactly at the tick at
which the token fires; when the token has fired beforehand that is at once and without a fetch. There
are at most as many fetches as there are ticks up to the deadline. -/
theorem waitOn_ends_in_time (s : WaitSpec) (c : Condition) (hc : s.resolve = .ok c)
    (source : StateSource) (hcalm : source.Calm) (delays : Nat → Delay) (hr : s.Representable delays)
    (cancelAt : Option Nat) :
    let run := s.waitOn source (fun n => .ok (delays n)) (.ofTime cancelAt)
    ∃ t tok r, run.ending = .returned t tok r ∧
      t ≤ s.deadline.ticks ∧ run.calls.length ≤ s.deadline.ticks ∧
      (cancelAt = some 0 → t = 0 ∧ r = .error (.cancelled 0) ∧ run.calls = []) ∧
      match r with
      | .ok report => report.elapsed = Span.ofMillis t ∧ report.elapsed < s.deadline
      | .error (.deadlineExceeded d _ _) => d = s.deadline ∧ t = s.deadline.ticks
      | .error (.cancelled _) => cancelAt = some t
      | .error _ => False := by
  intro run
  obtain ⟨w, hw, hrun⟩ := waitOn_drives hc hr source cancelAt
  rw [show run = w.pollFrom ⟨0, 0, none⟩ from hrun]
  clear_value run
  have hobs : ∀ n d p, w.observe n ≠ .panics d p := fun n => by
    rw [hw.observe]; exact c.observe_calm hcalm n
  obtain ⟨t, tok, r, he, hle, hstands⟩ := Wait.pollFrom_timely hw.fits hobs _ w.inv_start
  have hlen := w.length_pollFrom ⟨0, 0, none⟩
  rw [hw.limit] at hle hlen
  refine ⟨t, tok, r, he, hle, hlen, ?_, ?_⟩
  · intro h0
    subst h0
    rw [hw.fired] at he ⊢
    cases he; exact ⟨rfl, rfl, rfl⟩
  · rcases r with (⟨d, n, last⟩ | n | k | m) | report
    · exact ⟨hstands.2.trans hw.deadline, hstands.1.trans hw.limit⟩
    · exact hw.time?_token.symm.trans hstands
    · exact hstands
    · exact hstands
    · exact ⟨hstands.2, by rw [hstands.2]; exact hw.ofMillis_lt.mpr hstands.1⟩

/-- A source that never has a replica ready, polled every ten milliseconds and cancelled after 125. -/
theorem waitOn_ends_in_time_cancelled :
    let run := (WaitSpec.deployment "smoketest" 2 (Span.ofMillis 200)).waitOn
      ⟨fun _ _ => .answers 3 (.ok 0), fun _ _ => .hangs⟩
      (fun _ => .ok ⟨Span.ofMillis 10, by decide⟩) (.ofTime (some 125))
    ∃ t tok r, run.ending = .returned t tok r ∧ t ≤ 200 ∧ run.calls.length ≤ 200 ∧
      (some 125 = some 0 → t = 0 ∧ r = .error (.cancelled 0) ∧ run.calls = []) ∧
      match r with
      | .ok report => report.elapsed = Span.ofMillis t ∧ report.elapsed < Span.ofMillis 200
      | .error (.deadlineExceeded d _ _) => d = Span.ofMillis 200 ∧ t = 200
      | .error (.cancelled _) => some 125 = some t
      | .error _ => False :=
  waitOn_ends_in_time (.deployment "smoketest" 2 (Span.ofMillis 200)) (.readyReplicas "smoketest" 2) rfl
    ⟨fun _ _ => .answers 3 (.ok 0), fun _ _ => .hangs⟩ ⟨nofun, nofun⟩
    (fun _ => ⟨Span.ofMillis 10, by decide⟩)
    ⟨by decide +kernel, fun _ t ht => fitsClock_mono (Nat.le_of_lt ht) (Nat.le_refl _)
      (by decide +kernel : fitsClock 200 (Span.ofMillis 10) = true)⟩ (some 125)

end WaitSpec
end Checkup
