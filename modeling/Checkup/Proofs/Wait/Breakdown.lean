import Checkup.Proofs.Wait.Polls
import Checkup.Proofs.Wait.Schedule
import Checkup.Proofs.Wait.Timing

/-!
# When a wait breaks off

A spec that resolves has bounds from below only: its deadline and its delays may be longer than the clock
can show, and its delays longer than any length of time. Each of them is added to the clock as it is, also
a delay that the deadline is going to cut short, and so a wait may end in a panic.

**Assumptions.** No call to the source panics (`StateSource.Calm`).

Results:
* `pollFrom_regular`: the loop ends, in one of the three regular ways or in a panic.
* `pollFrom_panicked_iff`: it panics exactly at a pause that cannot begin.
* `delays_of_ceiling`: if the clock can show a pause of the greatest length behind the deadline, every
  pause can begin.
* `wait_regular`: with that much room, a wait ends in a regular way.
* `wait_breaks_off`: all of it for a wait on the schedule of its spec, as the structure `Breakdown`.
* `wait_overflows`: a short deadline does not save a wait from a long delay.
-/
namespace Checkup

namespace Wait

/-- The ways for a wait to end that are no panic and no refusal of its spec. -/
def Regular : Result → Prop
  | .ok _ => True
  | .error (.deadlineExceeded ..) => True
  | .error (.cancelled _) => True
  | .error _ => False

/-- The wait ends in a regular way, or in a panic. -/
def Ends (e : Ending Result) : Prop :=
  (∃ t tok r, e = .returned t tok r ∧ Regular r) ∨ ∃ t p, e = .panicked t p

variable {w : Wait} {s : State} {e : Ending Result} {t : Nat} {p : Panic}

theorem checkStop_regular (h : w.checkStop s = some e) :
    ∃ t tok r, e = .returned t tok r ∧ Regular r := by
  rcases checkStop_eq_some h with ⟨-, rfl⟩ | ⟨-, rfl⟩
  · exact ⟨_, _, _, rfl, trivial⟩
  · exact ⟨_, _, _, rfl, trivial⟩

theorem rest_ends {n : Nat} (hf : w.token.firesBefore s.now = false) (hl : s.now < w.limit)
    (h : w.rest n s = .stops e) : Ends e := by
  rcases rest_cases (n := n) hf hl with ⟨p, -, hrest⟩ | ⟨u, -, -, hrest⟩ | ⟨u, -, -, hrest⟩
  · cases hrest.symm.trans h
    exact .inr ⟨_, _, rfl⟩
  · cases hrest.symm.trans h
    exact .inl ⟨_, _, _, rfl, trivial⟩
  · cases hrest.symm.trans h

theorem turn_ends (h : w.turn s = .stops e) : Ends e := by
  unfold turn at h
  split at h
  · cases h
    exact .inl ⟨_, _, _, rfl, trivial⟩
  · cases h
    exact .inl ⟨_, _, _, rfl, trivial⟩
  · cases h
    exact .inr ⟨_, _, rfl⟩
  · cases h
    exact .inl ⟨_, _, _, rfl, trivial⟩
  · rename_i hp
    obtain ⟨d, -, rfl, hl, hf⟩ := poll_answered hp
    exact rest_ends (by exact hf) (by exact hl) h

theorem pollFrom_regular (w : Wait) (s : State) : Ends (w.pollFrom s).ending := by
  fun_induction pollFrom w s with
  | case1 s e hs => exact .inl (checkStop_regular hs)
  | case2 s hs e ht => exact turn_ends ht
  | case3 s hs s' ht later ih => exact ih

/-- The pause behind the `n`-th fetch, which starts at tick `now`, cannot begin: the fetch comes back in
vain and in time, but the schedule or the clock breaks off. -/
def NoPause (w : Wait) (now n t : Nat) (p : Panic) : Prop :=
  ∃ d r, w.observe n = .answers d r ∧ r ≠ .ok true ∧ t = now + d ∧ t < w.limit ∧
    w.token.firesBefore t = false ∧ w.pause t n = .error p

theorem rest_of_error {n : Nat} (hl : s.now < w.limit) (hf : w.token.firesBefore s.now = false)
    (hp : w.pause s.now n = .error p) : w.rest n s = .stops (.panicked s.now p) := by
  simp only [rest, checkStop_of_lt hf hl, hp]

theorem rest_panicked {n : Nat} (hl : s.now < w.limit) (hf : w.token.firesBefore s.now = false)
    (h : w.rest n s = .stops (.panicked t p)) : t = s.now ∧ w.pause s.now n = .error p := by
  rcases rest_cases (n := n) hf hl with ⟨q, hq, hrest⟩ | ⟨u, -, -, hrest⟩ | ⟨u, -, -, hrest⟩
  · cases hrest.symm.trans h
    exact ⟨rfl, hq⟩
  · cases hrest.symm.trans h
  · cases hrest.symm.trans h

/-- A turn panics exactly where its pause cannot begin. -/
theorem turn_panicked_iff (hcalm : ∀ n d q, w.observe n ≠ .panics d q) :
    w.turn s = .stops (.panicked t p) ↔ w.NoPause s.now s.polls t p := by
  constructor
  · intro h
    unfold turn at h
    split at h
    · cases h
    · cases h
    · rename_i hp
      obtain ⟨d, hd, -⟩ := poll_panicked hp
      exact absurd hd (hcalm _ _ _)
    · cases h
    · rename_i u r hr hp
      obtain ⟨d, hd, rfl, hl, hf⟩ := poll_answered hp
      obtain ⟨rfl, hpause⟩ := rest_panicked (by exact hl) (by exact hf) h
      exact ⟨d, r, hd, hr, rfl, hl, hf, hpause⟩
  · rintro ⟨d, r, hd, hr, rfl, hl, hf, hp⟩
    rw [turn_of_vain (poll_of_answer hd hl hf) hr]
    exact rest_of_error hl hf hp

/-- The loop panics exactly where the pause behind one of its fetches cannot begin. -/
theorem pollFrom_panicked_iff (hcalm : ∀ n d q, w.observe n ≠ .panics d q) :
    (w.pollFrom s).ending = .panicked t p ↔
      ∃ k u, (w.pollFrom s).calls[k]? = some (u, w.fetch) ∧ w.NoPause u (s.polls + k) t p := by
  constructor
  · fun_induction pollFrom w s with
    | case1 s e hs =>
      intro h
      obtain ⟨_, _, _, rfl, -⟩ := checkStop_regular hs
      cases h
    | case2 s hs e ht =>
      intro h
      rw [show e = .panicked t p from h] at ht
      exact ⟨0, s.now, rfl, (turn_panicked_iff hcalm).mp ht⟩
    | case3 s hs s' ht later ih =>
      intro h
      obtain ⟨k, u, hk, hp⟩ := ih h
      rw [turn_polls ht, Nat.add_right_comm] at hp
      exact ⟨k + 1, u, hk, hp⟩
  · rintro ⟨k, u, hk, hp⟩
    obtain ⟨s', hpolls, hcall, hs, -, hend⟩ := pollFrom_suffix w s k hk
    cases hcall
    rw [← hpolls] at hp
    rw [hend, pollFrom_stops hs ((turn_panicked_iff hcalm).mpr hp)]

end Wait

namespace WaitSpec

variable {s : WaitSpec} {c : Condition}

/-- The clock can show the end of a pause of the greatest length that begins with the deadline, where the
greatest length is the maximum as the schedule rounds it. -/
def HasRoom (s : WaitSpec) : Prop :=
  ∃ top, Span.ofSeconds? s.backoff.max.toSeconds = some top ∧ fitsClock s.deadline.ticks top = true

theorem fitsClock_delay {t : Nat} {d top : Span} (ht : t < s.deadline.ticks) (hd : d ≤ top)
    (h : fitsClock s.deadline.ticks top = true) : fitsClock t (Delay.ofSpan d).span = true := by
  have hle : d.nanos ≤ top.nanos := hd
  simp only [fitsClock, decide_eq_true_eq] at h ⊢
  have hspan : (Delay.ofSpan d).span.nanos = max 1 d.nanos := rfl
  rw [hspan]
  omega

theorem delays_of_ceiling (hc : s.resolve = .ok c) (h : s.HasRoom) (random : Nat → Nat) :
    ∃ delays : Nat → Delay, s.backoff.schedule random = (fun n => .ok (delays n)) ∧
      s.Representable delays := by
  obtain ⟨top, hmax, hfits⟩ := h
  have hdelay := Backoff.delay_le (resolve_eq_ok.mp hc).1.factor_unsigned hmax random
  refine ⟨fun n => .ofSpan (hdelay n).choose, ?_, ?_, ?_⟩
  · funext n
    rw [Backoff.schedule, (hdelay n).choose_spec.1]
  · exact fitsClock_of_ticks (fitsClock_mono (Nat.le_refl _) (Nat.zero_le _) hfits)
  · intro n t ht
    exact fitsClock_delay ht (hdelay n).choose_spec.2 hfits

/-! ## The wait under a spec -/

section
variable (s : WaitSpec) (c : Condition) (source : StateSource) (random : Nat → Nat) (token : Token)

inductive BreaksOff (run : Course Fetch Wait.Result) : Nat → Panic → Prop where
  /-- The clock cannot show the deadline. -/
  | deadline : fitsClock 0 s.deadline = false → BreaksOff run 0 clockOverflow
  /-- A fetch comes back in vain and in time, and the delay behind it is no length of time. -/
  | delay {k u d : Nat} {f : Fetch} : fitsClock 0 s.deadline = true → run.calls[k]? = some (u, f) →
      c.AnswersAfter source k d → ¬ c.MetAfter source k d → Span.ofMillis (u + d) < s.deadline →
      token.firesBefore (u + d) = false → s.backoff.delay random k = none →
      BreaksOff run (u + d) (s.backoff.overflow k)
  /-- A fetch comes back in vain and in time, and the clock cannot show the end of the delay behind it,
  which may lie far beyond the deadline. -/
  | wakeUp {k u d : Nat} {f : Fetch} {pause : Span} : fitsClock 0 s.deadline = true →
      run.calls[k]? = some (u, f) → c.AnswersAfter source k d → ¬ c.MetAfter source k d →
      Span.ofMillis (u + d) < s.deadline → token.firesBefore (u + d) = false →
      s.backoff.delay random k = some pause → fitsClock (u + d) (Delay.ofSpan pause).span = false →
      BreaksOff run (u + d) clockOverflow

structure Breakdown (run : Course Fetch Wait.Result) : Prop where
  /-- It ends in a regular way, or it panics. -/
  ends : Wait.Ends run.ending
  /-- It panics exactly when one of the three sums cannot be computed. -/
  panics : ∀ t p, run.ending = .panicked t p ↔ s.BreaksOff c source random token run t p
  /-- None of that happens as long as the clock has room for the deadline and the longest pause. -/
  safe : s.HasRoom → ∃ t tok r, run.ending = .returned t tok r ∧ Wait.Regular r ∧
    t ≤ s.deadline.ticks

end

variable {source : StateSource} {random : Nat → Nat} {token : Token}

/-- Why no end of a pause can be computed, in terms of the schedule. -/
theorem pause_eq_error {k t : Nat} {p : Panic} :
    (s.waitFor c source (s.backoff.schedule random) token).pause t k = .error p ↔
      (s.backoff.delay random k = none ∧ p = s.backoff.overflow k) ∨
        ∃ pause, s.backoff.delay random k = some pause ∧
          fitsClock t (Delay.ofSpan pause).span = false ∧ p = clockOverflow := by
  unfold Wait.pause
  rw [delay_waitFor, Backoff.schedule]
  cases s.backoff.delay random k with
  | none =>
    constructor
    · intro h
      cases h
      exact .inl ⟨rfl, rfl⟩
    · rintro (⟨-, rfl⟩ | ⟨_, h, -⟩)
      · rfl
      · cases h
  | some d =>
    dsimp only
    split
    · rename_i hfits
      constructor
      · intro h
        cases h
      · rintro (⟨h, -⟩ | ⟨_, h, hf, -⟩)
        · cases h
        · cases h
          rw [hfits] at hf
          cases hf
    · rename_i hfits
      constructor
      · intro h
        cases h
        exact .inr ⟨d, rfl, Bool.eq_false_iff.mpr hfits, rfl⟩
      · rintro (⟨h, -⟩ | ⟨_, -, -, rfl⟩)
        · cases h
        · rfl

theorem pause_eq_ok {k t : Nat} {pause : Span} (hd : s.backoff.delay random k = some pause)
    (hfits : fitsClock t (Delay.ofSpan pause).span = true) :
    (s.waitFor c source (s.backoff.schedule random) token).pause t k =
      .ok (min (t + (Delay.ofSpan pause).ticks) s.deadline.ticks) := by
  simp only [Wait.pause, delay_waitFor, Backoff.schedule, hd, hfits, if_true, limit_waitFor]

theorem noPause_iff {k u t : Nat} {p : Panic} :
    (s.waitFor c source (s.backoff.schedule random) token).NoPause u k t p ↔
      ∃ d, c.AnswersAfter source k d ∧ ¬ c.MetAfter source k d ∧ t = u + d ∧
        Span.ofMillis t < s.deadline ∧ token.firesBefore t = false ∧
        ((s.backoff.delay random k = none ∧ p = s.backoff.overflow k) ∨
          ∃ pause, s.backoff.delay random k = some pause ∧
            fitsClock t (Delay.ofSpan pause).span = false ∧ p = clockOverflow) := by
  constructor
  · rintro ⟨d, r, ho, hr, rfl, hl, hf, hp⟩
    obtain ⟨ha, hm⟩ := Condition.vain_iff.mpr ⟨r, ho, hr⟩
    exact ⟨d, ha, hm, rfl, Span.ofMillis_lt_iff.mpr hl, hf, pause_eq_error.mp hp⟩
  · rintro ⟨d, ha, hm, rfl, hl, hf, hp⟩
    obtain ⟨r, ho, hr⟩ := Condition.vain_iff.mp ⟨ha, hm⟩
    exact ⟨d, r, ho, hr, rfl, Span.ofMillis_lt_iff.mp hl, hf, pause_eq_error.mpr hp⟩

/-- A wait without room for its deadline panics before the first fetch. -/
theorem waitOn_without_deadline (hc : s.resolve = .ok c) (hd : fitsClock 0 s.deadline = false)
    (source : StateSource) (delay : Schedule) (token : Token) :
    s.waitOn source delay token = ⟨[], .panicked 0 clockOverflow⟩ := by
  simp [waitOn, hc, hd]

/-- A wait with room for its deadline and the longest pause ends in a regular way by its deadline. -/
theorem wait_regular (hc : s.resolve = .ok c) (hcalm : source.Calm) (hroom : s.HasRoom)
    (random : Nat → Nat) (token : Token) :
    ∃ t tok r, (s.wait source random token).ending = .returned t tok r ∧ Wait.Regular r ∧
      t ≤ s.deadline.ticks := by
  obtain ⟨delays, hdelays, hr⟩ := delays_of_ceiling hc hroom random
  rw [wait, hdelays, waitOn_of_resolve hc hr.deadline]
  obtain ⟨t, tok, r, he, hle, hstands⟩ := Wait.pollFrom_timely (fits_waitFor hr c source token)
    (c.observe_calm hcalm) ⟨0, 0, none⟩ (Wait.inv_start _)
  refine ⟨t, tok, r, he, ?_, hle⟩
  rcases r with (⟨d, n, last⟩ | n | k | m) | report
  · trivial
  · trivial
  · exact hstands
  · exact hstands
  · trivial

/-- A wait with room for its deadline panics exactly at a pause that cannot begin. -/
theorem pollFrom_breaksOff_iff (hcalm : source.Calm) (hd : fitsClock 0 s.deadline = true) {t : Nat}
    {p : Panic} :
    let run := (s.waitFor c source (s.backoff.schedule random) token).pollFrom ⟨0, 0, none⟩
    run.ending = .panicked t p ↔ s.BreaksOff c source random token run t p := by
  intro run
  rw [Wait.pollFrom_panicked_iff (c.observe_calm hcalm)]
  simp only [Nat.zero_add, noPause_iff]
  constructor
  · rintro ⟨k, u, hk, d, ha, hm, rfl, hl, hf, ⟨hnone, rfl⟩ | ⟨pause, hsome, hfits, rfl⟩⟩
    · exact .delay hd hk ha hm hl hf hnone
    · exact .wakeUp hd hk ha hm hl hf hsome hfits
  · intro h
    cases h with
    | deadline h => rw [hd] at h; cases h
    | @delay k u d f _ hk ha hm hl hf hnone =>
      have hfetch := (Wait.mem_pollFrom hk).1
      subst hfetch
      exact ⟨k, u, hk, d, ha, hm, rfl, hl, hf, .inl ⟨hnone, rfl⟩⟩
    | @wakeUp k u d f pause _ hk ha hm hl hf hsome hfits =>
      have hfetch := (Wait.mem_pollFrom hk).1
      subst hfetch
      exact ⟨k, u, hk, d, ha, hm, rfl, hl, hf, .inr ⟨pause, hsome, hfits, rfl⟩⟩

/-- A wait under a spec that resolves always ends. It panics exactly when the deadline, or the end of a
pause that it begins, is beyond the clock, or the delay of that pause is no length of time; otherwise it
is satisfied, exceeds its deadline or is cancelled. -/
theorem wait_breaks_off (s : WaitSpec) (c : Condition) (hc : s.resolve = .ok c) (source : StateSource)
    (hcalm : source.Calm) (random : Nat → Nat) (token : Token) :
    s.Breakdown c source random token (s.wait source random token) := by
  have hsafe := fun hroom : s.HasRoom => wait_regular hc hcalm hroom random token
  cases hd : fitsClock 0 s.deadline with
  | false =>
    have hrun : s.wait source random token = ⟨[], .panicked 0 clockOverflow⟩ :=
      waitOn_without_deadline hc hd ..
    refine { ends := ?_, panics := fun t p => ?_, safe := hsafe }
    · rw [hrun]
      exact .inr ⟨_, _, rfl⟩
    · rw [hrun]
      constructor
      · intro h
        cases h
        exact .deadline hd
      · intro h
        cases h with
        | deadline => rfl
        | delay h => rw [hd] at h; cases h
        | wakeUp h => rw [hd] at h; cases h
  | true =>
    have hrun : s.wait source random token =
        (s.waitFor c source (s.backoff.schedule random) token).pollFrom ⟨0, 0, none⟩ :=
      waitOn_of_resolve hc hd ..
    refine { ends := ?_, panics := fun t p => ?_, safe := hsafe }
    · rw [hrun]
      exact Wait.pollFrom_regular _ _
    · rw [hrun]
      exact pollFrom_breaksOff_iff hcalm hd

/-- A deadline of one second, and delays that grow from a millisecond to three hundred billion years. -/
def impatient : WaitSpec :=
  (WaitSpec.deployment "smoketest" 2 (Span.ofSeconds 1)).withBackoff
    ⟨Span.ofMillis 1, Span.ofSeconds (10 ^ (19 : Nat)), .ofNat (10 ^ (30 : Nat)), false⟩

/-- The replicas never get ready. -/
def unready : StateSource := ⟨fun _ _ => .answers 0 (.ok 0), fun _ _ => .hangs⟩

theorem unready_calm : unready.Calm := ⟨nofun, nofun⟩

theorem resolve_impatient : impatient.resolve = .ok (.readyReplicas "smoketest" 2) := by
  rfl

/-- The second delay is cut short by the deadline, but its end is computed all the same. -/
theorem wait_overflows :
    impatient.resolve = .ok (.readyReplicas "smoketest" 2) ∧ unready.Calm ∧
      (impatient.wait unready (randomStream 1) .never).ending = .panicked 1 clockOverflow := by
  refine ⟨resolve_impatient, unready_calm, ?_⟩
  let w := impatient.waitFor (.readyReplicas "smoketest" 2) unready
    (impatient.backoff.schedule (randomStream 1)) .never
  have hrun : impatient.wait unready (randomStream 1) .never = w.pollFrom ⟨0, 0, none⟩ :=
    waitOn_of_resolve resolve_impatient (by decide +kernel) ..
  -- The first delay is the smallest, a millisecond; the second is the ceiling.
  have hshort : impatient.backoff.delay (randomStream 1) 0 = some (Span.ofMillis 1) := by
    decide +kernel
  have hlong : impatient.backoff.delay (randomStream 1) 1 =
      some (Span.ofSeconds (10 ^ (19 : Nat))) := by
    decide +kernel
  have hfirst : w.turn ⟨0, 0, none⟩ = .goesOn ⟨1, 1, none⟩ :=
    (Wait.turn_of_vain (x := .ok false) rfl nofun).trans
      (Wait.rest_of_ok (by decide +kernel) rfl (pause_eq_ok hshort (by decide +kernel)) rfl)
  have hsecond : w.turn ⟨1, 1, none⟩ = .stops (.panicked 1 clockOverflow) :=
    (Wait.turn_of_vain (x := .ok false) rfl nofun).trans
      (Wait.rest_of_error (by decide +kernel) rfl
        (pause_eq_error.mpr (.inr ⟨_, hlong, by decide +kernel, rfl⟩)))
  rw [hrun, Wait.pollFrom_goesOn (Wait.checkStop_of_lt rfl (by decide +kernel)) hfirst,
    Wait.pollFrom_stops (Wait.checkStop_of_lt rfl (by decide +kernel)) hsecond]

theorem wait_breaks_off_impatient :
    impatient.Breakdown (.readyReplicas "smoketest" 2) unready (randomStream 1) (.due 300)
      (impatient.wait unready (randomStream 1) (.due 300)) :=
  wait_breaks_off impatient (.readyReplicas "smoketest" 2) resolve_impatient unready unready_calm
    (randomStream 1) (.due 300)

end WaitSpec
end Checkup
