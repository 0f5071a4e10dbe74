import Checkup.Proofs.Wait.Polls
import Checkup.Proofs.Wait.Spec

/-!
# The discipline of a wait

The laws of the polls for the wait under a spec, in terms of what the spec and the source say.

**Assumptions.** The clock can show the deadline and the pauses (`Representable`), and the token does not
fire in the tick of another timer of the wait (`TimerAt`). The source is any: fetches may take any time,
hang, fail or panic.

Results:
* `Drives.paced`, `Drives.vain_of_later` and `Drives.next`: a fetch starts exactly one delay after the one
  before it, which came back in vain.
* `Drives.ok_of_met` and `Drives.met_of_ok`: the wait is satisfied exactly by the first fetch that meets
  the condition, if it does so in time.
* `waitOn_disciplined`: all of it, as the structure `Disciplined`.
-/
namespace Checkup

namespace WaitSpec

section
variable (s : WaitSpec) (c : Condition) (source : StateSource) (delays : Nat → Delay)
  (cancelAt : Option Nat)

/-- The ticks before the deadline at which a fetch of a wait comes back, or the pause behind one that came
back in vain is over. -/
def TimerAt (run : Course Fetch Wait.Result) (a : Nat) : Prop :=
  a < s.deadline.ticks ∧
    ∃ (k t : Nat) (f : Fetch) (d : Nat), run.calls[k]? = some (t, f) ∧ c.AnswersAfter source k d ∧
      (a = t + d ∨ ¬ c.MetAfter source k d ∧ a = t + d + (delays k).ticks)

/-- What every wait under a spec keeps to. Fetches are counted from 0, and so are the delays of the
schedule. -/
structure Disciplined (run : Course Fetch Wait.Result) : Prop where
  /-- Only what the spec names is fetched. -/
  target : match s.kind with
    | .deployment => ∃ name n, s.options.workload = some name ∧ s.options.replicas = some n ∧
        c = .readyReplicas name n ∧ ∀ call ∈ run.calls, call.2 = .workload name
    | .pod => ∃ name, s.options.pod = some name ∧
        c = .podPhase name (s.options.phase.getD .running) ∧ ∀ call ∈ run.calls, call.2 = .pod name
    | _ => False
  /-- The result tells how many fetches were begun. -/
  counted : ∀ t tok r, run.ending = .returned t tok r → run.calls.length < 2 ^ (32 : Nat) →
    match r with
    | .ok report => report.polls.toNat = run.calls.length
    | .error (.deadlineExceeded _ polls _) => polls.toNat = run.calls.length
    | .error (.cancelled polls) => polls.toNat = run.calls.length
    | .error _ => False
  /-- No fetch starts while an earlier one is under way. -/
  alone : ∀ (i j t u : Nat) (f g : Fetch), i < j → run.calls[i]? = some (t, f) →
    run.calls[j]? = some (u, g) → ∃ d, c.AnswersAfter source i d ∧ t + d ≤ u
  /-- Each fetch starts before the deadline and before the token fires. -/
  inTime : ∀ (k t : Nat) (f : Fetch), run.calls[k]? = some (t, f) →
    Span.ofMillis t < s.deadline ∧ ∀ a, cancelAt = some a → t < a
  /-- The wait is satisfied by the first fetch that meets the condition, if that comes back in time. -/
  satisfied : ∀ k e : Nat,
    (∃ tok report, run.ending = .returned e tok (.ok report) ∧ run.calls.length = k + 1) ↔
    ∃ (t : Nat) (f : Fetch) (d : Nat), run.calls[k]? = some (t, f) ∧ c.MetAfter source k d ∧
      e = t + d ∧ Span.ofMillis e < s.deadline ∧ (∀ a, cancelAt = some a → e < a) ∧
      ∀ j < k, ∀ d', ¬ c.MetAfter source j d'
  /-- The first fetch starts at once. -/
  first : cancelAt ≠ some 0 → ∃ f : Fetch, run.calls[0]? = some (0, f)
  /-- A later fetch starts one delay of the schedule after the one before it has come back. -/
  paced : ∀ (k u : Nat) (g : Fetch), run.calls[k + 1]? = some (u, g) →
    ∃ (t : Nat) (f : Fetch) (d : Nat), run.calls[k]? = some (t, f) ∧ c.AnswersAfter source k d ∧
      ¬ c.MetAfter source k d ∧ u = t + d + (delays k).ticks
  /-- There is such a later fetch, unless the deadline or the token comes first. -/
  next : ∀ (k t : Nat) (f : Fetch) (d : Nat), run.calls[k]? = some (t, f) →
    c.AnswersAfter source k d → ¬ c.MetAfter source k d →
    Span.ofMillis (t + d + (delays k).ticks) < s.deadline →
    (∀ a, cancelAt = some a → t + d + (delays k).ticks < a) →
    ∃ g, run.calls[k + 1]? = some (t + d + (delays k).ticks, g)

end

variable {s : WaitSpec} {c : Condition} {source : StateSource} {delays : Nat → Delay}
  {cancelAt : Option Nat} {w : Wait}

namespace Drives

theorem paced (hw : s.Drives c source delays cancelAt w) {k u : Nat} {g : Fetch}
    (h : (w.pollFrom ⟨0, 0, none⟩).calls[k + 1]? = some (u, g)) :
    ∃ (t : Nat) (f : Fetch) (d : Nat), (w.pollFrom ⟨0, 0, none⟩).calls[k]? = some (t, f) ∧
      c.AnswersAfter source k d ∧ ¬ c.MetAfter source k d ∧ u = t + d + (delays k).ticks := by
  obtain ⟨t, d, r, p, hk, ho, hr, hp, hu⟩ := Wait.pollFrom_paced h
  rw [hw.observe_zero_add] at ho
  rw [hw.delay_zero_add] at hp
  cases hp
  obtain ⟨ha, hm⟩ := Condition.vain_iff.mpr ⟨r, ho, hr⟩
  exact ⟨t, _, d, hk, ha, hm, hu⟩

/-- A fetch that a later one follows came back before that, and in vain. -/
theorem vain_of_later (hw : s.Drives c source delays cancelAt w) {i t : Nat} {f : Fetch}
    (hi : (w.pollFrom ⟨0, 0, none⟩).calls[i]? = some (t, f)) :
    ∀ {j u : Nat} {g : Fetch}, i < j → (w.pollFrom ⟨0, 0, none⟩).calls[j]? = some (u, g) →
      ∃ d, c.AnswersAfter source i d ∧ ¬ c.MetAfter source i d ∧ t + d ≤ u := by
  intro j
  induction j with
  | zero => intro u g hij; cases hij
  | succ j ih =>
    intro u g hij hu
    obtain ⟨t', f', d', ht', ha, hm, rfl⟩ := hw.paced hu
    rcases Nat.lt_or_eq_of_le (Nat.le_of_lt_succ hij) with hlt | rfl
    · obtain ⟨d, hd, hnd, hle⟩ := ih hlt ht'
      exact ⟨d, hd, hnd, by omega⟩
    · rw [hi] at ht'; cases ht'
      exact ⟨d', ha, hm, by omega⟩

/-- A fetch starts before the tick in which the token fires. -/
theorem lt_of_call (hw : s.Drives c source delays cancelAt w)
    (hclear : ∀ a, cancelAt = some a →
      ¬ s.TimerAt c source delays (w.pollFrom ⟨0, 0, none⟩) a)
    {k t : Nat} {f : Fetch} (h : (w.pollFrom ⟨0, 0, none⟩).calls[k]? = some (t, f)) {a : Nat}
    (ha : cancelAt = some a) : t < a := by
  obtain ⟨-, hl, hf⟩ := Wait.mem_pollFrom h
  refine Nat.lt_of_le_of_ne (Token.firesBefore_eq_false hf a (hw.time?_token.trans ha)) fun heq => ?_
  subst heq
  cases k with
  | zero =>
    obtain ⟨hcall, -⟩ := Wait.pollFrom_head h
    cases hcall
    rw [hw.token, ha] at hf; cases hf
  | succ k =>
    obtain ⟨u, f', d, hk, hd, hm, rfl⟩ := hw.paced h
    exact hclear _ ha ⟨hw.limit ▸ hl, k, u, f', d, hk, hd, .inr ⟨hm, rfl⟩⟩

theorem next (hw : s.Drives c source delays cancelAt w) {k t d : Nat} {f : Fetch}
    (h : (w.pollFrom ⟨0, 0, none⟩).calls[k]? = some (t, f)) (ha : c.AnswersAfter source k d)
    (hm : ¬ c.MetAfter source k d) (hl : Span.ofMillis (t + d + (delays k).ticks) < s.deadline)
    (hf : ∀ a, cancelAt = some a → t + d + (delays k).ticks < a) :
    (w.pollFrom ⟨0, 0, none⟩).calls[k + 1]? = some (t + d + (delays k).ticks, w.fetch) := by
  obtain ⟨r, ho, hr⟩ := Condition.vain_iff.mp ⟨ha, hm⟩
  rw [← hw.observe_zero_add] at ho
  exact Wait.pollFrom_next hw.fits h ho hr (hw.delay_zero_add k) (hw.ofMillis_lt.mp hl)
    (hw.firesBefore hf)

theorem ok_of_met (hw : s.Drives c source delays cancelAt w) {k t d : Nat} {f : Fetch}
    (h : (w.pollFrom ⟨0, 0, none⟩).calls[k]? = some (t, f)) (hm : c.MetAfter source k d)
    (hl : Span.ofMillis (t + d) < s.deadline) (hf : ∀ a, cancelAt = some a → t + d < a) :
    ∃ tok report, (w.pollFrom ⟨0, 0, none⟩).ending = .returned (t + d) tok (.ok report) ∧
      (w.pollFrom ⟨0, 0, none⟩).calls.length = k + 1 := by
  rw [Condition.metAfter_iff, ← hw.observe_zero_add] at hm
  obtain ⟨⟨tok, report, hend⟩, hlen⟩ :=
    Wait.pollFrom_ok_of_met h hm (hw.ofMillis_lt.mp hl) (hw.firesBefore hf)
  exact ⟨tok, report, hend, hlen⟩

theorem met_of_ok (hw : s.Drives c source delays cancelAt w)
    (hclear : ∀ a, cancelAt = some a →
      ¬ s.TimerAt c source delays (w.pollFrom ⟨0, 0, none⟩) a)
    {k e : Nat} {tok : Token} {report : WaitReport}
    (hend : (w.pollFrom ⟨0, 0, none⟩).ending = .returned e tok (.ok report))
    (hlen : (w.pollFrom ⟨0, 0, none⟩).calls.length = k + 1) :
    ∃ (t : Nat) (f : Fetch) (d : Nat), (w.pollFrom ⟨0, 0, none⟩).calls[k]? = some (t, f) ∧
      c.MetAfter source k d ∧ e = t + d ∧ Span.ofMillis e < s.deadline ∧
      (∀ a, cancelAt = some a → e < a) ∧ ∀ j < k, ∀ d', ¬ c.MetAfter source j d' := by
  obtain ⟨k', t, d, hlen', hk, ho, rfl, hl, hc⟩ := Wait.pollFrom_met_of_ok hw.fits _ hend
  obtain rfl : k' = k := by omega
  rw [hw.observe_zero_add] at ho
  have hm := Condition.metAfter_iff.mpr ho
  refine ⟨t, _, d, hk, hm, rfl, hw.ofMillis_lt.mpr hl, fun a ha => ?_, fun j hj d' hm' => ?_⟩
  · -- The fetch came back at a tick of a timer, which the token avoids.
    refine Nat.lt_of_le_of_ne (hc a (hw.time?_token.trans ha)) fun heq => ?_
    subst heq
    exact hclear _ ha
      ⟨hw.limit ▸ hl, k', t, _, d, hk, Condition.answersAfter_iff.mpr ⟨_, ho⟩, .inl rfl⟩
  · have hj' := List.getElem?_eq_getElem
      (show j < (w.pollFrom ⟨0, 0, none⟩).calls.length by omega)
    obtain ⟨d, ha, hn, -⟩ := hw.vain_of_later hj' hj hk
    exact hn (hm'.of_answers ha)

theorem target (hw : s.Drives c source delays cancelAt w) (hc : s.resolve = .ok c) :
    match s.kind with
    | .deployment => ∃ name n, s.options.workload = some name ∧ s.options.replicas = some n ∧
        c = .readyReplicas name n ∧
          ∀ call ∈ (w.pollFrom ⟨0, 0, none⟩).calls, call.2 = .workload name
    | .pod => ∃ name, s.options.pod = some name ∧
        c = .podPhase name (s.options.phase.getD .running) ∧
          ∀ call ∈ (w.pollFrom ⟨0, 0, none⟩).calls, call.2 = .pod name
    | _ => False := by
  have hcalls : ∀ call ∈ (w.pollFrom ⟨0, 0, none⟩).calls, call.2 = c.fetch := by
    intro call hcall
    obtain ⟨k, hk⟩ := List.mem_iff_getElem?.mp hcall
    rw [(Wait.mem_pollFrom hk).1, hw.fetch]
  obtain ⟨-, -, hasks⟩ := resolve_eq_ok.mp hc
  revert hasks
  generalize s.kind = kind, s.options = options
  rintro (⟨-, -⟩ | ⟨-⟩)
  · exact ⟨_, _, rfl, rfl, rfl, hcalls⟩
  · exact ⟨_, rfl, rfl, hcalls⟩

end Drives

theorem toNat_ofNat_zero_add {n : Nat} (h : n < 2 ^ (32 : Nat)) : (UInt32.ofNat (0 + n)).toNat = n := by
  rw [Nat.zero_add, UInt32.toNat_ofNat', Nat.mod_eq_of_lt h]

/-- Every wait under a spec that resolves is disciplined: it fetches only what the spec names, one fetch
at a time and each exactly when its schedule says, counts them, makes none at or after the deadline or
the firing of the token, and is satisfied by the first fetch that meets the condition. -/
theorem waitOn_disciplined (s : WaitSpec) (c : Condition) (hc : s.resolve = .ok c)
    (source : StateSource) (delays : Nat → Delay) (hr : s.Representable delays)
    (cancelAt : Option Nat)
    (hclear : ∀ a, cancelAt = some a → ¬ s.TimerAt c source delays
      (s.waitOn source (fun n => .ok (delays n)) (.ofTime cancelAt)) a) :
    s.Disciplined c source delays cancelAt
      (s.waitOn source (fun n => .ok (delays n)) (.ofTime cancelAt)) := by
  obtain ⟨w, hw, hrun⟩ := waitOn_drives hc hr source cancelAt
  rw [hrun] at hclear ⊢
  refine
    { target := hw.target hc
      counted := ?counted
      alone := ?alone
      inTime := ?inTime
      satisfied := ?satisfied
      first := ?first
      paced := fun k u g h => hw.paced h
      next := fun k t f d h ha hm hl hf => ⟨_, hw.next h ha hm hl hf⟩ }
  case counted =>
    intro t tok r hend hlen
    have hcounts := Wait.pollFrom_counts hw.fits _ hend
    rcases r with (⟨d, n, last⟩ | n | k | m) | report
    · exact hcounts ▸ toNat_ofNat_zero_add hlen
    · exact hcounts ▸ toNat_ofNat_zero_add hlen
    · exact hcounts
    · exact hcounts
    · exact (congrArg UInt32.toNat hcounts).trans (toNat_ofNat_zero_add hlen)
  case alone =>
    intro i j t u f g hij hi hj
    obtain ⟨d, ha, -, hle⟩ := hw.vain_of_later hi hij hj
    exact ⟨d, ha, hle⟩
  case inTime =>
    intro k t f h
    exact ⟨hw.ofMillis_lt.mpr (Wait.mem_pollFrom h).2.1, fun a ha => hw.lt_of_call hclear h ha⟩
  case satisfied =>
    intro k e
    constructor
    · rintro ⟨tok, report, hend, hlen⟩
      exact hw.met_of_ok hclear hend hlen
    · rintro ⟨t, f, d, h, hm, rfl, hl, hf, -⟩
      exact hw.ok_of_met h hm hl hf
  case first =>
    intro h0
    refine ⟨_, Wait.pollFrom_first (Wait.checkStop_of_lt (hw.firesBefore fun a ha => ?_) ?_)⟩
    · exact Nat.pos_of_ne_zero fun h => h0 (h ▸ ha)
    · rw [hw.limit]; exact Span.ticks_pos (deadline_pos hc)

/-- A source that never has a replica ready and always takes three milliseconds to say so, polled with
delays of ten and cancelled after 125: its timers end at multiples of 13, and three ticks behind them. -/
theorem waitOn_disciplined_cancelled :
    (WaitSpec.deployment "smoketest" 2 (Span.ofMillis 200)).Disciplined (.readyReplicas "smoketest" 2)
      ⟨fun _ _ => .answers 3 (.ok 0), fun _ _ => .hangs⟩ (fun _ => ⟨Span.ofMillis 10, by decide⟩)
      (some 125)
      ((WaitSpec.deployment "smoketest" 2 (Span.ofMillis 200)).waitOn
        ⟨fun _ _ => .answers 3 (.ok 0), fun _ _ => .hangs⟩
        (fun _ => .ok ⟨Span.ofMillis 10, by decide⟩) (.ofTime (some 125))) := by
  have hr : (WaitSpec.deployment "smoketest" 2 (Span.ofMillis 200)).Representable
      (fun _ => ⟨Span.ofMillis 10, by decide⟩) :=
    ⟨by decide +kernel, fun _ t ht => fitsClock_mono (Nat.le_of_lt ht) (Nat.le_refl _)
      (by decide +kernel : fitsClock 200 (Span.ofMillis 10) = true)⟩
  refine waitOn_disciplined (.deployment "smoketest" 2 (Span.ofMillis 200))
    (.readyReplicas "smoketest" 2) rfl _ (fun _ => ⟨Span.ofMillis 10, by decide⟩) hr (some 125) ?_
  intro a ha
  cases ha
  obtain ⟨w, hw, hrun⟩ := waitOn_drives (c := .readyReplicas "smoketest" 2) rfl hr
    ⟨fun _ _ => .answers 3 (.ok 0), fun _ _ => .hangs⟩ (some 125)
  rw [hrun]
  have hstart : ∀ (k t : Nat) (f : Fetch),
      (w.pollFrom ⟨0, 0, none⟩).calls[k]? = some (t, f) → t % 13 = 0 := by
    intro k
    induction k with
    | zero =>
      intro t f h
      obtain ⟨hcall, -⟩ := Wait.pollFrom_head h
      cases hcall; rfl
    | succ k ih =>
      intro u g h
      obtain ⟨t, f, d, hk, ⟨r, hd⟩, -, rfl⟩ := hw.paced h
      have := ih t f hk
      cases hd
      show (t + 3 + 10) % 13 = 0
      omega
  rintro ⟨-, k, t, f, d, hk, ⟨r, hd⟩, h⟩
  have := hstart k t f hk
  cases hd
  rcases h with h | ⟨-, h⟩
  · omega
  · rw [show (Delay.ticks ⟨Span.ofMillis 10, by decide⟩) = 10 by decide] at h
    omega

end WaitSpec
end Checkup
