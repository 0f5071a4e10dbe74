import Checkup.Proofs.Wait.Polls
import Checkup.Proofs.Wait.Spec

/-!
# What an exceeded deadline reports

The deadline can strike in two places: while a fetch is under way, or between two fetches. Either way the
wait reports the error of the latest fetch that failed, however many fetches have found the resource not
ready since. Only when no fetch failed do the two places differ.

The results hold for any source, any schedule, also one that breaks off, and any token. What carries the
induction over the loop is that the error to remember in a state stands for all fetches before that state.

Results:
* `turn_exceeded`: a turn in which the deadline strikes has a fetch under way.
* `failsAt_succ` and `unfinished_goesOn`: the fetches of a loop behind its first turn.
* `pollFrom_diagnosed`: the loop from any state, where the error remembered there counts as the earliest.
* `waitOn_diagnosed`: the wait under a spec, in terms of what the source answers.
-/
namespace Checkup

theorem Reply.time?_map {α β : Type} (f : α → β) (r : Reply α) : (r.map f).time? = r.time? := by
  cases r <;> rfl

namespace Wait

variable {w : Wait} {s s' : State} {k : Nat} {fault : Fault}

/-- The `k`-th fetch of the loop from a state comes back with an error before the deadline. -/
def FailsAt (w : Wait) (s : State) (k : Nat) (fault : Fault) : Prop :=
  ∃ t d, (w.pollFrom s).calls[k]? = some (t, w.fetch) ∧
    w.observe (s.polls + k) = .answers d (.error fault) ∧ t + d < w.limit

/-- The last fetch of the loop from a state does not come back before the deadline. -/
def Unfinished (w : Wait) (s : State) : Prop :=
  ∃ k t, (w.pollFrom s).calls.length = k + 1 ∧ (w.pollFrom s).calls[k]? = some (t, w.fetch) ∧
    ∀ d, (w.observe (s.polls + k)).time? = some d → w.limit ≤ t + d

/-- Each fetch of the loop from a state comes back before the deadline. -/
def AllBack (w : Wait) (s : State) : Prop :=
  ∀ k t, (w.pollFrom s).calls[k]? = some (t, w.fetch) →
    ∃ d r, w.observe (s.polls + k) = .answers d r ∧ t + d < w.limit

structure Diagnosed (w : Wait) (s : State) (last : Option String) : Prop where
  latest : ∀ k fault, w.FailsAt s k fault → (∀ j fault', k < j → ¬ w.FailsAt s j fault') →
    last = some fault.text
  unfinished : (∀ k fault, ¬ w.FailsAt s k fault) → w.Unfinished s →
    last = some (s.lastError.getD unfinishedFetch)
  allBack : (∀ k fault, ¬ w.FailsAt s k fault) → w.AllBack s → last = s.lastError
  either : w.Unfinished s ∨ w.AllBack s

/-! ## The turn in which the deadline strikes -/

/-- Behind a fetch that came back in time the deadline is still ahead. -/
theorem rest_not_exceeded {n t : Nat} {tok : Token} {d : Span} {polls : UInt32} {last : Option String}
    (hf : w.token.firesBefore s.now = false) (hl : s.now < w.limit) :
    w.rest n s ≠ .stops (.returned t tok (.error (.deadlineExceeded d polls last))) := by
  intro h
  rcases rest_cases (n := n) hf hl with ⟨p, -, hrest⟩ | ⟨u, -, -, hrest⟩ | ⟨u, -, -, hrest⟩ <;>
    cases hrest.symm.trans h

theorem turn_exceeded {t : Nat} {tok : Token} {d : Span} {polls : UInt32} {last : Option String}
    (h : w.turn s = .stops (.returned t tok (.error (.deadlineExceeded d polls last)))) :
    last = some (s.lastError.getD unfinishedFetch) ∧
      ∀ d', (w.observe s.polls).time? = some d' → w.limit ≤ s.now + d' := by
  unfold turn at h
  split at h
  · cases h
  · rename_i hp
    cases h
    exact ⟨rfl, (poll_timedOut hp).2⟩
  · cases h
  · cases h
  · rename_i hp
    obtain ⟨d', -, rfl, hl, hf⟩ := poll_answered hp
    exact absurd h (rest_not_exceeded hf hl)

/-! ## The fetches behind the first turn -/

theorem failsAt_zero (hs : w.checkStop s = none) :
    w.FailsAt s 0 fault ↔
      ∃ d, w.observe s.polls = .answers d (.error fault) ∧ s.now + d < w.limit := by
  simp [FailsAt, pollFrom_first hs]

theorem failsAt_succ (hs : w.checkStop s = none) (ht : w.turn s = .goesOn s') :
    w.FailsAt s (k + 1) fault ↔ w.FailsAt s' k fault := by
  simp only [FailsAt, pollFrom_goesOn hs ht, List.getElem?_cons_succ, turn_polls ht,
    Nat.add_assoc, Nat.add_comm 1 k]

theorem unfinished_goesOn (hs : w.checkStop s = none) (ht : w.turn s = .goesOn s') :
    w.Unfinished s ↔ w.Unfinished s' := by
  obtain ⟨d, r, -, ho, -, hl, -⟩ := turn_goesOn ht
  constructor
  · rintro ⟨k, t, hlen, hk, hlate⟩
    cases k with
    | zero =>
      rw [pollFrom_first hs] at hk
      cases hk
      have := hlate d (by rw [Nat.add_zero, ho]; rfl)
      omega
    | succ k =>
      rw [pollFrom_goesOn hs ht] at hlen hk
      refine ⟨k, t, Nat.succ.inj hlen, hk, fun d hd => hlate d ?_⟩
      rwa [turn_polls ht, Nat.add_right_comm, Nat.add_assoc] at hd
  · rintro ⟨k, t, hlen, hk, hlate⟩
    refine ⟨k + 1, t, ?_, ?_, fun d hd => hlate d ?_⟩
    · rw [pollFrom_goesOn hs ht, List.length_cons, hlen]
    · rw [pollFrom_goesOn hs ht, List.getElem?_cons_succ, hk]
    · rwa [turn_polls ht, Nat.add_right_comm, Nat.add_assoc]

theorem allBack_goesOn (hs : w.checkStop s = none) (ht : w.turn s = .goesOn s') :
    w.AllBack s ↔ w.AllBack s' := by
  constructor
  · intro h k t hk
    obtain ⟨d, r, ho, hl⟩ := h (k + 1) t (by rw [pollFrom_goesOn hs ht]; exact hk)
    exact ⟨d, r, by rwa [turn_polls ht, Nat.add_right_comm, Nat.add_assoc], hl⟩
  · intro h k t hk
    cases k with
    | zero =>
      rw [pollFrom_first hs] at hk
      cases hk
      obtain ⟨d, r, -, ho, -, hl, -⟩ := turn_goesOn ht
      exact ⟨d, r, ho, hl⟩
    | succ k =>
      rw [pollFrom_goesOn hs ht] at hk
      obtain ⟨d, r, ho, hl⟩ := h k t hk
      exact ⟨d, r, by rwa [turn_polls ht, Nat.add_right_comm, Nat.add_assoc] at ho, hl⟩

/-! ## The loop -/

/-- The deadline strikes before the first fetch. -/
theorem diagnosed_of_checkStop {e : Ending Result} (hs : w.checkStop s = some e) :
    w.Diagnosed s s.lastError := by
  have hnone : ∀ k fault, ¬ w.FailsAt s k fault := by
    rintro k fault ⟨t, d, hk, -⟩
    simp [pollFrom_stopped hs] at hk
  refine
    { latest := fun k fault h => absurd h (hnone k fault)
      unfinished := ?_
      allBack := fun _ _ => rfl
      either := .inr fun k t hk => ?_ }
  · rintro - ⟨k, t, hlen, -⟩
    simp [pollFrom_stopped hs] at hlen
  · simp [pollFrom_stopped hs] at hk

/-- The deadline strikes during the first fetch. -/
theorem diagnosed_of_late {e : Ending Result} (hs : w.checkStop s = none)
    (ht : w.turn s = .stops e)
    (hlate : ∀ d, (w.observe s.polls).time? = some d → w.limit ≤ s.now + d) :
    w.Diagnosed s (some (s.lastError.getD unfinishedFetch)) := by
  have hrun := pollFrom_stops hs ht
  have hunfinished : w.Unfinished s := ⟨0, s.now, by rw [hrun]; rfl, by rw [hrun]; rfl, hlate⟩
  have hnone : ∀ k fault, ¬ w.FailsAt s k fault := by
    rintro (_ | k) fault h
    · obtain ⟨d, ho, hl⟩ := (failsAt_zero hs).mp h
      have := hlate d (by rw [ho]; rfl)
      omega
    · obtain ⟨t, d, hk, -⟩ := h
      simp [hrun] at hk
  refine
    { latest := fun k fault h => absurd h (hnone k fault)
      unfinished := fun _ _ => rfl
      allBack := fun _ h => ?_
      either := .inl hunfinished }
  obtain ⟨d, r, ho, hl⟩ := h 0 s.now (pollFrom_first hs)
  have := hlate d (by rw [Nat.add_zero] at ho; rw [ho]; rfl)
  omega

/-- An error of the first fetch is remembered, and counts until a later fetch fails. -/
theorem Diagnosed.goesOn {last : Option String} (h : w.Diagnosed s' last)
    (hs : w.checkStop s = none) (ht : w.turn s = .goesOn s') : w.Diagnosed s last := by
  obtain ⟨d, r, p, ho, -, hl, -, -, hs'⟩ := turn_goesOn ht
  have hlast : s'.lastError = lastErrorOf r s.lastError := by rw [hs']
  have hlater : (∀ j fault', 0 < j → ¬ w.FailsAt s j fault') → ∀ j fault', ¬ w.FailsAt s' j fault' :=
    fun hnone j fault' hj => hnone (j + 1) fault' (Nat.succ_pos j) ((failsAt_succ hs ht).mpr hj)
  -- When the first fetch did not fail either, the error to remember is the one from before.
  have hkept : (∀ j fault', ¬ w.FailsAt s j fault') → s'.lastError = s.lastError := by
    intro hnone
    cases r with
    | error fault => exact absurd ((failsAt_zero hs).mpr ⟨d, ho, hl⟩) (hnone 0 fault)
    | ok _ => exact hlast
  refine
    { latest := ?latest
      unfinished := fun hnone hu => ?unfinished
      allBack := fun hnone hb => ?allBack
      either := ?either }
  case latest =>
    intro k fault hk hnone
    cases k with
    | zero =>
      obtain ⟨d', ho', -⟩ := (failsAt_zero hs).mp hk
      rw [ho] at ho'
      cases ho'
      rcases h.either with hu | hb
      · rw [h.unfinished (hlater hnone) hu, hlast]
        rfl
      · rw [h.allBack (hlater hnone) hb, hlast]
        rfl
    | succ k =>
      exact h.latest k fault ((failsAt_succ hs ht).mp hk) fun j fault' hj hfails =>
        hnone (j + 1) fault' (Nat.succ_lt_succ hj) ((failsAt_succ hs ht).mpr hfails)
  case unfinished =>
    rw [h.unfinished (hlater fun j fault' _ => hnone j fault') ((unfinished_goesOn hs ht).mp hu),
      hkept hnone]
  case allBack =>
    rw [h.allBack (hlater fun j fault' _ => hnone j fault') ((allBack_goesOn hs ht).mp hb),
      hkept hnone]
  case either =>
    exact h.either.imp (unfinished_goesOn hs ht).mpr (allBack_goesOn hs ht).mpr

theorem pollFrom_diagnosed (w : Wait) (s : State) {t : Nat} {tok : Token} {d : Span} {polls : UInt32}
    {last : Option String}
    (h : (w.pollFrom s).ending = .returned t tok (.error (.deadlineExceeded d polls last))) :
    w.Diagnosed s last := by
  fun_induction pollFrom w s with
  | case1 s e hs =>
    rcases checkStop_eq_some hs with ⟨-, rfl⟩ | ⟨-, rfl⟩
    · cases h
    · cases h
      exact diagnosed_of_checkStop hs
  | case2 s hs e ht =>
    have hturn : w.turn s = .stops (.returned t tok (.error (.deadlineExceeded d polls last))) :=
      ht.trans (congrArg _ h)
    obtain ⟨rfl, hlate⟩ := turn_exceeded hturn
    exact diagnosed_of_late hs ht hlate
  | case3 s hs s' ht later ih => exact (ih h).goesOn hs ht

end Wait

/-! ## The wait under a spec -/

namespace Condition

/-- The `n`-th fetch of a condition comes back after `d` ticks with an error. -/
def FailsAfter (source : StateSource) (n d : Nat) (fault : Fault) : Condition → Prop
  | readyReplicas name _ => source.readyReplicas name n = .answers d (.error fault)
  | podPhase name _ => source.podState name n = .answers d (.error fault)

/-- The `n`-th fetch of a condition comes back after `d` ticks, if only in a panic. -/
def BackAfter (source : StateSource) (n d : Nat) : Condition → Prop
  | readyReplicas name _ => (source.readyReplicas name n).time? = some d
  | podPhase name _ => (source.podState name n).time? = some d

theorem failsAfter_iff {source : StateSource} {n d : Nat} {fault : Fault} {c : Condition} :
    c.FailsAfter source n d fault ↔ c.observe source n = .answers d (.error fault) := by
  cases c with
  | readyReplicas name replicas =>
    rcases h : source.readyReplicas name n with ⟨k, e | r⟩ | _ | _ <;>
      simp [FailsAfter, observe, h, Reply.map, Except.map]
  | podPhase name phase =>
    rcases h : source.podState name n with ⟨k, e | r⟩ | _ | _ <;>
      simp [FailsAfter, observe, h, Reply.map, Except.map]

theorem backAfter_iff {source : StateSource} {n d : Nat} {c : Condition} :
    c.BackAfter source n d ↔ (c.observe source n).time? = some d := by
  cases c <;> simp only [BackAfter, observe, Reply.time?_map]

end Condition

namespace WaitSpec

section
variable (s : WaitSpec) (c : Condition) (source : StateSource)

/-- The `k`-th fetch of a run comes back with an error before the deadline. -/
def Failed (run : Course Fetch Wait.Result) (k : Nat) (fault : Fault) : Prop :=
  ∃ (t : Nat) (f : Fetch) (d : Nat), run.calls[k]? = some (t, f) ∧ c.FailsAfter source k d fault ∧
    Span.ofMillis (t + d) < s.deadline

/-- The last fetch of a run does not come back before the deadline, so that this strikes while the fetch
is under way. -/
def Outstanding (run : Course Fetch Wait.Result) : Prop :=
  ∃ (k t : Nat) (f : Fetch), run.calls.length = k + 1 ∧ run.calls[k]? = some (t, f) ∧
    ∀ d, c.BackAfter source k d → s.deadline ≤ Span.ofMillis (t + d)

/-- Each fetch of a run comes back before the deadline, so that this strikes between two fetches. -/
def AllAnswered (run : Course Fetch Wait.Result) : Prop :=
  ∀ (k t : Nat) (f : Fetch), run.calls[k]? = some (t, f) →
    ∃ d, c.AnswersAfter source k d ∧ Span.ofMillis (t + d) < s.deadline

structure Diagnosed (run : Course Fetch Wait.Result) (last : Option String) : Prop where
  /-- The text of the latest fetch that failed, whatever the fetches behind it have found. -/
  latest : ∀ k fault, s.Failed c source run k fault →
    (∀ j fault', k < j → ¬ s.Failed c source run j fault') → last = some fault.text
  /-- Without such a fetch, a stand-in if the deadline strikes while a fetch is under way. -/
  outstanding : (∀ k fault, ¬ s.Failed c source run k fault) → s.Outstanding c source run →
    last = some "fetch did not complete before the deadline"
  /-- Without such a fetch, nothing if the deadline strikes between two fetches. -/
  between : (∀ k fault, ¬ s.Failed c source run k fault) → s.AllAnswered c source run → last = none
  /-- The deadline strikes in one of these places. -/
  either : s.Outstanding c source run ∨ s.AllAnswered c source run

end

variable {s : WaitSpec} {c : Condition} {source : StateSource} {delay : Schedule} {token : Token}

/-! Each of these is what it is for the loop. -/

theorem failed_iff {k : Nat} {fault : Fault} :
    let w := s.waitFor c source delay token
    s.Failed c source (w.pollFrom ⟨0, 0, none⟩) k fault ↔ w.FailsAt ⟨0, 0, none⟩ k fault := by
  intro w
  constructor
  · rintro ⟨t, f, d, hk, hf, hl⟩
    obtain rfl := (Wait.mem_pollFrom hk).1
    refine ⟨t, d, hk, ?_, Span.ofMillis_lt_iff.mp hl⟩
    rw [Nat.zero_add]
    exact Condition.failsAfter_iff.mp hf
  · rintro ⟨t, d, hk, ho, hl⟩
    rw [Nat.zero_add] at ho
    exact ⟨t, _, d, hk, Condition.failsAfter_iff.mpr ho, Span.ofMillis_lt_iff.mpr hl⟩

theorem le_ofMillis_iff {d : Span} {t : Nat} : d ≤ Span.ofMillis t ↔ d.ticks ≤ t := by
  rw [← Nat.not_lt, ← Span.ofMillis_lt_iff]
  exact Nat.not_lt.symm

theorem outstanding_iff :
    let w := s.waitFor c source delay token
    s.Outstanding c source (w.pollFrom ⟨0, 0, none⟩) ↔ w.Unfinished ⟨0, 0, none⟩ := by
  intro w
  constructor
  · rintro ⟨k, t, f, hlen, hk, hlate⟩
    obtain rfl := (Wait.mem_pollFrom hk).1
    refine ⟨k, t, hlen, hk, fun d hd => ?_⟩
    rw [Nat.zero_add] at hd
    exact le_ofMillis_iff.mp (hlate d (Condition.backAfter_iff.mpr hd))
  · rintro ⟨k, t, hlen, hk, hlate⟩
    refine ⟨k, t, _, hlen, hk, fun d hd => le_ofMillis_iff.mpr (hlate d ?_)⟩
    rw [Nat.zero_add]
    exact Condition.backAfter_iff.mp hd

theorem allAnswered_iff :
    let w := s.waitFor c source delay token
    s.AllAnswered c source (w.pollFrom ⟨0, 0, none⟩) ↔ w.AllBack ⟨0, 0, none⟩ := by
  intro w
  constructor
  · intro h k t hk
    obtain ⟨d, ha, hl⟩ := h k t _ hk
    obtain ⟨r, ho⟩ := Condition.answersAfter_iff.mp ha
    exact ⟨d, r, by rw [Nat.zero_add]; exact ho, Span.ofMillis_lt_iff.mp hl⟩
  · intro h k t f hk
    obtain rfl := (Wait.mem_pollFrom hk).1
    obtain ⟨d, r, ho, hl⟩ := h k t hk
    rw [Nat.zero_add] at ho
    exact ⟨d, Condition.answersAfter_iff.mpr ⟨r, ho⟩, Span.ofMillis_lt_iff.mpr hl⟩

/-- A wait that exceeds its deadline reports the error of the latest fetch that failed. If none failed, it
tells whether the deadline struck while a fetch was under way or between two fetches. -/
theorem waitOn_diagnosed (s : WaitSpec) (c : Condition) (hc : s.resolve = .ok c) (source : StateSource)
    (delay : Schedule) (token token' : Token) (t : Nat) (limit : Span) (polls : UInt32)
    (last : Option String)
    (h : (s.waitOn source delay token).ending =
      .returned t token' (.error (.deadlineExceeded limit polls last))) :
    s.Diagnosed c source (s.waitOn source delay token) last := by
  cases hd : fitsClock 0 s.deadline with
  | false =>
    simp only [waitOn, hc, hd, Bool.false_eq_true, if_false] at h
    cases h
  | true =>
    rw [waitOn_of_resolve hc hd] at h ⊢
    have hloop := Wait.pollFrom_diagnosed _ _ h
    exact
      { latest := fun k fault hk hnone => hloop.latest k fault (failed_iff.mp hk)
          fun j fault' hj hfails => hnone j fault' hj (failed_iff.mpr hfails)
        outstanding := fun hnone hu => hloop.unfinished
          (fun k fault hk => hnone k fault (failed_iff.mpr hk)) (outstanding_iff.mp hu)
        between := fun hnone hb => hloop.allBack
          (fun k fault hk => hnone k fault (failed_iff.mpr hk)) (allAnswered_iff.mp hb)
        either := hloop.either.imp outstanding_iff.mpr allAnswered_iff.mpr }

/-- The first fetch is refused, and all others find no replica ready. -/
def refusedOnce : StateSource :=
  ⟨fun _ n => .answers 3 (if n = 0 then .error (.message "refused") else .ok 0), fun _ _ => .hangs⟩

/-- The wait for a deployment within twenty ticks, with pauses of ten. -/
def brief : WaitSpec := .deployment "smoketest" 2 (Span.ofMillis 20)

theorem waitOn_diagnosed_refused :
    let delay : Schedule := fun _ => .ok ⟨Span.ofMillis 10, by decide⟩
    let run := brief.waitOn refusedOnce delay .never
    run.ending = .returned 20 .never
        (.error (.deadlineExceeded (Span.ofMillis 20) 2 (some "refused"))) ∧
      brief.Diagnosed (.readyReplicas "smoketest" 2) refusedOnce run (some "refused") := by
  intro delay run
  let w := brief.waitFor (.readyReplicas "smoketest" 2) refusedOnce delay .never
  have hrun : run = w.pollFrom ⟨0, 0, none⟩ := waitOn_of_resolve rfl (by decide +kernel) ..
  have hpause : ∀ t n u, fitsClock t (Span.ofMillis 10) = true → min (t + 10) 20 = u →
      w.pause t n = .ok u := by
    intro t n u hfits hu
    exact (if_pos hfits).trans (congrArg Except.ok hu)
  have hfirst : w.turn ⟨0, 0, none⟩ = .goesOn ⟨13, 1, some "refused"⟩ :=
    (Wait.turn_of_vain (x := .error (.message "refused")) rfl nofun).trans
      (Wait.rest_of_ok (by decide +kernel) rfl (hpause 3 0 13 (by decide +kernel) rfl) rfl)
  have hsecond : w.turn ⟨13, 1, some "refused"⟩ = .goesOn ⟨20, 2, some "refused"⟩ :=
    (Wait.turn_of_vain (x := .ok false) rfl nofun).trans
      (Wait.rest_of_ok (by decide +kernel) rfl (hpause 16 1 20 (by decide +kernel) rfl) rfl)
  have hend : run.ending = .returned 20 .never
      (.error (.deadlineExceeded (Span.ofMillis 20) 2 (some "refused"))) := by
    rw [hrun, Wait.pollFrom_goesOn (Wait.checkStop_of_lt rfl (by decide +kernel)) hfirst,
      Wait.pollFrom_goesOn (Wait.checkStop_of_lt rfl (by decide +kernel)) hsecond,
      Wait.pollFrom_stopped rfl]
    rfl
  exact ⟨hend, waitOn_diagnosed brief (.readyReplicas "smoketest" 2) rfl refusedOnce delay .never
    .never 20 (Span.ofMillis 20) 2 (some "refused") hend⟩

end WaitSpec
end Checkup
