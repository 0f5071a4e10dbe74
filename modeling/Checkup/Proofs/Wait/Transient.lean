import Checkup.Proofs.Wait.Turn

/-!
# Fetches that fail

A fetch that fails and a fetch that finds the condition unmet come to the same: the loop goes on. So two
sources that take the same times and differ only in which of the two happens make for the same wait. The
one thing that tells them apart is the error that is remembered for diagnosis.

Nothing is assumed of the schedule and the token, nor of the clock: two waits of which one breaks off in a
panic do so both.

Results:
* `turn_alike`: one turn of the loop ends both waits alike, or leaves them at the same tick and count.
* `pollFrom_alike`: the whole loops make the same fetches at the same ticks and end alike.
* `waitOn_blind_to_faults`: the same for the wait under a spec, in terms of the two sources.
-/
namespace Checkup

/-- Two replies that take the same time and are the same, unless one brings an error and the other a value
that is not wanted. -/
inductive Reply.SameIfWanted {α : Type} (wanted : α → Prop) : Reply α → Reply α → Prop where
  | same (r : Reply α) : SameIfWanted wanted r r
  | failed {d : Nat} {e : Fault} {v : α} : ¬ wanted v →
      SameIfWanted wanted (.answers d (.error e)) (.answers d (.ok v))
  | recovered {d : Nat} {e : Fault} {v : α} : ¬ wanted v →
      SameIfWanted wanted (.answers d (.ok v)) (.answers d (.error e))

/-- Two sources that differ, as far as a condition is concerned, only in fetches that fail in one of them
and do not meet the condition in the other. -/
def Condition.Confuses (source source' : StateSource) : Condition → Prop
  | readyReplicas name replicas => ∀ n,
      (source.readyReplicas name n).SameIfWanted (· = replicas) (source'.readyReplicas name n)
  | podPhase name .running => ∀ n,
      (source.podState name n).SameIfWanted (·.phase = some "Running") (source'.podState name n)
  | podPhase name .completed => ∀ n,
      (source.podState name n).SameIfWanted (·.terminatedReason = some "Completed")
        (source'.podState name n)

/-- Two waits end alike: in the same way, but for the last error behind an exceeded deadline. -/
inductive WaitSpec.EndsAlike : Ending Wait.Result → Ending Wait.Result → Prop where
  | same (e : Ending Wait.Result) : EndsAlike e e
  | timedOut (t : Nat) (tok : Token) (deadline : Span) (polls : UInt32) (last last' : Option String) :
      EndsAlike (.returned t tok (.error (.deadlineExceeded deadline polls last)))
        (.returned t tok (.error (.deadlineExceeded deadline polls last')))

/-- Both replies come back, and neither with what was waited for. -/
def Reply.InVain (r r' : Reply Bool) : Prop :=
  ∃ d x x', r = .answers d x ∧ r' = .answers d x' ∧ x ≠ .ok true ∧ x' ≠ .ok true

theorem Reply.SameIfWanted.map {α : Type} {wanted : α → Prop} {f : α → Bool}
    (hf : ∀ v, f v = true → wanted v) {r r' : Reply α} (h : r.SameIfWanted wanted r') :
    r.map f = r'.map f ∨ (r.map f).InVain (r'.map f) := by
  cases h with
  | same => exact .inl rfl
  | @failed d e v hv =>
    have : f v = false := Bool.eq_false_iff.mpr fun h => hv (hf v h)
    exact .inr ⟨d, _, _, rfl, rfl, by simp [Except.map], by simp [Except.map, this]⟩
  | @recovered d e v hv =>
    have : f v = false := Bool.eq_false_iff.mpr fun h => hv (hf v h)
    exact .inr ⟨d, _, _, rfl, rfl, by simp [Except.map, this], by simp [Except.map]⟩

theorem Condition.Confuses.observe {c : Condition} {source source' : StateSource}
    (h : c.Confuses source source') (n : Nat) :
    c.observe source n = c.observe source' n ∨ (c.observe source n).InVain (c.observe source' n) := by
  match c with
  | readyReplicas name replicas => exact (h n).map (by simp)
  | podPhase name .running => exact (h n).map (by simp [podIs])
  | podPhase name .completed => exact (h n).map (by simp [podIs])

namespace Wait

open WaitSpec (EndsAlike)

/-- Two loops that differ only in what fetches bring that are of no avail. -/
structure Alike (w w' : Wait) : Prop where
  fetch : w.fetch = w'.fetch
  delay : w.delay = w'.delay
  deadline : w.deadline = w'.deadline
  limit : w.limit = w'.limit
  token : w.token = w'.token
  observe : ∀ n, w.observe n = w'.observe n ∨ (w.observe n).InVain (w'.observe n)

/-- Two states that differ in the last error at most. -/
def State.Alike (s s' : State) : Prop := s.now = s'.now ∧ s.polls = s'.polls

inductive Turn.Alike : Turn → Turn → Prop where
  | stops {e e' : Ending Result} : EndsAlike e e' → Turn.Alike (.stops e) (.stops e')
  | goesOn {s s' : State} : s.Alike s' → Turn.Alike (.goesOn s) (.goesOn s')

variable {w w' : Wait} {s s' : State}

theorem timedOut_alike (h : w.Alike w') (t : Nat) (hs : s.polls = s'.polls) :
    EndsAlike (w.timedOut t s) (w'.timedOut t s') := by
  simp only [timedOut, finish, State.counted, h.token, h.deadline, hs]
  exact .timedOut ..

theorem cancelled_alike (t : Nat) (hs : s.polls = s'.polls) :
    EndsAlike (cancelled t s) (cancelled t s') := by
  simp only [cancelled, State.counted, hs]
  exact .same _

/-- The checks of the token and the deadline come out alike. -/
theorem checkStop_alike (h : w.Alike w') (hs : s.Alike s') :
    (w.checkStop s = none ∧ w'.checkStop s' = none) ∨
      ∃ e e', w.checkStop s = some e ∧ w'.checkStop s' = some e' ∧ EndsAlike e e' := by
  obtain ⟨hnow, hpolls⟩ := hs
  unfold checkStop
  rw [h.token, h.limit, hnow]
  by_cases hf : w'.token.firesBefore s'.now = true
  · simp only [hf, if_true]
    exact .inr ⟨_, _, rfl, rfl, cancelled_alike _ hpolls⟩
  · by_cases hl : w'.limit ≤ s'.now
    · simp only [hf, hl, if_true]
      exact .inr ⟨_, _, rfl, rfl, timedOut_alike h _ hpolls⟩
    · simp only [hf, hl, if_false]
      exact .inl ⟨rfl, rfl⟩

theorem checkStop_alike_none (h : w.Alike w') (hs : s.Alike s') (hc : w.checkStop s = none) :
    w'.checkStop s' = none := by
  rcases checkStop_alike h hs with ⟨-, hc'⟩ | ⟨e, -, he, -, -⟩
  · exact hc'
  · rw [hc] at he
    cases he

/-- Two fetches end in the same way, or both come back in vain at the same tick. -/
theorem poll_alike (h : w.Alike w') (now n : Nat) :
    w.poll now n = w'.poll now n ∨
      ∃ t x x', w.poll now n = .answered t x ∧ w'.poll now n = .answered t x' ∧
        x ≠ .ok true ∧ x' ≠ .ok true := by
  unfold poll
  rw [h.token, h.limit]
  rcases h.observe n with ho | ⟨d, x, x', ho, ho', hx, hx'⟩
  · rw [ho]
    exact .inl rfl
  · rw [ho, ho']
    by_cases hf : w'.token.firesBefore (min (now + d) w'.limit) = true
    · exact .inl (by simp only [hf, if_true])
    · by_cases hl : now + d < w'.limit
      · simp only [hf, hl, if_true]
        exact .inr ⟨now + d, x, x', rfl, rfl, hx, hx'⟩
      · exact .inl (by simp only [hf, hl, if_false])

theorem rest_alike (h : w.Alike w') (n : Nat) (hs : s.Alike s') :
    Turn.Alike (w.rest n s) (w'.rest n s') := by
  unfold rest
  rcases checkStop_alike h hs with ⟨hc, hc'⟩ | ⟨e, e', hc, hc', he⟩
  · obtain ⟨hnow, hpolls⟩ := hs
    have hpause : w.pause s.now n = w'.pause s'.now n := by
      unfold pause
      rw [h.delay, h.limit, hnow]
    rw [hc, hc', hpause, hnow, h.token]
    dsimp only
    cases w'.pause s'.now n with
    | error p => exact .stops (.same _)
    | ok u =>
      by_cases hf : w'.token.firesBefore u = true
      · simp only [hf, if_true]
        exact .stops (cancelled_alike _ hpolls)
      · simp only [hf]
        exact .goesOn ⟨rfl, hpolls⟩
  · rw [hc, hc']
    exact .stops he

theorem turn_alike (h : w.Alike w') (hs : s.Alike s') : Turn.Alike (w.turn s) (w'.turn s') := by
  obtain ⟨hnow, hpolls⟩ := hs
  rcases poll_alike h s'.now s'.polls with hp | ⟨t, x, x', hp, hp', hx, hx'⟩
  · -- The fetches end in the same way; only what was remembered before them may differ.
    unfold turn
    rw [hnow, hpolls, hp]
    cases w'.poll s'.now s'.polls with
    | cancelled =>
      rw [h.token]
      exact .stops (.same _)
    | timedOut =>
      rw [h.limit]
      exact .stops (timedOut_alike h _ rfl)
    | panicked t p => exact .stops (.same _)
    | answered t x =>
      rcases x with e | (_ | _)
      · exact rest_alike h _ ⟨rfl, rfl⟩
      · exact rest_alike h _ ⟨rfl, rfl⟩
      · simp only [finish, h.token]
        exact .stops (.same _)
  · -- Both come back in vain, so both turns are what is left of them.
    rw [← hnow, ← hpolls] at hp
    rw [turn_of_vain hp hx, turn_of_vain hp' hx', hpolls]
    exact rest_alike h _ ⟨rfl, rfl⟩

theorem pollFrom_alike (h : w.Alike w') (hs : s.Alike s') :
    (w.pollFrom s).calls = (w'.pollFrom s').calls ∧
      EndsAlike (w.pollFrom s).ending (w'.pollFrom s').ending := by
  induction s using pollFrom.induct w generalizing s' with
  | case1 s e hc =>
    rw [pollFrom_stopped hc]
    rcases checkStop_alike h hs with ⟨hn, -⟩ | ⟨e₁, e', hc₁, hc', he⟩
    · rw [hc] at hn
      cases hn
    · rw [hc] at hc₁
      cases hc₁
      rw [pollFrom_stopped hc']
      exact ⟨rfl, he⟩
  | case2 s hc e ht =>
    rw [pollFrom_stops hc ht]
    have hc' := checkStop_alike_none h hs hc
    have halike := turn_alike h hs
    rw [ht] at halike
    cases ht' : w'.turn s' with
    | stops e' =>
      rw [ht'] at halike
      cases halike with
      | stops he =>
        rw [pollFrom_stops hc' ht', hs.1, h.fetch]
        exact ⟨rfl, he⟩
    | goesOn s₁ =>
      rw [ht'] at halike
      cases halike
  | case3 s hc s₁ ht ih =>
    rw [pollFrom_goesOn hc ht]
    have hc' := checkStop_alike_none h hs hc
    have halike := turn_alike h hs
    rw [ht] at halike
    cases ht' : w'.turn s' with
    | stops e' =>
      rw [ht'] at halike
      cases halike
    | goesOn s₁' =>
      rw [ht'] at halike
      cases halike with
      | goesOn hs₁ =>
        obtain ⟨hcalls, hend⟩ := ih hs₁
        rw [pollFrom_goesOn hc' ht', hs.1, h.fetch]
        exact ⟨congrArg ((s'.now, w'.fetch) :: ·) hcalls, hend⟩

end Wait

namespace WaitSpec

/-- Two sources that take the same times and agree, but that here and there one fails where the other
brings a state that does not meet the condition, make for waits with the same fetches at the same ticks
and with the same end; the two may differ in the last error of an exceeded deadline. -/
theorem waitOn_blind_to_faults (s : WaitSpec) (c : Condition) (hc : s.resolve = .ok c)
    (source source' : StateSource) (h : c.Confuses source source') (delay : Schedule) (token : Token) :
    (s.waitOn source delay token).calls = (s.waitOn source' delay token).calls ∧
      EndsAlike (s.waitOn source delay token).ending (s.waitOn source' delay token).ending := by
  unfold waitOn
  rw [hc]
  dsimp only
  split
  · have hw : (s.waitFor c source delay token).Alike (s.waitFor c source' delay token) :=
      ⟨rfl, rfl, rfl, rfl, rfl, h.observe⟩
    exact Wait.pollFrom_alike hw ⟨rfl, rfl⟩
  · exact ⟨rfl, .same _⟩

/-- A source that never has enough replicas ready, and one that fails in every other fetch, polled every
ten milliseconds up to a deadline of 200. -/
theorem waitOn_blind_to_faults_failing :
    let spec := WaitSpec.deployment "smoketest" 2 (Span.ofMillis 200)
    let source : StateSource := ⟨fun _ _ => .answers 3 (.ok 1), fun _ _ => .hangs⟩
    let source' : StateSource :=
      ⟨fun _ n => .answers 3 (if n % 2 = 0 then .error (.message "gone") else .ok 1), fun _ _ => .hangs⟩
    let delay : Schedule := fun _ => .ok ⟨Span.ofMillis 10, by decide⟩
    (spec.waitOn source delay .never).calls = (spec.waitOn source' delay .never).calls ∧
      EndsAlike (spec.waitOn source delay .never).ending (spec.waitOn source' delay .never).ending := by
  intro spec source source' delay
  refine waitOn_blind_to_faults spec (.readyReplicas "smoketest" 2) rfl source source' (fun n => ?_)
    delay .never
  show Reply.SameIfWanted (· = 2) (.answers 3 (.ok 1))
    (.answers 3 (if n % 2 = 0 then .error (.message "gone") else .ok 1))
  split
  · exact .recovered (by decide)
  · exact .same _

end WaitSpec
end Checkup
