import Checkup.Proofs.Wait.Resolution
import Checkup.Proofs.Wait.Turn

/-!
# The wait under a spec

What a spec resolves to, and the loop that it runs then.

**Assumptions.** The clock can show the deadline and the end of every pause that begins before it
(`WaitSpec.Representable`).

Results:
* `deadline_pos`: a spec that resolves has a deadline ahead.
* `answersAfter_iff`, `metAfter_iff` and `vain_iff`: how a fetch goes, in terms of the source that is
  asked and of what counts as meeting the condition.
* `waitOn_drives`: the wait under a spec is the loop that the spec describes, as the structure `Drives`.
-/
namespace Checkup

namespace WaitSpec

theorem deadline_pos {s : WaitSpec} {c : Condition} (h : s.resolve = .ok c) :
    s.deadline.nanos ≠ 0 := (resolve_eq_ok.mp h).2.1

end WaitSpec

namespace Condition

/-- The `n`-th fetch of a condition comes back after `d` ticks with a state or an error. -/
def AnswersAfter (source : StateSource) (n d : Nat) : Condition → Prop
  | readyReplicas name _ => ∃ r, source.readyReplicas name n = .answers d r
  | podPhase name _ => ∃ r, source.podState name n = .answers d r

/-- The `n`-th fetch of a condition comes back after `d` ticks with a state that meets it: exactly the
number of ready replicas, the phase of a running pod, or the reason why a completed one ended. -/
def MetAfter (source : StateSource) (n d : Nat) : Condition → Prop
  | readyReplicas name replicas => source.readyReplicas name n = .answers d (.ok replicas)
  | podPhase name .running =>
    ∃ reason, source.podState name n = .answers d (.ok ⟨some "Running", reason⟩)
  | podPhase name .completed =>
    ∃ phase, source.podState name n = .answers d (.ok ⟨phase, some "Completed"⟩)

theorem answersAfter_iff {source : StateSource} {n d : Nat} {c : Condition} :
    c.AnswersAfter source n d ↔ ∃ r, c.observe source n = .answers d r := by
  cases c with
  | readyReplicas name replicas =>
    cases h : source.readyReplicas name n <;> simp [AnswersAfter, observe, h, Reply.map]
  | podPhase name phase =>
    cases h : source.podState name n <;> simp [AnswersAfter, observe, h, Reply.map]

theorem metAfter_iff {source : StateSource} {n d : Nat} {c : Condition} :
    c.MetAfter source n d ↔ c.observe source n = .answers d (.ok true) := by
  cases c with
  | readyReplicas name replicas =>
    rcases h : source.readyReplicas name n with ⟨k, e | r⟩ | _ | _ <;>
      simp [MetAfter, observe, h, Reply.map, Except.map]
  | podPhase name phase =>
    rcases h : source.podState name n with ⟨k, e | ⟨ph, reason⟩⟩ | _ | _ <;> cases phase <;>
      simp [MetAfter, observe, podIs, h, Reply.map, Except.map]

/-- A fetch comes back only once. -/
theorem MetAfter.of_answers {source : StateSource} {n d d' : Nat} {c : Condition}
    (h : c.MetAfter source n d) (ha : c.AnswersAfter source n d') : c.MetAfter source n d' := by
  rw [metAfter_iff] at h ⊢
  obtain ⟨r, hr⟩ := answersAfter_iff.mp ha
  rw [h] at hr; cases hr; exact h

/-- A fetch that came back in vain, in terms of the source. -/
theorem vain_iff {source : StateSource} {n d : Nat} {c : Condition} :
    (c.AnswersAfter source n d ∧ ¬ c.MetAfter source n d) ↔
      ∃ r, c.observe source n = .answers d r ∧ r ≠ .ok true := by
  rw [answersAfter_iff, metAfter_iff]
  constructor
  · rintro ⟨⟨r, hr⟩, hn⟩
    exact ⟨r, hr, fun h => hn (h ▸ hr)⟩
  · rintro ⟨r, hr, hn⟩
    refine ⟨⟨r, hr⟩, fun h => hn ?_⟩
    rw [hr] at h; cases h; rfl

end Condition

/-! ## The loop of a spec -/

namespace WaitSpec

section
variable (s : WaitSpec) (c : Condition) (source : StateSource) (delays : Nat → Delay)

/-- The clock can show the deadline, and the end of each delay that begins before the deadline. -/
structure Representable : Prop where
  deadline : fitsClock 0 s.deadline = true
  delays : ∀ n t, t < s.deadline.ticks → fitsClock t (delays n).span = true

/-- A loop is the one that waits for a condition under a spec, with its schedule and its token. -/
structure Drives (cancelAt : Option Nat) (w : Wait) : Prop where
  fetch : w.fetch = c.fetch
  observe : ∀ n, w.observe n = c.observe source n
  delay : ∀ n, w.delay n = .ok (delays n)
  deadline : w.deadline = s.deadline
  limit : w.limit = s.deadline.ticks
  token : w.token = .ofTime cancelAt
  fits : w.Fits

end

variable {s : WaitSpec} {c : Condition} {source : StateSource} {delays : Nat → Delay}
  {cancelAt : Option Nat} {w : Wait}

theorem waitOn_of_resolve (h : s.resolve = .ok c) (hd : fitsClock 0 s.deadline = true)
    (source : StateSource) (delay : Schedule) (tok : Token) :
    s.waitOn source delay tok = (s.waitFor c source delay tok).pollFrom ⟨0, 0, none⟩ := by
  simp [waitOn, h, hd]

theorem fits_waitFor (h : s.Representable delays) (c : Condition) (source : StateSource)
    (tok : Token) : (s.waitFor c source (fun n => .ok (delays n)) tok).Fits :=
  fun n t ht => ⟨delays n, rfl, h.delays n t ht⟩

theorem waitOn_drives (hc : s.resolve = .ok c) (hr : s.Representable delays) (source : StateSource)
    (cancelAt : Option Nat) :
    ∃ w, s.Drives c source delays cancelAt w ∧
      s.waitOn source (fun n => .ok (delays n)) (.ofTime cancelAt) = w.pollFrom ⟨0, 0, none⟩ :=
  ⟨s.waitFor c source (fun n => .ok (delays n)) (.ofTime cancelAt),
    { fetch := rfl
      observe := fun _ => rfl
      delay := fun _ => rfl
      deadline := rfl
      limit := limit_waitFor ..
      token := rfl
      fits := fits_waitFor hr c source _ },
    waitOn_of_resolve hc hr.deadline source _ _⟩

namespace Drives

theorem observe_zero_add (hw : s.Drives c source delays cancelAt w) (k : Nat) :
    w.observe (0 + k) = c.observe source k := by rw [hw.observe, Nat.zero_add]

theorem delay_zero_add (hw : s.Drives c source delays cancelAt w) (k : Nat) :
    w.delay (0 + k) = .ok (delays k) := by rw [hw.delay, Nat.zero_add]

theorem ofMillis_lt (hw : s.Drives c source delays cancelAt w) {t : Nat} :
    Span.ofMillis t < s.deadline ↔ t < w.limit := by rw [Span.ofMillis_lt_iff, hw.limit]

theorem time?_token (hw : s.Drives c source delays cancelAt w) : w.token.time? = cancelAt := by
  rw [hw.token, Token.time?_ofTime]

/-- The token has not fired by a tick before the one in which it does. -/
theorem firesBefore (hw : s.Drives c source delays cancelAt w) {t : Nat}
    (h : ∀ a, cancelAt = some a → t < a) : w.token.firesBefore t = false := by
  rw [hw.token]
  exact Token.firesBefore_ofTime fun a ha => ⟨by have := h a ha; omega, Nat.le_of_lt (h a ha)⟩

end Drives
end WaitSpec
end Checkup
