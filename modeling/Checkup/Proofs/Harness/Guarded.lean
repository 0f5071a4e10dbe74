import Checkup.Harness
import Checkup.Proofs.Timed.Basic

/-!
# One probe within its limits

What the harness makes of a single probe.

**Assumptions.** The clock can show the limits at the tick at which the probe starts (`Limits.FitAt`). The
probe is any: it may return, panic or hang, and heed its token or not.

Results:
* `guarded_eq`: it makes no difference at which tick of a run a probe starts.
* `guarded_ne_panicked` and `guarded_token`: no panic gets out of a probe, and the token behind it is the
  one before it, looked at later; nothing that a probe does to its own token is seen.
* `guarded_atOnce`: a probe that ends at once is not touched by any limit.
* `guarded_failed`: a probe that panics, or that has to be abandoned, is a failed leaf under its own name.
-/
namespace Checkup

/-- The clock can show the limits of a probe that starts at a tick. -/
def Limits.FitAt (limits : Limits) (now : Nat) : Prop :=
  ∀ limit, limits.probeTimeout = some limit →
    fitsClock now limit = true ∧ fitsClock (now + limit.ticks) limits.cleanupGrace = true

theorem Limits.FitAt.mono {limits : Limits} {now now' : Nat} (h : now ≤ now')
    (hfit : limits.FitAt now') : limits.FitAt now := by
  intro limit hlimit
  obtain ⟨hl, hg⟩ := hfit limit hlimit
  exact ⟨fitsClock_mono h (Nat.le_refl _) hl,
    fitsClock_mono (Nat.add_le_add_right h _) (Nat.le_refl _) hg⟩

/-- A failed leaf with the key and the name of a probe. -/
structure Node.FailedLeaf (key name : String) (node : Node) : Prop where
  key : node.key = some key
  name : node.name = name
  failed : node.passed = false
  leaf : node.children = []

namespace Probe

variable {ε : Type} (p : Probe ε) (limits : Limits) (tok : Token)

/-- The probe is still at work when a limit is over. -/
def Overruns (limit : Span) : Prop :=
  limits.probeTimeout = some limit ∧ ∀ t, (p.run tok).ending.time? = some t → limit.ticks < t

/-- The probe panics: within its time, or within the grace period after the limit has fired its token. -/
def Panics : Prop :=
  (∃ t q, (p.run tok).ending = .panicked t q ∧
    ∀ limit, limits.probeTimeout = some limit → t ≤ limit.ticks) ∨
  ∃ limit t q, p.Overruns limits tok limit ∧
    (p.run (tok.within limit.ticks)).ending = .panicked t q ∧
    t ≤ limit.ticks + limits.cleanupGrace.ticks

/-- The probe overruns its limit, and is still at work when the grace period is over. -/
def Abandoned : Prop :=
  ∃ limit, p.Overruns limits tok limit ∧
    ∀ t, (p.run (tok.within limit.ticks)).ending.time? = some t →
      limit.ticks + limits.cleanupGrace.ticks < t

variable {p : Probe ε} {limits : Limits} {tok : Token} {now : Nat}

/-- The tick of the run at which a probe starts makes no difference. -/
theorem guarded_eq (h : limits.FitAt now) : p.guarded limits now = p.guarded limits 0 := by
  funext tok
  unfold guarded
  cases hl : limits.probeTimeout with
  | none => rfl
  | some limit =>
    obtain ⟨hlimit, hgrace⟩ := h limit hl
    obtain ⟨hlimit', hgrace'⟩ := h.mono (Nat.zero_le now) limit hl
    simp only [Span.ticksFrom_eq, hlimit, hlimit', hgrace, hgrace']

theorem settle_ne_panicked (e : Ending Node) (t : Nat) (q : Panic) :
    p.settle tok e ≠ .panicked t q := by
  cases e <;> exact nofun

theorem settle_token {e : Ending Node} {t : Nat} {tok' : Token} {node : Node}
    (h : p.settle tok e = .returned t tok' node) : tok' = tok.next t := by
  cases e <;> cases h <;> rfl

theorem settleLate_ne_panicked (limit : Span) (last : Option Nat) (c : Course ε Node) (t : Nat)
    (q : Panic) : (p.settleLate limit tok last c).ending ≠ .panicked t q := by
  unfold settleLate
  dsimp only
  split
  · split <;> exact nofun
  · split <;> exact nofun
  · split <;> exact nofun

theorem settleLate_token {limit : Span} {last : Option Nat} {c : Course ε Node} {t : Nat}
    {tok' : Token} {node : Node}
    (h : (p.settleLate limit tok last c).ending = .returned t tok' node) : tok' = tok.next t := by
  unfold settleLate at h
  dsimp only at h
  split at h
  · split at h <;> cases h <;> rfl
  · split at h <;> cases h <;> rfl
  · split at h
    · cases h; rfl
    · cases h

/-- A probe is settled as it ended by itself, or after its token was fired. -/
theorem guarded_cases (p : Probe ε) (limits : Limits) (now : Nat) (tok : Token) :
    (p.guarded limits now tok).ending = p.settle tok (p.run tok).ending ∨
      ∃ limit last c, p.guarded limits now tok = p.settleLate limit tok last c := by
  unfold guarded
  cases limits.probeTimeout with
  | none => exact .inl rfl
  | some limit =>
    dsimp only
    generalize limit.ticksFrom now = l
    split
    · exact .inl rfl
    · exact .inr ⟨_, _, _, rfl⟩

/-- No panic gets out of a probe. -/
theorem guarded_ne_panicked (t : Nat) (q : Panic) :
    (p.guarded limits now tok).ending ≠ .panicked t q := by
  rcases p.guarded_cases limits now tok with h | ⟨limit, last, c, h⟩
  · rw [h]; exact settle_ne_panicked _ t q
  · rw [h]; exact settleLate_ne_panicked _ _ _ t q

/-- The token behind a probe is the one before it, looked at later. -/
theorem guarded_token {t : Nat} {tok' : Token} {node : Node}
    (h : (p.guarded limits now tok).ending = .returned t tok' node) : tok' = tok.next t := by
  rcases p.guarded_cases limits now tok with h' | ⟨limit, last, c, h'⟩
  · exact settle_token (h'.symm.trans h)
  · rw [h'] at h; exact settleLate_token h

/-! ## Failures -/

theorem panicNode_failedLeaf (q : Panic) : (p.panicNode q).FailedLeaf p.key p.name :=
  ⟨rfl, rfl, rfl, rfl⟩

theorem overrunNode_failedLeaf (limit : Span) : (p.overrunNode limit).FailedLeaf p.key p.name :=
  ⟨rfl, rfl, rfl, rfl⟩

/-- A probe that ends within its time is settled as it ended. -/
theorem guarded_inTime {t : Nat} (ht : (p.run tok).ending.time? = some t)
    (hin : ∀ limit, limits.probeTimeout = some limit → t ≤ limit.ticks) :
    (p.guarded limits 0 tok).ending = p.settle tok (p.run tok).ending := by
  unfold guarded
  split
  · rfl
  · rename_i limit hl
    have := hin limit hl
    simp [Span.ticksFrom_eq, ht, this]

/-- A probe that ends at once is in time, whatever the limits are and whatever the clock shows. -/
theorem guarded_atOnce {tok' : Token} {node : Node} (h : (p.run tok).ending = .returned 0 tok' node) :
    (p.guarded limits now tok).ending = .returned 0 (tok.next 0) node := by
  have hin : ∀ l, (p.run tok).ending.time?.any (· ≤ l) = true := by
    intro l
    rw [h]
    rfl
  unfold guarded
  split
  · simp only [h, settle]
  · simp only [hin, Bool.or_true, if_true]
    simp only [h, settle]

/-- What becomes of a probe that overran its limit is settled by its run with the limit in its token. -/
theorem guarded_overrun (hfit : limits.FitAt 0) {limit : Span} (h : p.Overruns limits tok limit) :
    p.guarded limits 0 tok =
      p.settleLate limit tok (some (limit.ticks + limits.cleanupGrace.ticks))
        (p.run (tok.within limit.ticks)) := by
  obtain ⟨hl, hlate⟩ := h
  obtain ⟨hclock, hgrace⟩ := hfit limit hl
  have hany : (p.run tok).ending.time?.any (· ≤ limit.ticks) = false := by
    cases ht : (p.run tok).ending.time? with
    | none => rfl
    | some t => simpa using hlate t ht
  unfold guarded
  simp only [hl, Span.ticksFrom_eq, hclock, hany, hgrace, Bool.not_true, Bool.or_self, if_true,
    Bool.false_eq_true, if_false]

/-- A probe that panics or is abandoned ends with a failed leaf under its own key and name. -/
theorem guarded_failed (hfit : limits.FitAt 0) (h : p.Panics limits tok ∨ p.Abandoned limits tok) :
    ∃ t tok' node, (p.guarded limits 0 tok).ending = .returned t tok' node ∧
      node.FailedLeaf p.key p.name := by
  rcases h with (⟨t, q, he, hin⟩ | ⟨limit, t, q, hover, he, hin⟩) | ⟨limit, hover, hlate⟩
  · rw [guarded_inTime (by rw [he]; rfl) hin, he]
    exact ⟨_, _, _, rfl, panicNode_failedLeaf q⟩
  · rw [guarded_overrun hfit hover]
    simp only [settleLate, he, Option.all_some, decide_eq_true_eq, if_pos hin]
    exact ⟨_, _, _, rfl, overrunNode_failedLeaf limit⟩
  · rw [guarded_overrun hfit hover]
    cases he : (p.run (tok.within limit.ticks)).ending with
    | returned t tok' node =>
      have := hlate t (by rw [he]; rfl)
      simp only [settleLate, he, Option.all_some, decide_eq_true_eq, if_neg (Nat.not_le.mpr this)]
      exact ⟨_, _, _, rfl, overrunNode_failedLeaf limit⟩
    | panicked t q =>
      have := hlate t (by rw [he]; rfl)
      simp only [settleLate, he, Option.all_some, decide_eq_true_eq, if_neg (Nat.not_le.mpr this)]
      exact ⟨_, _, _, rfl, overrunNode_failedLeaf limit⟩
    | never =>
      simp only [settleLate, he]
      exact ⟨_, _, _, rfl, overrunNode_failedLeaf limit⟩

end Probe
end Checkup
