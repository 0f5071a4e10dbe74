import Checkup.Proofs.Numeric.Rounding
import Checkup.Wait.Backoff

/-!
# The delays of a schedule

Results:
* `nominal_le` and `schedule_le`: a schedule whose factor has no minus sign and whose maximum is a length
  of time in seconds gives every delay, and none beyond this maximum.
* `schedule_standard`: the usual schedule has delays of at most five seconds.
-/
namespace Checkup

open Double

namespace Backoff

variable {b : Backoff} {top : Span}

theorem nominal_le (hf : b.factor.Unsigned) (hmax : Span.ofSeconds? b.max.toSeconds = some top)
    (n : Nat) : ∃ d, b.nominal n = some d ∧ d ≤ top := by
  have hpower : (b.min.toSeconds.mul (b.factor.pow (Nat.min n maxExponent))).Unsigned :=
    mul_unsigned (Span.toSeconds_unsigned _) (pow_unsigned _ hf)
  have hsign := Span.toSeconds_unsigned b.max
  match hb : b.max.toSeconds with
  | .nan => rw [hb] at hmax; cases hmax
  | .infinite s => rw [hb] at hmax; cases hmax
  | .finite s m e =>
    rw [hb] at hsign; cases hsign
    exact Span.ofSeconds?_le (min_atMost hpower hb) hmax

theorem pick_le {low high : Span} (h : low < high) (random : Nat) : pick low high random ≤ high := by
  have hr : random % (high.nanos - low.nanos + 1) < high.nanos - low.nanos + 1 :=
    Nat.mod_lt _ (Nat.succ_pos _)
  have : low.nanos < high.nanos := h
  show low.nanos + random % (high.nanos - low.nanos + 1) ≤ high.nanos
  omega

theorem delay_le (hf : b.factor.Unsigned) (hmax : Span.ofSeconds? b.max.toSeconds = some top)
    (random : Nat → Nat) (n : Nat) : ∃ d, b.delay random n = some d ∧ d ≤ top := by
  obtain ⟨d, hd, hle⟩ := nominal_le hf hmax n
  rw [delay, hd, Option.map_some]
  split
  · rename_i h
    rw [Bool.and_eq_true, decide_eq_true_eq] at h
    exact ⟨_, rfl, Nat.le_trans (pick_le h.2 _) hle⟩
  · exact ⟨d, rfl, hle⟩

theorem schedule_le (hf : b.factor.Unsigned) (hmax : Span.ofSeconds? b.max.toSeconds = some top)
    (hpos : 0 < top.nanos) (random : Nat → Nat) (n : Nat) :
    ∃ d, b.schedule random n = .ok d ∧ d.span ≤ top := by
  obtain ⟨d, hd, hle⟩ := delay_le hf hmax random n
  exact ⟨.ofSpan d, by rw [schedule, hd], Nat.max_le.mpr ⟨hpos, hle⟩⟩

theorem schedule_standard (random : Nat → Nat) :
    ∃ delays : Nat → Delay, standard.schedule random = (fun n => .ok (delays n)) ∧
      ∀ n, (delays n).span ≤ Span.ofSeconds 5 := by
  have hmax : Span.ofSeconds? standard.max.toSeconds = some (Span.ofSeconds 5) := by decide +kernel
  have h := schedule_le (b := standard) (ofRatio_unsigned 2 1) hmax (by decide) random
  exact ⟨fun n => (h n).choose, funext fun n => (h n).choose_spec.1, fun n => (h n).choose_spec.2⟩

end Backoff
end Checkup
