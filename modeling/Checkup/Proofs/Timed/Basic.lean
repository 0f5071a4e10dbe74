import Checkup.Timed.Basic

/-!
# Tokens and the clock

When a token fires, how it looks from later ticks, and how lengths of time relate to ticks.

Results:
* `firesBefore_eq_true` and `firesBefore_eq_false` say of `firesBefore` what it means for the tick at
  which the token fires.
* `firesBefore_after` and `after_after`: a token that does not fire during some work, behind it.
* `next_next` and `ofTime_next`: looking at a token from a later tick is subtraction, and can be done in
  one step or in several.
* `ofMillis_lt_iff`: a tick comes before the rounded end of a length of time exactly when the length of
  time up to it is shorter.
* `ticksFrom_eq`: on a clock of whole ticks it makes no difference when a timer starts.
-/
namespace Checkup

namespace Token

theorem firesBefore_eq_true {tok : Token} {t : Nat} (h : tok.firesBefore t = true) :
    ∃ c, tok.time? = some c ∧ c ≤ t := by
  cases tok with
  | fired => exact ⟨0, rfl, Nat.zero_le t⟩
  | due c => exact ⟨c, rfl, Nat.le_of_lt (by simpa [firesBefore] using h)⟩
  | never => simp [firesBefore] at h

theorem firesBefore_eq_false {tok : Token} {t : Nat} (h : tok.firesBefore t = false) :
    ∀ c, tok.time? = some c → t ≤ c := by
  intro c hc
  cases tok with
  | fired => simp [firesBefore] at h
  | due d => simp only [time?, Option.some.injEq] at hc; subst hc; simpa [firesBefore] using h
  | never => simp [time?] at hc

theorem firesBefore_mono {tok : Token} {t u : Nat} (htu : t ≤ u) (h : tok.firesBefore u = false) :
    tok.firesBefore t = false := by
  cases tok with
  | fired => simp [firesBefore] at h
  | due c => simp only [firesBefore, decide_eq_false_iff_not] at h ⊢; omega
  | never => rfl

section
variable {tok : Token} {t u a : Nat}

theorem firesBefore_due (h : t ≤ a) : (due a).firesBefore t = false :=
  decide_eq_false (Nat.not_lt.mpr h)

theorem firesBefore_due_of_lt (h : a < t) : (due a).firesBefore t = true :=
  decide_eq_true h

theorem after_due (h : t ≤ a) : (due a).after t = due (a - t) :=
  if_neg (Nat.not_lt.mpr h)

/-- A token that is not due before a tick is seen unfired there. -/
theorem after_ne_fired (h : tok.firesBefore t = false) : tok.after t ≠ fired := by
  cases tok with
  | fired => cases h
  | never => exact nofun
  | due c =>
    rw [after_due (by simpa [firesBefore] using h)]
    exact nofun

/-- A token that has not fired by the end of two spans of time has not fired in the second of them. -/
theorem firesBefore_after (h : tok.firesBefore (t + u) = false) :
    (tok.after t).firesBefore u = false := by
  cases tok with
  | fired => cases h
  | never => rfl
  | due c =>
    simp only [firesBefore, decide_eq_false_iff_not] at h
    have hc : ¬ c < t := by omega
    simp only [after, if_neg hc, firesBefore, decide_eq_false_iff_not]
    omega

theorem after_after (h : tok.firesBefore (t + u) = false) :
    (tok.after t).after u = tok.after (t + u) := by
  cases tok with
  | fired => rfl
  | never => rfl
  | due c =>
    simp only [firesBefore, decide_eq_false_iff_not] at h
    have hc : ¬ c < t := by omega
    have hcu : ¬ c - t < u := by omega
    simp only [after, if_neg hc, if_neg hcu, if_neg h, due.injEq]
    omega

end

@[simp] theorem time?_ofTime (c : Option Nat) : (ofTime c).time? = c := by
  rcases c with _ | _ | c <;> rfl

theorem firesBefore_ofTime {c : Option Nat} {t : Nat} (h : ∀ a, c = some a → a ≠ 0 ∧ t ≤ a) :
    (ofTime c).firesBefore t = false := by
  rcases c with _ | _ | c
  · rfl
  · exact absurd rfl (h 0 rfl).1
  · have := (h (c + 1) rfl).2
    simp only [ofTime, firesBefore, decide_eq_false_iff_not]; omega

theorem next_next (tok : Token) (a b : Nat) : (tok.next a).next b = tok.next (a + b) := by
  cases tok with
  | fired => rfl
  | never => rfl
  | due c =>
    by_cases ha : c ≤ a
    · simp [next, ha, show c ≤ a + b by omega]
    · by_cases hb : c - a ≤ b
      · simp [next, ha, hb, show c ≤ a + b by omega]
      · simp [next, ha, hb, show ¬ c ≤ a + b by omega, Nat.sub_sub]

/-- Seen from a later tick, a token fires that much earlier; at the latest it has fired. -/
theorem ofTime_next (c : Option Nat) (t : Nat) : (ofTime c).next t = ofTime (c.map (· - t)) := by
  rcases c with _ | _ | c
  · rfl
  · simp [ofTime, next]
  · simp only [ofTime, next, Option.map_some]
    split
    · rw [show c + 1 - t = 0 by omega]; rfl
    · rw [show c + 1 - t = (c - t) + 1 by omega]; rfl

end Token

namespace Span

theorem ofMillis_lt_iff {t : Nat} {d : Span} : ofMillis t < d ↔ t < d.ticks := by
  show 1000000 * t < d.nanos ↔ t < ticksOf d.nanos
  simp only [ticksOf]; omega

theorem ticks_pos {d : Span} (h : d.nanos ≠ 0) : 0 < d.ticks := by
  simp only [ticks, ticksOf]; omega

theorem ticksFrom_eq (now : Nat) (d : Span) : d.ticksFrom now = d.ticks := by
  simp only [ticksFrom, ticks, ticksOf]; omega

end Span

/-- The tick at which a timer ends that starts at tick `now`, counted from its start: its length, rounded
up. A timer whose end the clock cannot show does not end. -/
def Span.expiry? (now : Nat) (d : Span) : Option Nat := if fitsClock now d then some d.ticks else none

theorem fitsClock_mono {t u : Nat} {d e : Span} (ht : t ≤ u) (hd : d.nanos ≤ e.nanos)
    (h : fitsClock u e = true) : fitsClock t d = true := by
  simp only [fitsClock, decide_eq_true_eq] at h ⊢
  have := Nat.mul_le_mul_left 1000000 ht
  exact Nat.lt_of_le_of_lt (Nat.add_le_add this hd) h

/-- The clock can show the end of a length of time if it can show the tick in which that falls. -/
theorem fitsClock_of_ticks {d : Span} (h : fitsClock d.ticks ⟨0⟩ = true) : fitsClock 0 d = true := by
  simp only [fitsClock, decide_eq_true_eq] at h ⊢
  have : 1000000 * 0 + d.nanos ≤ 1000000 * d.ticks + 0 := by
    simp only [Span.ticks, Span.ticksOf]; omega
  exact Nat.lt_of_le_of_lt this h

end Checkup
