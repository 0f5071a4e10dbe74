import Checkup.Span

/-!
# Rounding and order

Results:
* `roundDiv_le_roundDiv`: rounding a quotient to a whole number keeps its order.
* `mul_unsigned`, `pow_unsigned` and `toSeconds_unsigned`: numbers without a minus sign stay so.
* `min_atMost`: the smaller of two numbers without a minus sign is at most the second.
* `ofSeconds?_le`: fewer seconds are a length of time if more are, and not a longer one.
-/
namespace Checkup

theorem roundDiv_cases (n d : Nat) :
    (roundDiv n d = n / d ∧ (2 * (n % d) < d ∨ (2 * (n % d) = d ∧ n / d % 2 = 0))) ∨
      (roundDiv n d = n / d + 1 ∧ (d < 2 * (n % d) ∨ (2 * (n % d) = d ∧ n / d % 2 = 1))) := by
  unfold roundDiv
  dsimp only
  split
  · exact .inr ⟨rfl, by assumption⟩
  · exact .inl ⟨rfl, by omega⟩

/-- Of two quotients with the same whole part, the remainders are in the order of the quotients. -/
theorem mod_mul_le {n d n' d' : Nat} (h : n * d' ≤ n' * d) (hq : n / d = n' / d') :
    n % d * d' ≤ n' % d' * d := by
  have hn := congrArg (· * d') (Nat.div_add_mod n d)
  have hn' := congrArg (· * d) (Nat.div_add_mod n' d')
  simp only [Nat.add_mul] at hn hn'
  rw [← hq] at hn'
  have : d' * (n / d) * d = d * (n / d) * d' := by
    rw [Nat.mul_comm d' (n / d), Nat.mul_comm d (n / d), Nat.mul_assoc, Nat.mul_assoc,
      Nat.mul_comm d' d]
  omega

theorem roundDiv_le_roundDiv {n d n' d' : Nat} (hd : 0 < d) (hd' : 0 < d')
    (h : n * d' ≤ n' * d) : roundDiv n d ≤ roundDiv n' d' := by
  have hq : n / d ≤ n' / d' := by
    rw [Nat.le_div_iff_mul_le hd']
    refine Nat.le_of_mul_le_mul_right ?_ hd
    calc n / d * d' * d = n / d * d * d' := Nat.mul_right_comm ..
      _ ≤ n * d' := Nat.mul_le_mul_right d' (Nat.div_mul_le_self n d)
      _ ≤ n' * d := h
  rcases Nat.lt_or_eq_of_le hq with hlt | heq
  · rcases roundDiv_cases n d with ⟨hr, -⟩ | ⟨hr, -⟩ <;>
      rcases roundDiv_cases n' d' with ⟨hr', -⟩ | ⟨hr', -⟩ <;> omega
  · -- Equal whole parts: the first is rounded up only if the second is.
    have hm := mod_mul_le h heq
    rcases roundDiv_cases n d with ⟨hr, -⟩ | ⟨hr, hup⟩
    · rcases roundDiv_cases n' d' with ⟨hr', -⟩ | ⟨hr', -⟩ <;> omega
    · rcases roundDiv_cases n' d' with ⟨hr', hdown⟩ | ⟨hr', -⟩
      · exfalso
        rcases hup with hup | ⟨hup, hodd⟩
        · have : d * d' < 2 * (n % d) * d' := Nat.mul_lt_mul_of_pos_right hup hd'
          have : 2 * (n' % d') * d ≤ d' * d := Nat.mul_le_mul_right d (by omega)
          rw [Nat.mul_assoc] at *
          rw [Nat.mul_comm d' d] at this
          omega
        · have : 2 * (n' % d') * d < d' * d := Nat.mul_lt_mul_of_pos_right (by omega) hd
          have : d * d' = 2 * (n % d * d') := by rw [← Nat.mul_assoc, hup]
          rw [Nat.mul_assoc, Nat.mul_comm d' d] at *
          omega
      · omega

namespace Double

/-- The number has no minus sign. -/
def Unsigned : Double → Prop
  | nan => True
  | infinite negative => negative = false
  | finite negative _ _ => negative = false

theorem ofRatio_unsigned (num den : Nat) : (ofRatio false num den).Unsigned := by
  unfold ofRatio
  split
  · rfl
  · dsimp only
    split <;> split <;> rfl

theorem mul_unsigned {a b : Double} (ha : a.Unsigned) (hb : b.Unsigned) : (a.mul b).Unsigned := by
  cases a with
  | nan => trivial
  | infinite s => cases b with
    | nan => trivial
    | infinite t => cases ha; cases hb; rfl
    | finite t n f =>
      cases ha; cases hb
      simp only [mul]
      split
      · trivial
      · rfl
  | finite s m e => cases b with
    | nan => trivial
    | infinite t =>
      cases ha; cases hb
      simp only [mul]
      split
      · trivial
      · rfl
    | finite t n f => cases ha; cases hb; exact ofRatio_unsigned _ _

theorem powLoop_unsigned {r a : Double} (n : Nat) (hr : r.Unsigned) (ha : a.Unsigned) :
    (powLoop r a n).Unsigned := by
  have hstep : ∀ {r a : Double} (n : Nat), r.Unsigned → a.Unsigned →
      (if n % 2 = 1 then mul r a else r).Unsigned := by
    intro r a n hr ha
    split
    · exact mul_unsigned hr ha
    · exact hr
  fun_induction powLoop r a n with
  | case1 r a n r' h => exact hstep n hr ha
  | case2 r a n r' h ih => exact ih (hstep n hr ha) (mul_unsigned ha ha)

theorem pow_unsigned {a : Double} (n : Nat) (ha : a.Unsigned) : (a.pow n).Unsigned :=
  powLoop_unsigned n (ofRatio_unsigned 1 1) ha

theorem addMagnitudes_unsigned (a b : Double) : (a.addMagnitudes b).Unsigned := by
  cases a <;> cases b <;> first | trivial | exact ofRatio_unsigned _ _

/-- The value of a finite number without a minus sign is at most that of another. -/
def AtMost : Double → Double → Prop
  | finite false m e, finite false n f =>
    (ratioOf m e).1 * (ratioOf n f).2 ≤ (ratioOf n f).1 * (ratioOf m e).2
  | _, _ => False

theorem min_atMost {a b : Double} {n : Nat} {f : Int} (ha : a.Unsigned)
    (hb : b = .finite false n f) : (a.min b).AtMost b := by
  subst hb
  cases a with
  | nan => exact Nat.le_refl _
  | infinite s => cases ha; exact Nat.le_refl _
  | finite s m e =>
    cases ha
    simp only [Double.min]
    split
    · exact Nat.le_refl _
    · rename_i h
      simp only [lt, decide_eq_true_eq, Nat.not_lt] at h
      exact h

theorem ratioOf_pos (m : Nat) (e : Int) : 0 < (ratioOf m e).2 := by
  cases e with
  | ofNat k => exact Nat.one_pos
  | negSucc k => exact Nat.two_pow_pos _

theorem ratioOf_eq_zero {m : Nat} {e : Int} (h : (ratioOf m e).1 = 0) : m = 0 := by
  cases e with
  | ofNat k => exact (Nat.mul_eq_zero.mp h).resolve_right (Nat.ne_of_gt (Nat.two_pow_pos k))
  | negSucc k => exact h

end Double

namespace Span

open Double

theorem toSeconds_unsigned (d : Span) : d.toSeconds.Unsigned := addMagnitudes_unsigned _ _

theorem ofSeconds?_le {a b : Double} {top : Span} (hab : a.AtMost b)
    (hb : ofSeconds? b = some top) : ∃ d, ofSeconds? a = some d ∧ d ≤ top := by
  match a, b with
  | .finite false m e, .finite false n f =>
    have hle : (ratioOf m e).1 * (ratioOf n f).2 ≤ (ratioOf n f).1 * (ratioOf m e).2 := hab
    simp only [ofSeconds?] at hb ⊢
    by_cases hm : m = 0
    · simp only [hm, if_true, Option.some.injEq, exists_eq_left']
      exact Nat.zero_le _
    · have hn : n ≠ 0 := by
        intro h
        subst h
        rw [show (ratioOf 0 f).1 = 0 by cases f <;> simp [ratioOf], Nat.zero_mul,
          Nat.le_zero, Nat.mul_eq_zero] at hle
        rcases hle with h | h
        · exact hm (ratioOf_eq_zero h)
        · exact absurd h (Nat.ne_of_gt (ratioOf_pos _ _))
      have hround : roundDiv ((ratioOf m e).1 * 1000000000) (ratioOf m e).2 ≤
          roundDiv ((ratioOf n f).1 * 1000000000) (ratioOf n f).2 := by
        refine roundDiv_le_roundDiv (ratioOf_pos _ _) (ratioOf_pos _ _) ?_
        rw [Nat.mul_right_comm, Nat.mul_right_comm (ratioOf n f).1]
        exact Nat.mul_le_mul_right _ hle
      simp only [hn, if_false, Bool.false_eq_true] at hb
      split at hb
      · rename_i hlong
        cases hb
        refine ⟨⟨roundDiv ((ratioOf m e).1 * 1000000000) (ratioOf m e).2⟩, ?_, hround⟩
        simp only [hm, if_false, Bool.false_eq_true]
        rw [if_pos (Nat.le_trans hround hlong)]
      · cases hb

end Span
end Checkup
