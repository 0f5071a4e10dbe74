import Mathlib.Algebra.Order.Field.Power
import Mathlib.Algebra.Order.Field.Rat
import Mathlib.Tactic.Linarith
import Mathlib.Tactic.Positivity
import Checkup.Proofs.Numeric.Rounding

/-!
# The value of a double

Results:
* `value?_eq_some`: exactly the finite numbers have a value.
* `lt_iff_value_lt`: the order of two finite numbers is that of their values.
-/
namespace Checkup.Double

/-- The exact value of a number, if it is finite. -/
def value? : Double → Option ℚ
  | finite negative m e => some ((if negative then -1 else 1) * (m * (2 : ℚ) ^ e))
  | _ => none

theorem value?_eq_some {d : Double} : d.isFinite = true ↔ ∃ q, d.value? = some q := by
  cases d <;> simp [isFinite, value?]

/-- Numerator and denominator of a magnitude give its value. -/
theorem ratioOf_value (m : Nat) (e : Int) :
    ((ratioOf m e).1 : ℚ) / (ratioOf m e).2 = m * (2 : ℚ) ^ e := by
  cases e with
  | ofNat k => simp [ratioOf]
  | negSucc k => simp [ratioOf, zpow_negSucc, div_eq_mul_inv]

/-- Magnitudes are compared without a division. -/
theorem magnitude_lt_iff {m n : Nat} {e f : Int} :
    (ratioOf m e).1 * (ratioOf n f).2 < (ratioOf n f).1 * (ratioOf m e).2 ↔
      (m : ℚ) * 2 ^ e < n * 2 ^ f := by
  have hm : (0 : ℚ) < (ratioOf m e).2 := by exact_mod_cast ratioOf_pos m e
  have hn : (0 : ℚ) < (ratioOf n f).2 := by exact_mod_cast ratioOf_pos n f
  rw [← ratioOf_value, ← ratioOf_value, div_lt_div_iff₀ hm hn]
  norm_cast

theorem magnitude_nonneg (m : Nat) (e : Int) : (0 : ℚ) ≤ m * 2 ^ e := by positivity

theorem magnitude_eq_zero {m : Nat} {e : Int} : (m : ℚ) * 2 ^ e = 0 ↔ m = 0 := by
  have : (2 : ℚ) ^ e ≠ 0 := zpow_ne_zero e two_ne_zero
  simp [this]

/-- A negative number is below a positive one, unless both are zero. -/
theorem neg_magnitude_lt_iff {m n : Nat} {e f : Int} :
    -((m : ℚ) * 2 ^ e) < n * 2 ^ f ↔ ¬ (m = 0 ∧ n = 0) := by
  have hm := magnitude_nonneg m e
  have hn := magnitude_nonneg n f
  rw [← magnitude_eq_zero (e := e), ← magnitude_eq_zero (e := f)]
  constructor
  · rintro h ⟨hm0, hn0⟩
    linarith
  · intro h
    by_contra hge
    exact h ⟨by linarith, by linarith⟩

theorem lt_iff_value_lt {a b : Double} {p q : ℚ} (ha : a.value? = some p) (hb : b.value? = some q) :
    a.lt b = true ↔ p < q := by
  match a, b with
  | .nan, _ | .infinite _, _ => cases ha
  | .finite .., .nan | .finite .., .infinite _ => cases hb
  | .finite s m e, .finite t n f =>
    cases ha
    cases hb
    have hm := magnitude_nonneg m e
    have hn := magnitude_nonneg n f
    cases s <;> cases t <;>
      simp only [lt, if_true, if_false, Bool.false_eq_true, one_mul, neg_one_mul,
        decide_eq_true_eq, neg_lt_neg_iff]
    case false.false => exact magnitude_lt_iff
    case false.true => exact iff_of_false id (by linarith)
    case true.false =>
      rw [neg_magnitude_lt_iff, Bool.not_eq_true', Bool.and_eq_false_iff, not_and_or]
      simp
    case true.true => exact magnitude_lt_iff

end Checkup.Double
