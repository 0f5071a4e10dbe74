import Mathlib.Data.Nat.EvenOddRec
import Checkup.Proofs.Numeric.Nearest

/-!
# Arithmetic of doubles

Each operation gives the number nearest to the exact result, and an operand that is not finite gives a
result that is not. A sign plays no role for the size of a result, and so products keep the order of sizes
whatever the factors are.

The power by repeated squaring rounds at every product, and the products of one exponent are not those
of the next. Its powers do not decrease all the same: for a base of at least one, what has been collected
for the odd bits below a square is never larger than the square.

Results:
* `size_mul`, `size_div`, `size_addMagnitudes` and `size_min`: what an operation comes to.
* `mul_rounded`, `addMagnitudes_rounded` and `min_rounded`: rounding leaves the result of an operation as
  it is.
* `powLoop_le_succ`: one more in the exponent is not less.
* `pow_size_mono`: the powers of a base that is not below one do not decrease.
-/
namespace Checkup.Double

variable {a b c d r s : Double} {p q : ℚ} {m n : Nat}

/-! ## The operations -/

/-- The size of a product is nearest to the product of the sizes. -/
theorem size_mul (ha : a.size = p) (hb : b.size = q) : (a.mul b).size = nearest (p * q) := by
  match a, b with
  | .nan, _ | .infinite _, _ => cases ha
  | .finite .., .nan | .finite .., .infinite _ => cases hb
  | .finite s m e, .finite t n f =>
    rw [← WithTop.coe_inj.mp ha, ← WithTop.coe_inj.mp hb]
    have hvalue : (m : ℚ) * 2 ^ e * (n * 2 ^ f) = (m * n : Nat) * 2 ^ (e + f) := by
      rw [zpow_add₀ two_ne_zero, Nat.cast_mul, mul_mul_mul_comm]
    rw [hvalue, ← ratioOf_value]
    exact ofRatio_nearest _ _ (ratioOf_pos _ _)

/-- A product is not finite if one of its factors is not. -/
theorem size_mul_left (ha : a.size = ⊤) (b : Double) : (a.mul b).size = ⊤ := by
  match a, b with
  | .nan, _ | .infinite _, .nan | .infinite _, .infinite _ => rfl
  | .infinite s, .finite t n f =>
    simp only [mul]
    split <;> rfl
  | .finite .., _ => cases ha

theorem size_mul_right (a : Double) (hb : b.size = ⊤) : (a.mul b).size = ⊤ := by
  match a, b with
  | .nan, _ | .infinite _, .nan | .infinite _, .infinite _ | .finite .., .nan => rfl
  | .finite .., .infinite _ =>
    simp only [mul]
    split <;> rfl
  | .infinite _, .finite .. => cases hb

/-- A product of larger numbers is not smaller. -/
theorem mul_size_mono (hac : a.size ≤ c.size) (hbd : b.size ≤ d.size) :
    (a.mul b).size ≤ (c.mul d).size := by
  cases hc : c.size with
  | top => rw [size_mul_left hc]; exact le_top
  | coe r =>
    cases hd : d.size with
    | top => rw [size_mul_right c hd]; exact le_top
    | coe s =>
      rw [hc] at hac
      rw [hd] at hbd
      obtain ⟨p, hp, hpr⟩ := WithTop.le_coe_iff.mp hac
      obtain ⟨q, hq, hqs⟩ := WithTop.le_coe_iff.mp hbd
      have hp0 : 0 ≤ p := WithTop.coe_le_coe.mp (hp ▸ size_nonneg a)
      have hq0 : 0 ≤ q := WithTop.coe_le_coe.mp (hq ▸ size_nonneg b)
      rw [size_mul hp hq, size_mul hc hd]
      exact nearest_mono (mul_le_mul hpr hqs hq0 (hp0.trans hpr))

theorem size_div (ha : a.size = p) (hb : b.size = q) (hq : q ≠ 0) :
    (a.div b).size = nearest (p / q) := by
  match a, b with
  | .nan, _ | .infinite _, _ => cases ha
  | .finite .., .nan | .finite .., .infinite _ => cases hb
  | .finite s m e, .finite t n f =>
    obtain rfl := WithTop.coe_inj.mp ha
    obtain rfl := WithTop.coe_inj.mp hb
    have hn : n ≠ 0 := fun h => hq (magnitude_eq_zero.mpr h)
    have hpos : 0 < (ratioOf m e).2 * (ratioOf n f).1 :=
      Nat.mul_pos (ratioOf_pos m e) (Nat.pos_of_ne_zero fun h => hn (ratioOf_eq_zero h))
    have hvalue : (m : ℚ) * 2 ^ e / (n * 2 ^ f) =
        ((ratioOf m e).1 * (ratioOf n f).2 : Nat) / ((ratioOf m e).2 * (ratioOf n f).1 : Nat) := by
      rw [← ratioOf_value, ← ratioOf_value, div_div_div_eq]
      push_cast
      rfl
    rw [hvalue, ← ofRatio_nearest _ _ hpos, div, if_neg hn]

theorem size_addMagnitudes (ha : a.size = p) (hb : b.size = q) :
    (a.addMagnitudes b).size = nearest (p + q) := by
  match a, b with
  | .nan, _ | .infinite _, _ => cases ha
  | .finite .., .nan | .finite .., .infinite _ => cases hb
  | .finite s m e, .finite t n f =>
    rw [← WithTop.coe_inj.mp ha, ← WithTop.coe_inj.mp hb]
    have hm : ((ratioOf m e).2 : ℚ) ≠ 0 := by exact_mod_cast (ratioOf_pos m e).ne'
    have hn : ((ratioOf n f).2 : ℚ) ≠ 0 := by exact_mod_cast (ratioOf_pos n f).ne'
    have hpos := Nat.mul_pos (ratioOf_pos m e) (ratioOf_pos n f)
    have hvalue : (m : ℚ) * 2 ^ e + n * 2 ^ f =
        ((ratioOf m e).1 * (ratioOf n f).2 + (ratioOf n f).1 * (ratioOf m e).2 : Nat) /
          ((ratioOf m e).2 * (ratioOf n f).2 : Nat) := by
      rw [← ratioOf_value, ← ratioOf_value, div_add_div _ _ hm hn, mul_comm ((ratioOf m e).2 : ℚ)]
      push_cast
      rfl
    rw [hvalue]
    exact ofRatio_nearest false _ hpos

theorem size_addMagnitudes_left (ha : a.size = ⊤) (b : Double) : (a.addMagnitudes b).size = ⊤ := by
  match a, b with
  | .nan, _ | .infinite _, .nan | .infinite _, .infinite _ | .infinite _, .finite .. => rfl
  | .finite .., _ => cases ha

theorem size_addMagnitudes_right (a : Double) (hb : b.size = ⊤) : (a.addMagnitudes b).size = ⊤ := by
  match a, b with
  | .nan, _ | .infinite _, .nan | .infinite _, .infinite _ => rfl
  | .finite .., .nan | .finite .., .infinite _ => rfl
  | _, .finite .. => cases hb

theorem size_min (ha : a.Unsigned) (hb : b.Unsigned) : (a.min b).size = a.size ⊓ b.size := by
  match a, b with
  | .nan, b => exact (top_inf_eq _).symm
  | .infinite _, .nan | .finite .., .nan => exact (inf_top_eq _).symm
  | .infinite s, .infinite t =>
    simp only [Double.min]
    split <;> exact (inf_top_eq _).symm
  | .infinite s, .finite t n f =>
    cases ha
    exact (top_inf_eq _).symm
  | .finite s m e, .infinite t =>
    cases hb
    exact (inf_top_eq _).symm
  | .finite s m e, .finite t n f =>
    cases ha
    cases hb
    have hlt : lt (.finite false n f) (.finite false m e) = true ↔ (n : ℚ) * 2 ^ f < m * 2 ^ e :=
      decide_eq_true_iff.trans magnitude_lt_iff
    simp only [Double.min]
    split
    · rename_i h
      exact (inf_eq_right.mpr (WithTop.coe_le_coe.mpr (hlt.mp h).le)).symm
    · rename_i h
      exact (inf_eq_left.mpr (WithTop.coe_le_coe.mpr (not_lt.mp (mt hlt.mpr h)))).symm

theorem lt_zero_eq_false (ha : a.Unsigned) : a.lt (.zero false) = false := by
  cases a with
  | nan => rfl
  | infinite s => exact ha
  | finite s m e =>
    cases ha
    rw [zero]
    generalize (-1074 : ℤ) = f
    refine decide_eq_false (mt magnitude_lt_iff.mp ?_)
    rw [Nat.cast_zero, zero_mul]
    exact (magnitude_nonneg m e).not_gt

/-! ## Numbers that are rounded -/

/-- Rounding leaves the number as it is; what an operation gives is such a number. -/
def Rounded (a : Double) : Prop := ∀ q : ℚ, a.size = q → nearest q = q

theorem mul_rounded (a b : Double) : (a.mul b).Rounded := by
  intro q hq
  cases ha : a.size with
  | top => cases (size_mul_left ha b).symm.trans hq
  | coe p =>
    cases hb : b.size with
    | top => cases (size_mul_right a hb).symm.trans hq
    | coe r => exact nearest_idem ((size_mul ha hb).symm.trans hq)

theorem addMagnitudes_rounded (a b : Double) : (a.addMagnitudes b).Rounded := by
  intro q hq
  cases ha : a.size with
  | top => cases (size_addMagnitudes_left ha b).symm.trans hq
  | coe p =>
    cases hb : b.size with
    | top => cases (size_addMagnitudes_right a hb).symm.trans hq
    | coe r => exact nearest_idem ((size_addMagnitudes ha hb).symm.trans hq)

theorem min_eq_or (a b : Double) : a.min b = a ∨ a.min b = b := by
  unfold Double.min
  split
  · exact .inr rfl
  · split
    · exact .inl rfl
    · split
      · exact .inr rfl
      · exact .inl rfl

theorem min_rounded (ha : a.Rounded) (hb : b.Rounded) : (a.min b).Rounded := by
  rcases min_eq_or a b with h | h <;> rw [h] <;> assumption

theorem min_unsigned (ha : a.Unsigned) (hb : b.Unsigned) : (a.min b).Unsigned := by
  rcases min_eq_or a b with h | h <;> rw [h] <;> assumption

theorem size_one : (ofNat 1).size = (1 : ℚ) := by
  have h : ofNat 1 = .finite false (2 ^ (52 : Nat)) (-52) := by decide +kernel
  rw [h, size]
  norm_num

theorem size_mul_one (ha : a.Rounded) : (a.mul (ofNat 1)).size = a.size := by
  cases hsize : a.size with
  | top => exact size_mul_left hsize _
  | coe q => rw [size_mul hsize size_one, mul_one, ha q hsize]

theorem size_one_mul (ha : a.Rounded) : ((ofNat 1).mul a).size = a.size := by
  cases hsize : a.size with
  | top => exact size_mul_right _ hsize
  | coe q => rw [size_mul size_one hsize, one_mul, ha q hsize]

theorem one_rounded : (ofNat 1).Rounded := by
  intro q hq
  obtain rfl := WithTop.coe_inj.mp (size_one.symm.trans hq)
  exact_mod_cast nearest_natCast (n := 1) (by decide)

/-! ## Powers -/

theorem powLoop_zero (r a : Double) : powLoop r a 0 = r := by
  rw [powLoop]
  rfl

theorem powLoop_even (r a : Double) (k : Nat) : powLoop r a (2 * k) = powLoop r (a.mul a) k := by
  rcases Nat.eq_zero_or_pos k with rfl | hk
  · rw [Nat.mul_zero, powLoop_zero, powLoop_zero]
  · rw [powLoop, if_neg (by omega), if_neg (by omega), Nat.mul_div_cancel_left k two_pos]

theorem powLoop_odd (r a : Double) (k : Nat) :
    powLoop r a (2 * k + 1) = powLoop (r.mul a) (a.mul a) k := by
  have hhalf : (2 * k + 1) / 2 = k := by omega
  have hodd : (2 * k + 1) % 2 = 1 := by omega
  rw [powLoop, hhalf, if_pos hodd]
  rcases Nat.eq_zero_or_pos k with rfl | hk
  · rw [if_pos rfl, powLoop_zero]
  · rw [if_neg hk.ne']

/-- A power of a larger number is not smaller. -/
theorem powLoop_size_mono (n : Nat) (hrs : r.size ≤ s.size) (hab : a.size ≤ b.size) :
    (powLoop r a n).size ≤ (powLoop s b n).size := by
  induction n using Nat.evenOddRec generalizing r s a b with
  | h0 => rwa [powLoop_zero, powLoop_zero]
  | h_even k ih =>
    rw [powLoop_even, powLoop_even]
    exact ih hrs (mul_size_mono hab hab)
  | h_odd k ih =>
    rw [powLoop_odd, powLoop_odd]
    exact ih (mul_size_mono hrs hab) (mul_size_mono hab hab)

theorem one_le_square (ha : (ofNat 1).size ≤ a.size) : (ofNat 1).size ≤ (a.mul a).size := by
  rw [← size_one_mul one_rounded]
  exact mul_size_mono ha ha

/-- One more in the exponent is not less, if what has been collected is at most the base. For an odd
exponent the next one passes its carry on to the squares, and so the base takes the place of what has been
collected. -/
theorem powLoop_le_succ (n : Nat) (ha : (ofNat 1).size ≤ a.size) (hr : r.size ≤ a.size)
    (hr' : r.size ≤ ((ofNat 1).mul a).size) :
    (powLoop r a n).size ≤ (powLoop (ofNat 1) a (n + 1)).size := by
  induction n using Nat.evenOddRec generalizing r a with
  | h0 =>
    rw [powLoop_zero, ← Nat.mul_zero 2, powLoop_odd, powLoop_zero]
    exact hr'
  | h_even k ih =>
    rw [powLoop_even, powLoop_odd]
    exact powLoop_size_mono k hr' le_rfl
  | h_odd k ih =>
    rw [powLoop_odd, show 2 * k + 1 + 1 = 2 * (k + 1) by omega, powLoop_even]
    have hsquare : (r.mul a).size ≤ (a.mul a).size := mul_size_mono hr le_rfl
    exact ih (one_le_square ha) hsquare (by rwa [size_one_mul (mul_rounded a a)])

theorem pow_zero_eq (a : Double) : a.pow 0 = ofNat 1 := powLoop_zero _ _

/-- The powers of a number that is not below one do not decrease. -/
theorem pow_size_mono (ha : (ofNat 1).size ≤ a.size) (h : m ≤ n) :
    (a.pow m).size ≤ (a.pow n).size := by
  have hproduct : (ofNat 1).size ≤ ((ofNat 1).mul a).size := by
    rw [← size_one_mul one_rounded]
    exact mul_size_mono le_rfl ha
  induction n, h using Nat.le_induction with
  | base => exact le_rfl
  | succ n _ ih => exact ih.trans (powLoop_le_succ n ha ha hproduct)

end Checkup.Double
