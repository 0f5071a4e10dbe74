import Mathlib.Algebra.Order.Ring.Abs
import Mathlib.Order.WithBot
import Mathlib.Tactic.FieldSimp
import Mathlib.Tactic.NormNum
import Checkup.Proofs.Numeric.Value

/-!
# The double nearest to a value

Around a positive value the doubles are the multiples of a power of two, its grid, and `ofRatio` picks one
that is nearest. Nothing else about it is needed to see that rounding keeps the order, leaves alone what a
double can represent, and is off by half the width of the grid at most. A sign is of no interest here, and
whatever is not finite counts as larger than all values.

Results:
* `exponentOf_grid`: the exponent that a quotient gets is the one of the grid around it.
* `nearest_spec`: what is nearest to a value is a nearest point of its grid, unless that is too large;
  by `ofRatio_nearest` this is so for every quotient of that value.
* `nearest_mono`: rounding keeps the order.
* `nearest_of_representable` and `nearest_idem`: what a double can represent stays as it is.
* `nearest_error`, `nearest_close` and `nearest_relative`: how far off it is.
* `nearest_absorbs`: from `2 ^ 53` on, less than one more makes no difference.
-/
namespace Checkup

/-- A rounded quotient is at most a half away from the quotient. -/
theorem roundDiv_close (n : Nat) {d : Nat} (hd : 0 < d) :
    |(roundDiv n d : ℚ) - n / d| ≤ 1 / 2 := by
  have hpos : (0 : ℚ) < d := by exact_mod_cast hd
  have hparts : (d : ℚ) * (n / d : Nat) + (n % d : Nat) = n := by exact_mod_cast Nat.div_add_mod n d
  have hquot : (n : ℚ) / d = (n / d : Nat) + (n % d : Nat) / d := by
    rw [← hparts, add_div, mul_div_cancel_left₀ _ hpos.ne']
  rw [hquot, abs_le]
  rcases roundDiv_cases n d with ⟨hr, hrest⟩ | ⟨hr, hrest⟩
  · have hhalf : 2 * (n % d) ≤ d := by omega
    have hle : ((n % d : Nat) : ℚ) / d ≤ 1 / 2 := by
      rw [div_le_div_iff₀ hpos two_pos]
      exact_mod_cast (by omega : n % d * 2 ≤ 1 * d)
    have hnonneg : (0 : ℚ) ≤ ((n % d : Nat) : ℚ) / d := by positivity
    rw [hr]
    constructor <;> linarith
  · have hle : (1 : ℚ) / 2 ≤ ((n % d : Nat) : ℚ) / d := by
      rw [div_le_div_iff₀ two_pos hpos]
      exact_mod_cast (by omega : 1 * d ≤ n % d * 2)
    have hlt : ((n % d : Nat) : ℚ) / d ≤ 1 := by
      rw [div_le_one hpos]
      exact_mod_cast (Nat.mod_lt n hd).le
    rw [hr, Nat.cast_add, Nat.cast_one]
    constructor <;> linarith

/-- The rounded quotient depends on the value of the quotient only. -/
theorem roundDiv_congr {n d n' d' : Nat} (hd : 0 < d) (hd' : 0 < d')
    (h : (n : ℚ) / d = n' / d') : roundDiv n d = roundDiv n' d' := by
  have hpos : (d : ℚ) ≠ 0 := by exact_mod_cast hd.ne'
  have hpos' : (d' : ℚ) ≠ 0 := by exact_mod_cast hd'.ne'
  have hcross : n * d' = n' * d := by
    rw [div_eq_div_iff hpos hpos'] at h
    exact_mod_cast h
  exact Nat.le_antisymm (roundDiv_le_roundDiv hd hd' hcross.le)
    (roundDiv_le_roundDiv hd' hd hcross.ge)

namespace Double

/-! ## The grid around a value -/

/-- The doubles around a value are the multiples of `2 ^ e`, as if there were no greatest exponent. -/
structure Grid (v : ℚ) (e : ℤ) : Prop where
  least : -1074 ≤ e
  below : v < 2 ^ (e + 53)
  above : -1074 < e → 2 ^ (e + 52) ≤ v

namespace Grid

variable {v w : ℚ} {e f : ℤ}

theorem le (hv : Grid v e) (hw : Grid w f) (h : v ≤ w) : e ≤ f := by
  by_contra hlt
  have hup : (2 : ℚ) ^ (f + 53) ≤ 2 ^ (e + 52) := zpow_le_zpow_right₀ one_le_two (by omega)
  have habove := hv.above (by have := hw.least; omega)
  linarith [hw.below]

theorem unique (hv : Grid v e) (hw : Grid v f) : e = f :=
  le_antisymm (hv.le hw le_rfl) (hw.le hv le_rfl)

/-- The whole number nearest to a value in units of its grid has at most 53 bits, or is one more. -/
theorem snapped_le (he : Grid v e) {m : Nat} (hm : |(m : ℚ) - v / 2 ^ e| ≤ 1 / 2) :
    m ≤ 2 ^ (53 : Nat) := by
  have hbelow : v / 2 ^ e < 2 ^ (53 : ℤ) := by
    rw [div_lt_iff₀ (by positivity), ← zpow_add₀ two_ne_zero, add_comm]
    exact he.below
  have hlt : (m : ℚ) < 2 ^ (53 : ℤ) + 1 := by linarith [(abs_le.mp hm).2]
  exact Nat.lt_succ_iff.mp (by exact_mod_cast hlt)

theorem le_snapped (he : Grid v e) (hlow : -1074 < e) {m : Nat}
    (hm : |(m : ℚ) - v / 2 ^ e| ≤ 1 / 2) : 2 ^ (52 : Nat) ≤ m := by
  have habove : 2 ^ (52 : ℤ) ≤ v / 2 ^ e := by
    rw [le_div_iff₀ (by positivity), ← zpow_add₀ two_ne_zero, add_comm]
    exact he.above hlow
  have hlt : (2 : ℚ) ^ (52 : ℤ) < m + 1 := by linarith [(abs_le.mp hm).1]
  exact Nat.lt_succ_iff.mp (by exact_mod_cast hlt)

end Grid

theorem scaled_pos {num den : Nat} (hd : 0 < den) (e : ℤ) : 0 < (scaled num den e).2 := by
  cases e with
  | ofNat k => exact Nat.mul_pos hd (Nat.two_pow_pos k)
  | negSucc k => exact hd

/-- Numerator and denominator of a quotient in units of `2 ^ e`. -/
theorem scaled_value (num den : Nat) (e : ℤ) :
    ((scaled num den e).1 : ℚ) / (scaled num den e).2 = num / den / 2 ^ e := by
  cases e with
  | ofNat k => simp [scaled, div_div]
  | negSucc k => simp [scaled, zpow_negSucc, mul_div_right_comm]

/-- The multiple of `2 ^ e` nearest to a quotient. -/
def snap (num den : Nat) (e : ℤ) : Nat := roundDiv (scaled num den e).1 (scaled num den e).2

theorem snap_close (num : Nat) {den : Nat} (hd : 0 < den) (e : ℤ) :
    |(snap num den e : ℚ) - num / den / 2 ^ e| ≤ 1 / 2 := by
  rw [← scaled_value]
  exact roundDiv_close _ (scaled_pos hd e)

theorem snap_congr {num den num' den' : Nat} (hd : 0 < den) (hd' : 0 < den')
    (h : (num : ℚ) / den = num' / den') (e : ℤ) : snap num den e = snap num' den' e :=
  roundDiv_congr (scaled_pos hd e) (scaled_pos hd' e) (by rw [scaled_value, scaled_value, h])

theorem exponentOf_eq (num den : Nat) :
    exponentOf num den =
      let e : ℤ := (Nat.log2 num : ℤ) - (Nat.log2 den : ℤ) - 52
      max (-1074) (if (scaled num den e).1 / (scaled num den e).2 < 2 ^ (52 : Nat) then e - 1 else e) :=
  rfl

theorem two_zpow_log2_le {n : Nat} (hn : 0 < n) : (2 : ℚ) ^ (Nat.log2 n : ℤ) ≤ n := by
  rw [zpow_natCast]
  exact_mod_cast Nat.log2_self_le hn.ne'

theorem lt_two_zpow_log2 (n : Nat) : (n : ℚ) < 2 ^ ((Nat.log2 n : ℤ) + 1) := by
  have h : (n : ℚ) < ((2 ^ (Nat.log2 n + 1) : Nat) : ℚ) := by exact_mod_cast Nat.lt_log2_self
  rw [Nat.cast_pow] at h
  exact_mod_cast h

/-- The logarithms of numerator and denominator give a quotient up to a factor of four. -/
theorem quotient_bounds {num den : Nat} (hn : 0 < num) (hd : 0 < den) :
    2 ^ ((Nat.log2 num : ℤ) - Nat.log2 den - 1) < (num : ℚ) / den ∧
      (num : ℚ) / den < 2 ^ ((Nat.log2 num : ℤ) - Nat.log2 den + 1) := by
  have hden : (0 : ℚ) < den := by exact_mod_cast hd
  have hnum := two_zpow_log2_le hn
  have hnum' := lt_two_zpow_log2 num
  have hlow := two_zpow_log2_le hd
  have hhigh := lt_two_zpow_log2 den
  generalize (Nat.log2 num : ℤ) = a at *
  generalize (Nat.log2 den : ℤ) = b at *
  constructor
  · rw [lt_div_iff₀ hden]
    calc (2 : ℚ) ^ (a - b - 1) * den < 2 ^ (a - b - 1) * 2 ^ (b + 1) := by gcongr
      _ = 2 ^ a := by rw [← zpow_add₀ two_ne_zero]; congr 1; omega
      _ ≤ num := hnum
  · rw [div_lt_iff₀ hden]
    calc (num : ℚ) < 2 ^ (a + 1) := hnum'
      _ = 2 ^ (a - b + 1) * 2 ^ b := by rw [← zpow_add₀ two_ne_zero]; congr 1; omega
      _ ≤ 2 ^ (a - b + 1) * den := by gcongr

/-- In units of `2 ^ e` a quotient has fewer than 53 bits exactly if it is below `2 ^ (e + 52)`. -/
theorem scaled_lt_iff (num : Nat) {den : Nat} (hd : 0 < den) (e : ℤ) :
    (scaled num den e).1 / (scaled num den e).2 < 2 ^ (52 : Nat) ↔ (num : ℚ) / den < 2 ^ (e + 52) := by
  have hpos : 0 < (scaled num den e).2 := scaled_pos hd e
  have hpos' : (0 : ℚ) < (scaled num den e).2 := by exact_mod_cast hpos
  have hexp : (2 : ℚ) ^ (e + 52) = 2 ^ (52 : ℕ) * 2 ^ e := by
    rw [← zpow_natCast, ← zpow_add₀ two_ne_zero, add_comm]
    rfl
  rw [Nat.div_lt_iff_lt_mul hpos, hexp, ← div_lt_iff₀ (by positivity), ← scaled_value,
    div_lt_iff₀ hpos']
  exact_mod_cast Iff.rfl

/-- The exponent of a quotient is the one of the grid around it. -/
theorem exponentOf_grid {num den : Nat} (hn : 0 < num) (hd : 0 < den) :
    Grid (num / den) (exponentOf num den) := by
  have hfloor := scaled_lt_iff num hd ((Nat.log2 num : ℤ) - Nat.log2 den - 52)
  obtain ⟨hlow, hhigh⟩ := quotient_bounds hn hd
  rw [exponentOf_eq]
  generalize (Nat.log2 num : ℤ) - Nat.log2 den = e at *
  dsimp only
  rw [sub_add_cancel] at hfloor
  split
  · rename_i h
    have hv := hfloor.mp h
    refine ⟨le_max_left .., ?_, fun hlt => ?_⟩
    · refine hv.trans_le (zpow_le_zpow_right₀ one_le_two ?_)
      omega
    · rw [show max (-1074) (e - 52 - 1) + 52 = e - 1 by omega]
      exact hlow.le
  · rename_i h
    have hv := not_lt.mp (mt hfloor.mpr h)
    refine ⟨le_max_left .., ?_, fun hlt => ?_⟩
    · refine hhigh.trans_le (zpow_le_zpow_right₀ one_le_two ?_)
      omega
    · rw [show max (-1074) (e - 52) + 52 = e by omega]
      exact hv

/-! ## Sizes -/

/-- The value of a number without its sign; whatever is not finite is larger than all values. -/
def size : Double → WithTop ℚ
  | finite _ m e => ((m * 2 ^ e : ℚ) : WithTop ℚ)
  | _ => ⊤

/-- A value, unless it is beyond the finite range. -/
def capped (q : ℚ) : WithTop ℚ := if q < 2 ^ (1024 : ℤ) then q else ⊤

theorem capped_mono {p q : ℚ} (h : p ≤ q) : capped p ≤ capped q := by
  unfold capped
  split
  · split
    · exact_mod_cast h
    · exact le_top
  · rename_i hp
    rw [if_neg fun hq => hp (h.trans_lt hq)]

theorem capped_eq_some {p q : ℚ} (h : capped p = q) : q = p ∧ q < 2 ^ (1024 : ℤ) := by
  unfold capped at h
  split at h
  · rename_i hp
    obtain rfl := WithTop.coe_inj.mp h
    exact ⟨rfl, hp⟩
  · cases h

theorem capped_of_lt {q : ℚ} (h : q < 2 ^ (1024 : ℤ)) : capped q = q := if_pos h

theorem capped_of_le {q : ℚ} (h : 2 ^ (1024 : ℤ) ≤ q) : capped q = ⊤ := if_neg h.not_gt

/-- A significand of 53 bits, or one more than that, at an exponent. -/
theorem size_packed {s : Bool} {m : Nat} {e : ℤ} (hm : m ≤ 2 ^ (53 : Nat))
    (hlow : -1074 < e → 2 ^ (52 : Nat) ≤ m) :
    (let (m, e) := if m = 2 ^ (53 : Nat) then (2 ^ (52 : Nat), e + 1) else (m, e)
      if 971 < e then infinite s else finite s m e).size = capped (m * 2 ^ e) := by
  have hexp (a b : ℤ) : (2 : ℚ) ^ a * 2 ^ b = 2 ^ (a + b) := (zpow_add₀ two_ne_zero a b).symm
  by_cases hcarry : m = 2 ^ (53 : Nat)
  · have hvalue : (m : ℚ) * 2 ^ e = 2 ^ (e + 53) := by
      rw [hcarry, ← hexp, mul_comm]
      norm_num
    rw [if_pos hcarry, hvalue]
    dsimp only
    split
    · exact (capped_of_le (zpow_le_zpow_right₀ one_le_two (by omega))).symm
    · rw [capped_of_lt (zpow_lt_zpow_right₀ one_lt_two (by omega)), size, WithTop.coe_inj]
      have hbits : ((2 ^ (52 : Nat) : Nat) : ℚ) = 2 ^ (52 : ℤ) := by norm_num
      rw [hbits, hexp]
      congr 1
      omega
  · have hlt : (m : ℚ) < 2 ^ (53 : ℤ) := by exact_mod_cast lt_of_le_of_ne hm hcarry
    rw [if_neg hcarry]
    dsimp only
    split
    · have hle : (2 : ℚ) ^ (52 : ℤ) ≤ m := by exact_mod_cast hlow (by omega)
      refine (capped_of_le ?_).symm
      calc (2 : ℚ) ^ (1024 : ℤ) ≤ 2 ^ (52 + e) := zpow_le_zpow_right₀ one_le_two (by omega)
        _ = 2 ^ (52 : ℤ) * 2 ^ e := (hexp _ _).symm
        _ ≤ m * 2 ^ e := by gcongr
    · refine (capped_of_lt ?_).symm
      calc (m : ℚ) * 2 ^ e < 2 ^ (53 : ℤ) * 2 ^ e := by gcongr
        _ = 2 ^ (53 + e) := hexp _ _
        _ ≤ 2 ^ (1024 : ℤ) := zpow_le_zpow_right₀ one_le_two (by omega)

theorem ofRatio_zero (s : Bool) (den : Nat) : (ofRatio s 0 den).size = (0 : ℚ) := by
  simp [ofRatio, zero, size]

/-- The number nearest to a quotient is its rounding on the grid around it. -/
theorem size_ofRatio (s : Bool) {num den : Nat} (hn : 0 < num) (hd : 0 < den) :
    (ofRatio s num den).size =
      capped (snap num den (exponentOf num den) * 2 ^ exponentOf num den) := by
  have hgrid := exponentOf_grid hn hd
  have hclose := snap_close num hd (exponentOf num den)
  rw [ofRatio, if_neg hn.ne']
  exact size_packed (hgrid.snapped_le hclose) fun he => hgrid.le_snapped he hclose

/-! ## The nearest number -/

/-- The size of the number nearest to a value. -/
def nearest (v : ℚ) : WithTop ℚ := (ofRatio false v.num.toNat v.den).size

variable {v w x q r : ℚ} {e : ℤ}

theorem toNat_num_div_den (hv : 0 ≤ v) : (v.num.toNat : ℚ) / v.den = v := by
  have hnum : ((v.num.toNat : ℤ) : ℚ) = v.num := by rw [Int.toNat_of_nonneg (Rat.num_nonneg.mpr hv)]
  rw [← Int.cast_natCast, hnum, Rat.num_div_den]

theorem toNat_num_pos (hv : 0 < v) : 0 < v.num.toNat := by
  have := Rat.num_pos.mpr hv
  omega

theorem nearest_of_nonpos (hv : v ≤ 0) : nearest v = (0 : ℚ) := by
  have hnum : v.num.toNat = 0 := Int.toNat_eq_zero.mpr (Rat.num_nonpos.mpr hv)
  rw [nearest, hnum, ofRatio_zero]

theorem exists_grid (hv : 0 < v) : ∃ e, Grid v e := by
  have hgrid := exponentOf_grid (toNat_num_pos hv) v.den_pos
  rw [toNat_num_div_den hv.le] at hgrid
  exact ⟨_, hgrid⟩

/-- The number nearest to a value is a nearest point of the grid around it. -/
theorem nearest_spec (hv : 0 < v) (he : Grid v e) :
    ∃ m : Nat, |(m : ℚ) - v / 2 ^ e| ≤ 1 / 2 ∧ nearest v = capped (m * 2 ^ e) := by
  have hgrid := exponentOf_grid (toNat_num_pos hv) v.den_pos
  have hclose := snap_close v.num.toNat v.den_pos e
  rw [toNat_num_div_den hv.le] at hgrid hclose
  obtain rfl := hgrid.unique he
  exact ⟨_, hclose, size_ofRatio false (toNat_num_pos hv) v.den_pos⟩

/-- What is nearest to a quotient depends on its value only. -/
theorem ofRatio_nearest (s : Bool) (num : Nat) {den : Nat} (hd : 0 < den) :
    (ofRatio s num den).size = nearest (num / den) := by
  rcases Nat.eq_zero_or_pos num with rfl | hn
  · rw [ofRatio_zero, Nat.cast_zero, zero_div, nearest_of_nonpos le_rfl]
  · have hv : (0 : ℚ) < num / den := div_pos (by exact_mod_cast hn) (by exact_mod_cast hd)
    have hvalue := toNat_num_div_den hv.le
    have hgrid := exponentOf_grid (toNat_num_pos hv) (num / den : ℚ).den_pos
    rw [hvalue] at hgrid
    rw [nearest, size_ofRatio s hn hd, size_ofRatio false (toNat_num_pos hv) (Rat.den_pos _),
      hgrid.unique (exponentOf_grid hn hd), snap_congr hd (Rat.den_pos _) hvalue.symm]

theorem size_nonneg (d : Double) : ((0 : ℚ) : WithTop ℚ) ≤ d.size := by
  cases d with
  | finite s m e => exact WithTop.coe_le_coe.mpr (magnitude_nonneg m e)
  | nan | infinite s => exact le_top

/-- Rounding keeps the order. -/
theorem nearest_mono (h : v ≤ w) : nearest v ≤ nearest w := by
  rcases h.eq_or_lt with rfl | hlt
  · exact le_rfl
  rcases le_or_gt v 0 with hv | hv
  · rw [nearest_of_nonpos hv]
    exact size_nonneg _
  obtain ⟨e, he⟩ := exists_grid hv
  obtain ⟨f, hf⟩ := exists_grid (hv.trans hlt)
  obtain ⟨m, hm, hnear⟩ := nearest_spec hv he
  obtain ⟨n, hn, hnear'⟩ := nearest_spec (hv.trans hlt) hf
  rw [hnear, hnear']
  refine capped_mono ?_
  rcases (he.le hf h).eq_or_lt with rfl | hef
  · -- On one grid each value is at most a half away from its point.
    have hdiv : v / 2 ^ e < w / 2 ^ e := by gcongr
    have hmn : (m : ℚ) < n + 1 := by linarith [(abs_le.mp hm).2, (abs_le.mp hn).1]
    have hle : m ≤ n := Nat.lt_succ_iff.mp (by exact_mod_cast hmn)
    gcongr
  · -- The points of a finer grid are below those of a coarser one.
    have hm' : (m : ℚ) ≤ 2 ^ (53 : ℤ) := by exact_mod_cast he.snapped_le hm
    have hn' : (2 : ℚ) ^ (52 : ℤ) ≤ n := by
      exact_mod_cast hf.le_snapped (by have := he.least; omega) hn
    calc (m : ℚ) * 2 ^ e ≤ 2 ^ (53 : ℤ) * 2 ^ e := by gcongr
      _ = 2 ^ (53 + e) := (zpow_add₀ two_ne_zero _ _).symm
      _ ≤ 2 ^ (52 + f) := zpow_le_zpow_right₀ one_le_two (by omega)
      _ = 2 ^ (52 : ℤ) * 2 ^ f := zpow_add₀ two_ne_zero _ _
      _ ≤ n * 2 ^ f := by gcongr

/-! ## Representable values -/

/-- The values that a double can have, if there were no greatest exponent. -/
def Representable (q : ℚ) : Prop :=
  ∃ (k : Nat) (f : ℤ), k < 2 ^ (53 : Nat) ∧ -1074 ≤ f ∧ q = k * 2 ^ f

/-- A nearest number has a significand of 53 bits, unless its exponent is the least. -/
theorem nearest_normal (h : nearest v = q) :
    ∃ (k : Nat) (f : ℤ), k < 2 ^ (53 : Nat) ∧ -1074 ≤ f ∧ (-1074 < f → 2 ^ (52 : Nat) ≤ k) ∧
      q = k * 2 ^ f := by
  rcases le_or_gt v 0 with hv | hv
  · rw [nearest_of_nonpos hv, WithTop.coe_inj] at h
    exact ⟨0, -1074, by decide, le_rfl, fun h => absurd h (lt_irrefl _), by simp [← h]⟩
  · obtain ⟨e, he⟩ := exists_grid hv
    obtain ⟨m, hm, hnear⟩ := nearest_spec hv he
    have hq := (capped_eq_some (hnear.symm.trans h)).1
    by_cases hcarry : m = 2 ^ (53 : Nat)
    · refine ⟨2 ^ (52 : Nat), e + 1, by decide, by have := he.least; omega, fun _ => le_rfl, ?_⟩
      rw [hq, hcarry, zpow_add₀ two_ne_zero]
      push_cast
      linarith
    · exact ⟨m, e, lt_of_le_of_ne (he.snapped_le hm) hcarry, he.least,
        fun hlow => he.le_snapped hlow hm, hq⟩

theorem nearest_representable (h : nearest v = q) : Representable q := by
  obtain ⟨k, f, hk, hf, -, hq⟩ := nearest_normal h
  exact ⟨k, f, hk, hf, hq⟩

theorem nearest_lt (h : nearest v = q) : q < 2 ^ (1024 : ℤ) := by
  rcases le_or_gt v 0 with hv | hv
  · rw [nearest_of_nonpos hv, WithTop.coe_inj] at h
    rw [← h]
    positivity
  · obtain ⟨e, he⟩ := exists_grid hv
    obtain ⟨m, -, hnear⟩ := nearest_spec hv he
    exact (capped_eq_some (hnear.symm.trans h)).2

theorem natCast_eq_of_close {m n : Nat} (h : |(m : ℚ) - n| < 1) : m = n := by
  obtain ⟨h₁, h₂⟩ := abs_lt.mp h
  have hle : (m : ℚ) < n + 1 := by linarith
  have hge : (n : ℚ) < m + 1 := by linarith
  exact Nat.le_antisymm (Nat.lt_succ_iff.mp (by exact_mod_cast hle))
    (Nat.lt_succ_iff.mp (by exact_mod_cast hge))

/-- A value that a double can have is its own nearest number. -/
theorem nearest_of_representable (h : Representable v) (hlt : v < 2 ^ (1024 : ℤ)) :
    nearest v = v := by
  obtain ⟨k, f, hk, hf, hv⟩ := h
  rcases le_or_gt v 0 with hnonpos | hpos
  · have hzero : v = 0 := le_antisymm hnonpos (hv ▸ magnitude_nonneg k f)
    rw [nearest_of_nonpos hnonpos, hzero]
  obtain ⟨e, he⟩ := exists_grid hpos
  have hk' : (k : ℚ) < 2 ^ (53 : ℤ) := by exact_mod_cast hk
  -- The grid is not coarser than the value itself.
  have hef : e ≤ f := by
    by_contra hlt
    have hup : v < 2 ^ (53 + f) := by
      rw [hv, zpow_add₀ two_ne_zero]
      gcongr
    have habove := he.above (by omega)
    linarith [zpow_le_zpow_right₀ (one_le_two : (1 : ℚ) ≤ 2) (show 53 + f ≤ e + 52 by omega)]
  obtain ⟨m, hm, hnear⟩ := nearest_spec hpos he
  obtain ⟨n, hn⟩ := Int.eq_ofNat_of_zero_le (sub_nonneg.mpr hef)
  have hwhole : v / 2 ^ e = (k * 2 ^ n : Nat) := by
    rw [hv, mul_div_assoc, ← zpow_sub₀ two_ne_zero, hn]
    push_cast
    rfl
  rw [hwhole] at hm
  have hmn := natCast_eq_of_close (hm.trans_lt (by norm_num))
  have hvalue : (m : ℚ) * 2 ^ e = v := by
    rw [hmn, ← hwhole, div_mul_cancel₀ _ (by positivity)]
  rw [hnear, hvalue, capped_of_lt hlt]

/-- Rounding twice is rounding once. -/
theorem nearest_idem (h : nearest v = q) : nearest q = q :=
  nearest_of_representable (nearest_representable h) (nearest_lt h)

theorem representable_natCast {n : Nat} (hn : n ≤ 2 ^ (53 : Nat)) : Representable n := by
  rcases hn.lt_or_eq with hlt | rfl
  · exact ⟨n, 0, hlt, by decide, by simp⟩
  · exact ⟨2 ^ (52 : Nat), 1, by decide, by decide, by norm_num⟩

theorem nearest_natCast {n : Nat} (hn : n ≤ 2 ^ (53 : Nat)) : nearest n = ((n : ℚ) : WithTop ℚ) := by
  refine nearest_of_representable (representable_natCast hn) ?_
  have hle : (n : ℚ) ≤ 2 ^ (53 : ℤ) := by exact_mod_cast hn
  exact hle.trans_lt (zpow_lt_zpow_right₀ one_lt_two (by decide))

/-! ## The error -/

/-- The error is at most half the width of the grid. -/
theorem nearest_error (hv : 0 < v) (he : Grid v e) (h : nearest v = r) : |r - v| ≤ 2 ^ (e - 1) := by
  obtain ⟨m, hm, hnear⟩ := nearest_spec hv he
  have hr := (capped_eq_some (hnear.symm.trans h)).1
  have hpow : (0 : ℚ) < 2 ^ e := by positivity
  have hdiff : r - v = (m - v / 2 ^ e) * 2 ^ e := by
    rw [hr, sub_mul, div_mul_cancel₀ _ hpow.ne']
  rw [hdiff, abs_mul, abs_of_pos hpow, zpow_sub_one₀ two_ne_zero, mul_comm]
  gcongr
  simpa using hm

/-- Below `2 ^ k` the error is at most `2 ^ (k - 54)`. -/
theorem nearest_close {k : ℤ} (hv : 0 ≤ v) (hk : v < 2 ^ k) (hlow : -1021 ≤ k) (hhigh : k ≤ 1023) :
    ∃ r : ℚ, nearest v = r ∧ |r - v| ≤ 2 ^ (k - 54) := by
  rcases hv.eq_or_lt with rfl | hpos
  · exact ⟨0, nearest_of_nonpos le_rfl, by rw [sub_zero, abs_zero]; positivity⟩
  obtain ⟨e, he⟩ := exists_grid hpos
  have hek : e ≤ k - 53 := by
    by_contra hlt
    have habove := he.above (by omega)
    linarith [zpow_le_zpow_right₀ (one_le_two : (1 : ℚ) ≤ 2) (show k ≤ e + 52 by omega)]
  obtain ⟨m, hm, hnear⟩ := nearest_spec hpos he
  have hm' : (m : ℚ) ≤ 2 ^ (53 : ℤ) := by exact_mod_cast he.snapped_le hm
  have hfinite : (m : ℚ) * 2 ^ e < 2 ^ (1024 : ℤ) := by
    calc (m : ℚ) * 2 ^ e ≤ 2 ^ (53 : ℤ) * 2 ^ e := by gcongr
      _ = 2 ^ (53 + e) := (zpow_add₀ two_ne_zero _ _).symm
      _ < 2 ^ (1024 : ℤ) := zpow_lt_zpow_right₀ one_lt_two (by omega)
  rw [capped_of_lt hfinite] at hnear
  exact ⟨_, hnear, (nearest_error hpos he hnear).trans
    (zpow_le_zpow_right₀ one_le_two (by omega))⟩

/-- The error is at most one part in `2 ^ 53`, or negligible. -/
theorem nearest_relative (hv : 0 ≤ v) (h : nearest v = r) :
    |r - v| ≤ v * 2 ^ (-53 : ℤ) + 2 ^ (-1075 : ℤ) := by
  rcases hv.eq_or_lt with rfl | hpos
  · rw [nearest_of_nonpos le_rfl, WithTop.coe_inj] at h
    rw [← h, sub_zero, abs_zero]
    positivity
  obtain ⟨e, he⟩ := exists_grid hpos
  have herror := nearest_error hpos he h
  rcases he.least.eq_or_lt with rfl | hlow
  · exact herror.trans (le_add_of_nonneg_left (by positivity))
  · refine herror.trans (le_trans ?_ (le_add_of_nonneg_right (by positivity)))
    calc (2 : ℚ) ^ (e - 1) = 2 ^ (e + 52) * 2 ^ (-53 : ℤ) := by
          rw [← zpow_add₀ two_ne_zero]; congr 1; omega
      _ ≤ v * 2 ^ (-53 : ℤ) := by
          gcongr
          exact he.above hlow

/-- What is less than one is lost beside a number of `2 ^ 53` and more. -/
theorem nearest_absorbs (h : nearest v = q) (hq : 2 ^ (53 : ℤ) ≤ q) (hx : 0 ≤ x) (hlt : x < 1) :
    nearest (q + x) = q := by
  have hfinite := nearest_lt h
  obtain ⟨k, f, hk, hf, hnormal, rfl⟩ := nearest_normal h
  have hk' : (k : ℚ) + 1 ≤ 2 ^ (53 : ℤ) := by exact_mod_cast hk
  have hf' : 1 ≤ f := by
    by_contra hle
    have hpow : (2 : ℚ) ^ f ≤ 1 := zpow_le_one_of_nonpos₀ one_le_two (by omega)
    have : (k : ℚ) * 2 ^ f ≤ k := mul_le_of_le_one_right (Nat.cast_nonneg k) hpow
    linarith
  have htwo : (2 : ℚ) ≤ 2 ^ f := by simpa using zpow_le_zpow_right₀ (one_le_two : (1 : ℚ) ≤ 2) hf'
  have hlow : (2 : ℚ) ^ (52 : ℤ) ≤ k := by exact_mod_cast hnormal (by omega)
  have hgrid : Grid (k * 2 ^ f + x) f := by
    refine ⟨hf, ?_, fun _ => ?_⟩
    · calc (k : ℚ) * 2 ^ f + x < (k + 1) * 2 ^ f := by rw [add_mul, one_mul]; linarith
        _ ≤ 2 ^ (53 : ℤ) * 2 ^ f := by gcongr
        _ = 2 ^ (f + 53) := by rw [← zpow_add₀ two_ne_zero, add_comm]
    · calc (2 : ℚ) ^ (f + 52) = 2 ^ (52 : ℤ) * 2 ^ f := by rw [← zpow_add₀ two_ne_zero, add_comm]
        _ ≤ k * 2 ^ f := by gcongr
        _ ≤ k * 2 ^ f + x := by linarith
  obtain ⟨m, hm, hnear⟩ := nearest_spec (by linarith [zpow_pos (two_pos : (0 : ℚ) < 2) 53]) hgrid
  have hshare : x / 2 ^ f < 1 / 2 := by
    rw [div_lt_div_iff₀ (by linarith) two_pos]
    linarith
  have hshare' : 0 ≤ x / 2 ^ f := by positivity
  rw [add_div, mul_div_cancel_right₀ _ (by positivity), abs_le] at hm
  have hmk : m = k := natCast_eq_of_close (abs_lt.mpr ⟨by linarith, by linarith⟩)
  rw [hnear, hmk, capped_of_lt hfinite]

end Double
end Checkup
