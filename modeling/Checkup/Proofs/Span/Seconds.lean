import Checkup.Proofs.Numeric.Arithmetic

/-!
# Lengths of time as seconds

A length of time becomes a double number of seconds by two roundings and a sum that is rounded again, and
seconds become a length of time by rounding to nanoseconds. Both keep the order. There and back is the same
length of time up to `2 ^ 23` seconds; from there on a nanosecond may be lost, and close to the longest
length of time there is no way back.

Results:
* `ofSeconds?_of_size_le` and `ofSeconds?_congr`: seconds to a length of time keep the order.
* `ofSeconds?_eq_none_iff`: which seconds are no length of time.
* `toSeconds_size_mono`: a length of time to seconds keeps the order.
* `le_size_toSeconds_iff`: which lengths of time have too many seconds for the way back.
* `rounded?_of_le`: there and back without loss.
* `rounded?_roughly`: how much is lost at most.
-/
namespace Checkup

open Double

namespace Span

variable {c d top : Span} {a b x : Double} {q : ℚ}

/-- What is left of a length of time that is turned into seconds and back. -/
def rounded? (d : Span) : Option Span := ofSeconds? d.toSeconds

/-! ## From seconds -/

theorem ofSeconds?_of_top (h : x.size = ⊤) : ofSeconds? x = none := by
  match x with
  | .nan | .infinite _ => rfl
  | .finite .. => cases h

/-- A number of seconds gives a nearest whole number of nanoseconds, unless it is too large. -/
theorem ofSeconds?_of_size (hx : x.Unsigned) (h : x.size = q) :
    ∃ k : Nat, |(k : ℚ) - q * 1000000000| ≤ 1 / 2 ∧
      ofSeconds? x = if k ≤ longest.nanos then some ⟨k⟩ else none := by
  match x with
  | .nan | .infinite _ => cases h
  | .finite s m e =>
    cases hx
    obtain rfl := WithTop.coe_inj.mp h
    by_cases hm : m = 0
    · subst hm
      exact ⟨0, by simp, by simp [ofSeconds?]⟩
    · have hclose := roundDiv_close ((ratioOf m e).1 * 1000000000) (ratioOf_pos m e)
      rw [Nat.cast_mul, mul_div_right_comm, ratioOf_value] at hclose
      refine ⟨_, by exact_mod_cast hclose, ?_⟩
      simp only [ofSeconds?, if_neg hm, Bool.false_eq_true, if_false]

theorem ofSeconds?_le_longest (h : ofSeconds? x = some d) : d ≤ longest := by
  match x with
  | .nan | .infinite _ => cases h
  | .finite s m e =>
    simp only [ofSeconds?] at h
    split at h
    · cases h
      exact Nat.zero_le _
    · split at h
      · cases h
      · split at h
        · rename_i hle
          cases h
          exact hle
        · cases h

theorem atMost_of_size (ha : a.Unsigned) (hb : b.Unsigned) (hq : b.size = q)
    (h : a.size ≤ b.size) : a.AtMost b := by
  match a, b with
  | _, .nan | _, .infinite _ => cases hq
  | .nan, .finite .. | .infinite _, .finite .. => exact absurd h (WithTop.not_top_le_coe _)
  | .finite s m e, .finite t n f =>
    cases ha
    cases hb
    exact Nat.not_lt.mp (mt magnitude_lt_iff.mp (WithTop.coe_le_coe.mp h).not_gt)

/-- Fewer seconds are a length of time if more are, and not a longer one. -/
theorem ofSeconds?_of_size_le (ha : a.Unsigned) (hb : b.Unsigned) (h : a.size ≤ b.size)
    (htop : ofSeconds? b = some top) : ∃ d, ofSeconds? a = some d ∧ d ≤ top := by
  cases hsize : b.size with
  | top =>
    rw [ofSeconds?_of_top hsize] at htop
    cases htop
  | coe q => exact ofSeconds?_le (atMost_of_size ha hb hsize h) htop

/-- Only the size of a number without a minus sign counts. -/
theorem ofSeconds?_congr (ha : a.Unsigned) (hb : b.Unsigned) (h : a.size = b.size) :
    ofSeconds? a = ofSeconds? b := by
  cases htop : ofSeconds? b with
  | none =>
    by_contra hsome
    obtain ⟨e, he⟩ := Option.ne_none_iff_exists'.mp hsome
    obtain ⟨_, hd, -⟩ := ofSeconds?_of_size_le hb ha h.ge he
    cases htop.symm.trans hd
  | some top =>
    obtain ⟨d, hd, hle⟩ := ofSeconds?_of_size_le ha hb h.le htop
    obtain ⟨e, he, hge⟩ := ofSeconds?_of_size_le hb ha h.ge hd
    cases htop.symm.trans he
    have hnanos : d.nanos = top.nanos := Nat.le_antisymm hle hge
    rw [hd, Option.some_inj]
    exact congrArg Span.mk hnanos

/-- A double below `2 ^ 64` is at least one below it. -/
theorem representable_le (h : Representable q) (hlt : q < 2 ^ (64 : ℤ)) : q ≤ 2 ^ (64 : ℤ) - 1 := by
  obtain ⟨k, f, hk, -, rfl⟩ := h
  rcases le_total 0 f with hf | hf
  · -- With an exponent that is not negative it is a whole number.
    obtain ⟨n, rfl⟩ := Int.eq_ofNat_of_zero_le hf
    have hlt' : k * 2 ^ n < 2 ^ (64 : Nat) := by exact_mod_cast hlt
    have hle : (k : ℚ) * 2 ^ (n : ℤ) + 1 ≤ 2 ^ (64 : ℤ) := by exact_mod_cast hlt'
    linarith
  · have hpow : (2 : ℚ) ^ f ≤ 1 := zpow_le_one_of_nonpos₀ one_le_two hf
    have hle : (k : ℚ) * 2 ^ f ≤ k := mul_le_of_le_one_right (Nat.cast_nonneg k) hpow
    have hk' : (k : ℚ) < 2 ^ (53 : ℤ) := by exact_mod_cast hk
    have hroom : (2 : ℚ) ^ (53 : ℤ) ≤ 2 ^ (64 : ℤ) - 1 := by norm_num
    linarith

/-- A number that is not a length of time has at least `2 ^ 64` seconds. -/
theorem ofSeconds?_eq_none_iff (hx : x.Unsigned) (hr : x.Rounded) :
    ofSeconds? x = none ↔ ((2 ^ (64 : ℤ) : ℚ) : WithTop ℚ) ≤ x.size := by
  cases hsize : x.size with
  | top => exact iff_of_true (ofSeconds?_of_top hsize) le_top
  | coe q =>
    obtain ⟨k, hk, hx'⟩ := ofSeconds?_of_size hx hsize
    obtain ⟨hlow, hhigh⟩ := abs_le.mp hk
    have hend : (longest.nanos : ℚ) + 1 = 2 ^ (64 : ℤ) * 1000000000 := by
      have hnanos : longest.nanos = 18446744073709551615999999999 := by decide
      rw [hnanos]
      norm_num
    rw [hx', WithTop.coe_le_coe]
    constructor
    · intro hnone
      by_contra hlt
      have hq := representable_le (nearest_representable (hr q hsize)) (not_le.mp hlt)
      have hle : (k : ℚ) < longest.nanos + 1 := by linarith
      rw [if_pos (Nat.lt_succ_iff.mp (by exact_mod_cast hle))] at hnone
      cases hnone
    · intro hq
      have hlt : (longest.nanos : ℚ) < k := by linarith
      exact if_neg (Nat.not_le.mpr (by exact_mod_cast hlt))

/-! ## To seconds -/

theorem size_ofNat (n : Nat) : (ofNat n).size = nearest n := by
  rw [ofNat, ofRatio_nearest false n one_pos, Nat.cast_one, div_one]

/-- The nanoseconds beyond the whole seconds, in seconds. -/
theorem size_fraction {n : Nat} (hn : n < 1000000000) :
    (div (ofNat n) (ofNat 1000000000)).size = nearest (n / 1000000000) := by
  have hbillion : (ofNat 1000000000).size = ((1000000000 : ℚ) : WithTop ℚ) := by
    rw [size_ofNat, nearest_natCast (by decide)]
    norm_num
  rw [size_div ((size_ofNat n).trans (nearest_natCast (by omega))) hbillion (by norm_num)]

theorem nearest_fraction {n : Nat} (hn : n < 1000000000) :
    ∃ r : ℚ, nearest (n / 1000000000) = r ∧ 0 ≤ r ∧ r < 1 ∧
      |r - n / 1000000000| ≤ 2 ^ (-54 : ℤ) := by
  have hn' : (n : ℚ) ≤ 999999999 := by exact_mod_cast Nat.le_of_lt_succ hn
  have hnonneg : (0 : ℚ) ≤ n / 1000000000 := by positivity
  obtain ⟨r, hr, hclose⟩ := nearest_close (k := 0) hnonneg (by norm_num; linarith) (by decide) (by decide)
  rw [zero_sub] at hclose
  have hr0 : 0 ≤ r := WithTop.coe_le_coe.mp (hr ▸ size_nonneg _)
  refine ⟨r, hr, hr0, ?_, hclose⟩
  have hbound := (abs_le.mp hclose).2
  norm_num at hbound
  linarith

/-- The seconds of a length of time: its whole seconds are rounded, what is nearest to the rest is added,
and the sum is rounded again. -/
theorem size_toSeconds {p : ℚ} (d : Span) (hp : nearest d.seconds = p) :
    ∃ r : ℚ, (nearest (d.subsecond / 1000000000) = r ∧ 0 ≤ r ∧ r < 1 ∧
      |r - d.subsecond / 1000000000| ≤ 2 ^ (-54 : ℤ)) ∧ d.toSeconds.size = nearest (p + r) := by
  have hn : d.subsecond < 1000000000 := Nat.mod_lt _ (by decide)
  obtain ⟨r, hr⟩ := nearest_fraction hn
  exact ⟨r, hr, size_addMagnitudes ((size_ofNat _).trans hp) ((size_fraction hn).trans hr.1)⟩

theorem toSeconds_rounded (d : Span) : d.toSeconds.Rounded := addMagnitudes_rounded _ _

/-- A longer time does not have fewer seconds. -/
theorem toSeconds_size_mono (h : c ≤ d) : c.toSeconds.size ≤ d.toSeconds.size := by
  have hsec : c.seconds ≤ d.seconds := Nat.div_le_div_right h
  have hwhole : nearest c.seconds ≤ nearest d.seconds := nearest_mono (by exact_mod_cast hsec)
  cases hq : nearest d.seconds with
  | top =>
    have htop : d.toSeconds.size = ⊤ := size_addMagnitudes_left ((size_ofNat _).trans hq) _
    rw [htop]
    exact le_top
  | coe q =>
    rw [hq] at hwhole
    obtain ⟨p, hp, hpq⟩ := WithTop.le_coe_iff.mp hwhole
    obtain ⟨r, ⟨hr, hr0, hr1, -⟩, hc⟩ := size_toSeconds c hp
    obtain ⟨s, ⟨hs, hs0, hs1, -⟩, hd⟩ := size_toSeconds d hq
    rw [hc, hd]
    rcases hsec.eq_or_lt with heq | hlt
    · -- The same whole seconds: the nanoseconds decide.
      have hsub : c.subsecond ≤ d.subsecond := by
        have hle : c.nanos ≤ d.nanos := h
        simp only [seconds] at heq
        simp only [subsecond]
        omega
      have hrs : nearest (c.subsecond / 1000000000) ≤ nearest (d.subsecond / 1000000000) :=
        nearest_mono (by gcongr)
      rw [hr, hs] at hrs
      exact nearest_mono (add_le_add hpq (WithTop.coe_le_coe.mp hrs))
    · rcases lt_or_ge c.seconds (2 ^ (53 : Nat)) with hsmall | hlarge
      · -- The whole seconds of the shorter time are exact, and a second less than the others.
        have hexact := nearest_natCast hsmall.le
        obtain rfl := WithTop.coe_inj.mp (hp.symm.trans hexact)
        have hnext : nearest (c.seconds + 1 : Nat) ≤ nearest d.seconds :=
          nearest_mono (by exact_mod_cast hlt)
        rw [nearest_natCast hsmall, hq, WithTop.coe_le_coe, Nat.cast_add_one] at hnext
        exact nearest_mono (by linarith)
      · -- From here on the nanoseconds are lost.
        have hbig : nearest (2 ^ (53 : Nat) : Nat) ≤ nearest c.seconds :=
          nearest_mono (by exact_mod_cast hlarge)
        rw [nearest_natCast le_rfl, hp, WithTop.coe_le_coe] at hbig
        have hp' : 2 ^ (53 : ℤ) ≤ p := le_trans (by norm_num) hbig
        rw [nearest_absorbs hp hp' hr0 hr1, nearest_absorbs hq (hp'.trans hpq) hs0 hs1]
        exact WithTop.coe_le_coe.mpr hpq

/-! ## To seconds and back -/

theorem rounded?_mono (h : c ≤ d) (htop : d.rounded? = some top) :
    ∃ low, c.rounded? = some low ∧ low ≤ top :=
  ofSeconds?_of_size_le (toSeconds_unsigned c) (toSeconds_unsigned d) (toSeconds_size_mono h) htop

theorem cast_nanos (d : Span) : (d.nanos : ℚ) = (d.seconds + d.subsecond / 1000000000) * 1000000000 := by
  have h : 1000000000 * d.seconds + d.subsecond = d.nanos := Nat.div_add_mod d.nanos 1000000000
  rw [← h]
  push_cast
  linarith

/-- Up to `2 ^ 23` seconds, about 97 days, no nanosecond is lost. -/
theorem rounded?_of_le (h : d ≤ ofSeconds (2 ^ (23 : Nat))) : d.rounded? = some d := by
  rcases Nat.lt_or_eq_of_le (show d.nanos ≤ (ofSeconds (2 ^ (23 : Nat))).nanos from h) with hlt | heq
  · have hlt' : d.nanos < 1000000000 * 2 ^ (23 : Nat) := hlt
    have hsec : d.seconds + 1 ≤ 2 ^ (23 : Nat) := by
      simp only [seconds]
      omega
    obtain ⟨r, ⟨-, hr0, hr1, hclose⟩, hsize⟩ := size_toSeconds d (nearest_natCast (by omega))
    have hsec' : (d.seconds : ℚ) + 1 ≤ 2 ^ (23 : ℤ) := by exact_mod_cast hsec
    obtain ⟨t, ht, hsum⟩ := nearest_close (v := d.seconds + r) (k := 23) (by positivity) (by linarith)
      (by decide) (by decide)
    obtain ⟨k, hk, hrounded⟩ := ofSeconds?_of_size (toSeconds_unsigned d) (hsize.trans ht)
    -- Two roundings below `2 ^ 23` and one to nanoseconds miss the time by less than one.
    have hkn : k = d.nanos := by
      refine natCast_eq_of_close ?_
      rw [cast_nanos d]
      rw [abs_le] at hclose hsum hk
      norm_num at hclose hsum hk
      rw [abs_lt]
      constructor <;> linarith
    rw [rounded?, hrounded, hkn, if_pos]
    have hlongest : 1000000000 * 2 ^ (23 : Nat) ≤ longest.nanos := by decide
    omega
  · have hd : d = ofSeconds (2 ^ (23 : Nat)) := congrArg Span.mk heq
    rw [hd]
    decide +kernel

/-- Whole seconds come to `2 ^ 64` in double precision from `2 ^ 10` below that. -/
theorem le_size_toSeconds_iff :
    ((2 ^ (64 : ℤ) : ℚ) : WithTop ℚ) ≤ d.toSeconds.size ↔ 2 ^ (64 : Nat) - 2 ^ (10 : Nat) ≤ d.seconds := by
  constructor
  · intro hsize
    by_contra hlt
    have hle : d ≤ ofParts (2 ^ (64 : Nat) - 2 ^ (10 : Nat) - 1) 999999999 := by
      have h : d.nanos / 1000000000 < 2 ^ (64 : Nat) - 2 ^ (10 : Nat) := not_le.mp hlt
      show d.nanos ≤ 1000000000 * (2 ^ (64 : Nat) - 2 ^ (10 : Nat) - 1) + 999999999
      omega
    have hlast : (ofParts (2 ^ (64 : Nat) - 2 ^ (10 : Nat) - 1) 999999999).toSeconds =
        .finite false (2 ^ (53 : Nat) - 1) 11 := by
      decide +kernel
    have h := hsize.trans (toSeconds_size_mono hle)
    rw [hlast, size, WithTop.coe_le_coe] at h
    norm_num at h
  · intro hle
    have hge : ofSeconds (2 ^ (64 : Nat) - 2 ^ (10 : Nat)) ≤ d := by
      have h : 2 ^ (64 : Nat) - 2 ^ (10 : Nat) ≤ d.nanos / 1000000000 := hle
      show 1000000000 * (2 ^ (64 : Nat) - 2 ^ (10 : Nat)) ≤ d.nanos
      omega
    have hfirst : (ofSeconds (2 ^ (64 : Nat) - 2 ^ (10 : Nat))).toSeconds =
        .finite false (2 ^ (52 : Nat)) 12 := by
      decide +kernel
    refine le_trans ?_ (toSeconds_size_mono hge)
    rw [hfirst, size, WithTop.coe_le_coe]
    norm_num

/-- A length of time that does not come back is within `2 ^ 10` seconds of the longest one. -/
theorem rounded?_eq_none_iff : d.rounded? = none ↔ 2 ^ (64 : Nat) - 2 ^ (10 : Nat) ≤ d.seconds :=
  (ofSeconds?_eq_none_iff (toSeconds_unsigned d) (toSeconds_rounded d)).trans le_size_toSeconds_iff

/-- One length of time is longer than another by at most one part in `2 ^ 51` and a nanosecond. -/
def RoughlyLe (c d : Span) : Prop :=
  2 ^ (51 : Nat) * c.nanos ≤ (2 ^ (51 : Nat) + 1) * d.nanos + 2 ^ (51 : Nat)

theorem RoughlyLe.trans_le (h : c.RoughlyLe d) (hle : d ≤ top) : c.RoughlyLe top := by
  have hle' : d.nanos ≤ top.nanos := hle
  unfold RoughlyLe at *
  omega

theorem RoughlyLe.of_le (hle : c ≤ d) (h : d.RoughlyLe top) : c.RoughlyLe top := by
  have hle' : c.nanos ≤ d.nanos := hle
  unfold RoughlyLe at *
  omega

theorem rounded?_roughly (h : d.rounded? = some c) : c.RoughlyLe d ∧ d.RoughlyLe c := by
  cases hsize : d.toSeconds.size with
  | top =>
    rw [rounded?, ofSeconds?_of_top hsize] at h
    cases h
  | coe q =>
    obtain ⟨k, hk, hrounded⟩ := ofSeconds?_of_size (toSeconds_unsigned d) hsize
    have hc : c.nanos = k := by
      rw [rounded?, hrounded] at h
      split at h
      · cases h
        rfl
      · cases h
    cases hp : nearest d.seconds with
    | top =>
      have htop : d.toSeconds.size = ⊤ := size_addMagnitudes_left ((size_ofNat _).trans hp) _
      cases htop.symm.trans hsize
    | coe p =>
      obtain ⟨r, ⟨-, hr0, hr1, hfraction⟩, hsum⟩ := size_toSeconds d hp
      have hwhole := nearest_relative (Nat.cast_nonneg d.seconds) hp
      have hp0 : 0 ≤ p := WithTop.coe_le_coe.mp (hp ▸ size_nonneg _)
      have htotal := nearest_relative (add_nonneg hp0 hr0) (hsum.symm.trans hsize)
      have hnanos := cast_nanos d
      have hnegligible : (2 : ℚ) ^ (-1075 : ℤ) ≤ 2 ^ (-54 : ℤ) :=
        zpow_le_zpow_right₀ one_le_two (by decide)
      rw [← hc] at hk
      rw [abs_le] at hwhole hfraction htotal hk
      generalize (2 : ℚ) ^ (-1075 : ℤ) = ε at *
      norm_num at hwhole hfraction htotal hnegligible
      have hle : (2 : ℚ) ^ (51 : ℕ) * c.nanos ≤ (2 ^ (51 : ℕ) + 1) * d.nanos + 2 ^ (51 : ℕ) := by
        linarith
      have hge : (2 : ℚ) ^ (51 : ℕ) * d.nanos ≤ (2 ^ (51 : ℕ) + 1) * c.nanos + 2 ^ (51 : ℕ) := by
        linarith
      exact ⟨by exact_mod_cast hle, by exact_mod_cast hge⟩

end Span
end Checkup
