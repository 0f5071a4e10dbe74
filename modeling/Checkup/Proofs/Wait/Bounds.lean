import Checkup.Proofs.Span.Seconds
import Checkup.Proofs.Wait.Resolution
import Checkup.Proofs.Wait.Schedule

/-!
# The bounds of a schedule

The bounds of a schedule are whole numbers of nanoseconds, but its delays are computed as seconds in double
precision, and it is the rounded maximum that they are cut to. They do not decrease, and each of them lies
between the bounds as they come back from double precision. Up to `2 ^ 23` seconds nothing is lost on that
way. Above that a delay may lie beyond a bound by one part in `2 ^ 51` and a nanosecond, and a maximum that
is within `2 ^ 10` seconds of the longest length of time does not come back at all: the schedule panics where
its delay would be cut to it.

**Assumptions.** The schedule is accepted (`Backoff.validate`) and has no jitter.

Results:
* `seconds_size_mono` and `nominal_mono`: the delays do not decrease.
* `nominal_zero`: the first one is the minimum as it comes back.
* `nominal_eq_none_iff`: which of them is a panic.
* `bounded_iff`: a schedule keeps its bounds if the first and the last delay do.
* `delays_regulated`: all of it, as the structure `Regulated`.
* `delays_stray`: the maximum next to `2 ^ 23` seconds, and the longest one.
-/
namespace Checkup.Backoff

open Double

variable {b : Backoff} {m n : Nat} {d top : Span}

/-- The delays keep to the bounds of the schedule: every call gives one, the first is the minimum, they do
not decrease and none is outside the bounds. -/
structure Bounded (b : Backoff) (delays : Nat → Option Span) : Prop where
  gives : ∀ n, ∃ d, delays n = some d
  first : delays 0 = some b.min
  ascends : ∀ m n c d, m ≤ n → delays m = some c → delays n = some d → c ≤ d
  within : ∀ n d, delays n = some d → b.min ≤ d ∧ d ≤ b.max

/-- The seconds of the `n`-th delay before they are cut to the maximum. -/
def uncut (b : Backoff) (n : Nat) : Double :=
  b.min.toSeconds.mul (b.factor.pow (Nat.min n maxExponent))

/-! ## The seconds of a delay -/

/-- A factor that is accepted is not below one. -/
theorem Sensible.factor_size (h : b.Sensible) : (ofNat 1).size ≤ b.factor.size := by
  obtain ⟨q, hq, hle⟩ := h.factor
  have hsign := h.factor_unsigned
  match hb : b.factor with
  | .nan | .infinite _ => exact le_top
  | .finite s m e =>
    rw [hb] at hq hsign
    cases hsign
    simp only [value?, Bool.false_eq_true, if_false, one_mul, Option.some.injEq] at hq
    rw [size_one, size, WithTop.coe_le_coe, hq]
    exact hle

theorem Sensible.uncut_unsigned (h : b.Sensible) (n : Nat) : (b.uncut n).Unsigned :=
  mul_unsigned (Span.toSeconds_unsigned _) (pow_unsigned _ h.factor_unsigned)

theorem Sensible.seconds_unsigned (h : b.Sensible) (n : Nat) : (b.seconds n).Unsigned :=
  min_unsigned (h.uncut_unsigned n) (Span.toSeconds_unsigned _)

theorem seconds_rounded (b : Backoff) (n : Nat) : (b.seconds n).Rounded :=
  min_rounded (mul_rounded _ _) (Span.toSeconds_rounded _)

theorem Sensible.size_seconds (h : b.Sensible) (n : Nat) :
    (b.seconds n).size = (b.uncut n).size ⊓ b.max.toSeconds.size :=
  size_min (h.uncut_unsigned n) (Span.toSeconds_unsigned _)

theorem Sensible.seconds_size_mono (h : b.Sensible) (hmn : m ≤ n) :
    (b.seconds m).size ≤ (b.seconds n).size := by
  have hexponent : Nat.min m maxExponent ≤ Nat.min n maxExponent := Nat.le_min.mpr
    ⟨(Nat.min_le_left ..).trans hmn, Nat.min_le_right ..⟩
  rw [h.size_seconds, h.size_seconds]
  exact inf_le_inf_right _ (mul_size_mono le_rfl (pow_size_mono h.factor_size hexponent))

/-- From the largest exponent on the delays are the same. -/
theorem seconds_of_le (hn : maxExponent ≤ n) : b.seconds n = b.seconds maxExponent := by
  rw [seconds, seconds, show Nat.min n maxExponent = maxExponent from Nat.min_eq_right hn,
    show Nat.min maxExponent maxExponent = maxExponent from Nat.min_self _]

/-! ## The delays without jitter -/

theorem delay_steady (hj : b.jitter = false) (random : Nat → Nat) (n : Nat) :
    b.delay random n = b.nominal n := by
  rw [delay, hj]
  exact Option.map_id'

theorem Sensible.nominal_mono (h : b.Sensible) (hmn : m ≤ n) (hd : b.nominal n = some d) :
    ∃ c, b.nominal m = some c ∧ c ≤ d :=
  Span.ofSeconds?_of_size_le (h.seconds_unsigned m) (h.seconds_unsigned n)
    (h.seconds_size_mono hmn) hd

/-- The first delay is the minimum as it comes back from double precision. -/
theorem Sensible.nominal_zero (h : b.Sensible) : b.nominal 0 = b.min.rounded? := by
  refine Span.ofSeconds?_congr (h.seconds_unsigned 0) (Span.toSeconds_unsigned _) ?_
  have huncut : (b.uncut 0).size = b.min.toSeconds.size := by
    rw [uncut, show Nat.min 0 maxExponent = 0 from Nat.zero_min _, pow_zero_eq,
      size_mul_one (Span.toSeconds_rounded _)]
  rw [h.size_seconds, huncut]
  exact inf_eq_left.mpr (Span.toSeconds_size_mono h.min_le_max)

theorem Sensible.le_nominal (h : b.Sensible) (hd : b.nominal n = some d) :
    ∃ low, b.min.rounded? = some low ∧ low ≤ d := by
  rw [← h.nominal_zero]
  exact h.nominal_mono n.zero_le hd

theorem Sensible.nominal_le_rounded (h : b.Sensible) (htop : b.max.rounded? = some top)
    (hd : b.nominal n = some d) : d ≤ top := by
  obtain ⟨e, he, hle⟩ := nominal_le h.factor_unsigned htop n
  cases hd.symm.trans he
  exact hle

/-- No delay is shorter than a nanosecond. -/
theorem Sensible.nominal_pos (h : b.Sensible) (hd : b.nominal n = some d) : 0 < d.nanos := by
  obtain ⟨low, hlow, hle⟩ := h.le_nominal hd
  obtain ⟨e, he, hle'⟩ := Span.rounded?_mono (c := ⟨1⟩) h.min_pos hlow
  cases he.symm.trans (Span.rounded?_of_le (by decide))
  exact Nat.lt_of_lt_of_le hle' hle

/-- A delay is a panic exactly if both the seconds before the cut and the maximum come to `2 ^ 64`. -/
theorem Sensible.nominal_eq_none_iff (h : b.Sensible) :
    b.nominal n = none ↔ ((2 ^ (64 : ℤ) : ℚ) : WithTop ℚ) ≤ (b.uncut n).size ∧
      2 ^ (64 : Nat) - 2 ^ (10 : Nat) ≤ b.max.seconds := by
  rw [nominal, Span.ofSeconds?_eq_none_iff (h.seconds_unsigned n) (seconds_rounded b n), h.size_seconds,
    le_inf_iff, Span.le_size_toSeconds_iff]

/-- A delay is beyond the bounds by one part in `2 ^ 51` and a nanosecond at most. -/
theorem Sensible.nominal_roughly (h : b.Sensible) (hd : b.nominal n = some d) :
    b.min.RoughlyLe d ∧ d.RoughlyLe b.max := by
  obtain ⟨low, hlow, hle⟩ := h.le_nominal hd
  refine ⟨(Span.rounded?_roughly hlow).2.trans_le hle, ?_⟩
  cases htop : b.max.rounded? with
  | some top => exact .of_le (h.nominal_le_rounded htop hd) (Span.rounded?_roughly htop).1
  | none =>
    -- Then the maximum is so long that no delay is much longer.
    have hmax : 2 ^ (64 : Nat) - 2 ^ (10 : Nat) ≤ b.max.nanos / 1000000000 :=
      Span.rounded?_eq_none_iff.mp htop
    refine .of_le (Span.ofSeconds?_le_longest hd) ?_
    have hlongest : Span.longest.nanos = 1000000000 * 2 ^ (64 : Nat) - 1 := by decide
    rw [Span.RoughlyLe, hlongest]
    omega

/-- No delay is longer than the one at the largest exponent. -/
theorem Sensible.nominal_le_last (h : b.Sensible) (hd : b.nominal maxExponent = some d) (n : Nat) :
    ∃ c, b.nominal n = some c ∧ c ≤ d := by
  rcases Nat.le_total n maxExponent with hn | hn
  · exact h.nominal_mono hn hd
  · exact ⟨d, by rw [nominal, seconds_of_le hn]; exact hd, Nat.le_refl _⟩

/-- The first and the last delay decide whether all of them keep to the bounds. -/
theorem Sensible.bounded_iff (h : b.Sensible) :
    b.Bounded b.nominal ↔
      b.min.rounded? = some b.min ∧ ∃ d, b.nominal maxExponent = some d ∧ d ≤ b.max := by
  constructor
  · intro hbounded
    obtain ⟨d, hd⟩ := hbounded.gives maxExponent
    exact ⟨h.nominal_zero ▸ hbounded.first, d, hd, (hbounded.within _ _ hd).2⟩
  · rintro ⟨hmin, last, hlast, hle⟩
    refine ⟨fun n => ?_, h.nominal_zero.trans hmin, fun m n c d hmn hc hd => ?_, fun n d hd => ?_⟩
    · obtain ⟨c, hc, -⟩ := h.nominal_le_last hlast n
      exact ⟨c, hc⟩
    · obtain ⟨c', hc', hcd⟩ := h.nominal_mono hmn hd
      cases hc.symm.trans hc'
      exact hcd
    · obtain ⟨low, hlow, hld⟩ := h.le_nominal hd
      cases hmin.symm.trans hlow
      obtain ⟨c, hc, hcl⟩ := h.nominal_le_last hlast n
      cases hd.symm.trans hc
      exact ⟨hld, Nat.le_trans hcl hle⟩

/-- Up to a maximum of `2 ^ 23` seconds the delays keep to the bounds. -/
theorem Sensible.bounded_of_le (h : b.Sensible) (hmax : b.max ≤ Span.ofSeconds (2 ^ (23 : Nat))) :
    b.Bounded b.nominal := by
  rw [h.bounded_iff]
  refine ⟨Span.rounded?_of_le (Nat.le_trans h.min_le_max hmax), ?_⟩
  exact nominal_le h.factor_unsigned (Span.rounded?_of_le hmax) maxExponent

/-! ## The schedule -/

/-- The pause of a wait is the delay as it is. -/
theorem Sensible.schedule_eq_ok (h : b.Sensible) (hj : b.jitter = false) (random : Nat → Nat)
    (hd : b.nominal n = some d) : ∃ e, b.schedule random n = .ok e ∧ e.span = d := by
  refine ⟨.ofSpan d, by rw [schedule, delay_steady hj, hd], ?_⟩
  exact congrArg Span.mk (Nat.max_eq_right (h.nominal_pos hd))

/-- The only panic of an accepted schedule is that of too large a number. -/
theorem Sensible.schedule_eq_error (h : b.Sensible) (hj : b.jitter = false) (random : Nat → Nat)
    (hd : b.nominal n = none) : b.schedule random n = .error (.text
      "cannot convert float seconds to Duration: value is either too big or NaN") := by
  rw [schedule, delay_steady hj, hd, overflow, lt_zero_eq_false (h.seconds_unsigned n)]
  rfl

structure Regulated (b : Backoff) (random : Nat → Nat) : Prop where
  /-- The first delay is the minimum as it comes back from double precision. -/
  first : b.delay random 0 = b.min.rounded?
  /-- Behind a delay there is no shorter one, and behind a panic no delay. -/
  ascends : ∀ m n d, m ≤ n → b.delay random n = some d → ∃ c, b.delay random m = some c ∧ c ≤ d
  /-- Every delay is between the bounds as they come back. -/
  within : ∀ n d, b.delay random n = some d →
    (∃ low, b.min.rounded? = some low ∧ low ≤ d) ∧ ∀ top, b.max.rounded? = some top → d ≤ top
  /-- It is hardly outside the bounds themselves. -/
  near : ∀ n d, b.delay random n = some d → b.min.RoughlyLe d ∧ d.RoughlyLe b.max
  /-- A wait pauses for this delay. -/
  pauses : ∀ n d, b.delay random n = some d → ∃ e, b.schedule random n = .ok e ∧ e.span = d
  /-- Where there is no delay, a wait panics over too large a number of seconds. -/
  overflows : ∀ n, b.delay random n = none → b.schedule random n = .error (.text
    "cannot convert float seconds to Duration: value is either too big or NaN")
  /-- There is none exactly where it would be cut to a maximum that does not come back. -/
  panics : ∀ n, b.delay random n = none ↔
    ((2 ^ (64 : ℤ) : ℚ) : WithTop ℚ) ≤ (b.uncut n).size ∧
      2 ^ (64 : Nat) - 2 ^ (10 : Nat) ≤ b.max.seconds
  /-- The delays keep to the bounds exactly if the minimum comes back unchanged and the delay of the
  largest exponent keeps to the maximum. -/
  bounded_iff : b.Bounded (b.delay random) ↔
    b.min.rounded? = some b.min ∧ ∃ d, b.delay random maxExponent = some d ∧ d ≤ b.max
  /-- They do so if the maximum has at most `2 ^ 23` seconds. -/
  bounded : b.max ≤ Span.ofSeconds (2 ^ (23 : Nat)) → b.Bounded (b.delay random)

/-- A schedule that is accepted and has no jitter regulates its delays: they do not decrease, they are
between its bounds as these come back from double precision, and up to `2 ^ 23` seconds between the bounds
themselves. -/
theorem delays_regulated (b : Backoff) (hvalid : b.validate = .ok ()) (hj : b.jitter = false)
    (random : Nat → Nat) : b.Regulated random := by
  have h := validate_eq_ok.mp hvalid
  have hdelay : b.delay random = b.nominal := funext (delay_steady hj random)
  constructor
  all_goals simp only [hdelay]
  case first => exact h.nominal_zero
  case ascends => exact fun m n d hmn hd => h.nominal_mono hmn hd
  case within => exact fun n d hd => ⟨h.le_nominal hd, fun top htop => h.nominal_le_rounded htop hd⟩
  case near => exact fun n d hd => h.nominal_roughly hd
  case pauses => exact fun n d hd => h.schedule_eq_ok hj random hd
  case overflows => exact fun n hd => h.schedule_eq_error hj random hd
  case panics => exact fun n => h.nominal_eq_none_iff
  case bounded_iff => exact h.bounded_iff
  case bounded => exact h.bounded_of_le

/-- The longest maximum there is: the delays double from a second on. -/
def boundless : Backoff := ⟨.ofSeconds 1, .longest, .ofNat 2, false⟩

/-- A minimum and a maximum of a nanosecond more than `2 ^ 23` seconds. -/
def rigid : Backoff :=
  ⟨.ofParts (2 ^ (23 : Nat)) 1, .ofParts (2 ^ (23 : Nat)) 1, .ofNat 1, false⟩

theorem delays_regulated_boundless :
    boundless.validate = .ok () ∧ boundless.jitter = false ∧ boundless.Regulated (randomStream 1) :=
  have hvalid : boundless.validate = .ok () := by rfl
  ⟨hvalid, rfl, delays_regulated boundless hvalid rfl (randomStream 1)⟩

/-- The only delay that would keep to the bounds is missed by a nanosecond; and of the delays that double,
the first that is cut to the longest length of time is a panic. -/
theorem delays_stray :
    (rigid.validate = .ok () ∧ rigid.jitter = false ∧
      rigid.delay (randomStream 1) 0 = some (.ofParts (2 ^ (23 : Nat)) 2) ∧
      ¬ rigid.Bounded (rigid.delay (randomStream 1))) ∧
    boundless.validate = .ok () ∧ boundless.jitter = false ∧
      boundless.delay (randomStream 1) 63 = some (.ofSeconds (2 ^ (63 : Nat))) ∧
      boundless.delay (randomStream 1) 64 = none ∧
      ¬ boundless.Bounded (boundless.delay (randomStream 1)) := by
  have hrigid : rigid.delay (randomStream 1) 0 = some (.ofParts (2 ^ (23 : Nat)) 2) := by decide +kernel
  have hlast : boundless.delay (randomStream 1) 63 = some (.ofSeconds (2 ^ (63 : Nat))) := by
    decide +kernel
  have hpanic : boundless.delay (randomStream 1) 64 = none := by decide +kernel
  refine ⟨⟨by rfl, rfl, hrigid, fun h => ?_⟩, by rfl, rfl, hlast, hpanic, fun h => ?_⟩
  · exact absurd (h.within _ _ hrigid).2 (by decide)
  · obtain ⟨d, hd⟩ := h.gives 64
    cases hpanic.symm.trans hd

end Checkup.Backoff
