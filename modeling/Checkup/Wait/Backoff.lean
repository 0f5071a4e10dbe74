import Checkup.Numeric.Power
import Checkup.Numeric.Shortest
import Checkup.Timed.Basic
import Checkup.Wait.Error

/-!
# The delays between two polls

The nominal delay before the `n`-th repetition is `min · factor^n` seconds in double precision, at most
`max`, rounded to whole nanoseconds. With jitter the delay is drawn from `[min, nominal]`, so that
several waiters do not poll in step.

**Names.** A backoff is the program's `BackoffConfig`, and `standard`, `ofBounds` and `steady` are its
`default`, `new` and `without_jitter`; `nominal`, `delay` and `validate` are `nominal`, `next_delay` and
`validate` there.
-/
namespace Checkup

/-- The bounds of the delays, how fast they grow, and whether they are spread at random. -/
structure Backoff where
  min : Span
  max : Span
  factor : Double
  jitter : Bool
  deriving DecidableEq, Repr

namespace Backoff

def standard : Backoff := ⟨Span.ofSeconds 1, Span.ofSeconds 5, .ofNat 2, true⟩

/-- Other bounds with the usual growth and jitter. -/
def ofBounds (min max : Span) : Backoff := { standard with min := min, max := max }

def steady (b : Backoff) : Backoff := { b with jitter := false }

/-- Refuses bounds and factors that give no sensible schedule. -/
def validate (b : Backoff) : Except WaitError Unit :=
  if b.min.nanos = 0 then .error (.invalidOption "poll minimum must be greater than zero")
  else if b.max < b.min then
    .error (.invalidOption s!"poll maximum {b.max.text} is below poll minimum {b.min.text}")
  else if !b.factor.isFinite || b.factor.lt (.ofNat 1) then
    .error (.invalidOption s!"backoff factor must be a finite number >= 1, got {b.factor.text}")
  else .ok ()

/-- The exponent stops growing here, so that the power stays finite for moderate factors. -/
def maxExponent : Nat := 64

/-- The number of seconds of the `n`-th delay. -/
def seconds (b : Backoff) (n : Nat) : Double :=
  (b.min.toSeconds.mul (b.factor.pow (Nat.min n maxExponent))).min b.max.toSeconds

/-- The `n`-th delay without jitter; there is none if its seconds are no length of time. -/
def nominal (b : Backoff) (n : Nat) : Option Span := Span.ofSeconds? (b.seconds n)

/-- A span between two bounds, picked by a random number. -/
def pick (low high : Span) (random : Nat) : Span :=
  ⟨low.nanos + random % (high.nanos - low.nanos + 1)⟩

/-- The `n`-th delay, with a stream of random numbers to draw from. -/
def delay (b : Backoff) (random : Nat → Nat) (n : Nat) : Option Span :=
  (b.nominal n).map fun top => if b.jitter && b.min < top then pick b.min top (random n) else top

/-- The panic of a schedule whose delay is no length of time: a negative number of seconds is told
from one that is too large. -/
def overflow (b : Backoff) (n : Nat) : Panic :=
  .text (if (b.seconds n).lt (.zero false)
    then "cannot convert float seconds to Duration: value is negative"
    else "cannot convert float seconds to Duration: value is either too big or NaN")

end Backoff

/-- A delay between two polls, which is never zero. -/
structure Delay where
  span : Span
  pos : 0 < span.nanos

namespace Delay

/-- A length of time as a delay; none is shorter than a nanosecond. -/
def ofSpan (d : Span) : Delay := ⟨⟨max 1 d.nanos⟩, Nat.le_max_left ..⟩

def ticks (d : Delay) : Nat := d.span.ticks

theorem ticks_pos (d : Delay) : 0 < d.ticks := by
  have := d.pos
  simp only [ticks, Span.ticks, Span.ticksOf]
  omega

end Delay

/-- The delays of a wait: the one after the `n`-th poll, or the panic that comes in its place. -/
abbrev Schedule : Type := Nat → Except Panic Delay

/-- The schedule of a wait, begun afresh with a stream of random numbers to draw from. -/
def Backoff.schedule (b : Backoff) (random : Nat → Nat) : Schedule := fun n =>
  match b.delay random n with
  | some d => .ok (.ofSpan d)
  | none => .error (b.overflow n)

/-- A stream of random numbers from a seed: the high bits of a multiplicative congruential sequence. -/
def randomStream (seed : Nat) (n : Nat) : Nat :=
  let rec state : Nat → Nat
    | 0 => (seed * 2 + 1) % 2 ^ (64 : Nat)
    | k + 1 => (state k * 6364136223846793005 + 1442695040888963407) % 2 ^ (64 : Nat)
  state (n + 1) / 2 ^ (16 : Nat)

end Checkup
