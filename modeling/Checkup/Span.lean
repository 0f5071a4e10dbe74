import Checkup.Numeric.Double
import Checkup.Numeric.Power
import Checkup.Text.Decimal

/-!
# Lengths of time

A length of time is a whole number of nanoseconds. Its text uses the largest of the units `s`, `ms`,
`µs` and `ns` in which its whole part is not zero, with the fraction exact and without trailing
zeros. Clocks tick in milliseconds: a timer of length `d` ends at the first tick that is not earlier
than `d`, which is `d.ticks` ticks after it started.
-/
namespace Checkup

structure Span where
  nanos : Nat
  deriving DecidableEq, Repr

namespace Span

def ofParts (seconds nanos : Nat) : Span := ⟨1000000000 * seconds + nanos⟩

def ofSeconds (s : Nat) : Span := ⟨1000000000 * s⟩

def ofMillis (ms : Nat) : Span := ⟨1000000 * ms⟩

def seconds (d : Span) : Nat := d.nanos / 1000000000

/-- The nanoseconds beyond the whole seconds. -/
def subsecond (d : Span) : Nat := d.nanos % 1000000000

/-- A number of nanoseconds in clock ticks (milliseconds), rounded up. -/
def ticksOf (nanos : Nat) : Nat := nanos / 1000000 + min 1 (nanos % 1000000)

/-- The number of ticks that a timer of this length takes. -/
def ticks (d : Span) : Nat := ticksOf d.nanos

/-- The number of ticks that a timer of this length takes when it starts at a tick: its end is rounded up
to a tick, and not the length itself. -/
def ticksFrom (now : Nat) (d : Span) : Nat := ticksOf (1000000 * now + d.nanos) - now

instance : LE Span := ⟨fun a b => a.nanos ≤ b.nanos⟩
instance : LT Span := ⟨fun a b => a.nanos < b.nanos⟩
instance (a b : Span) : Decidable (a ≤ b) := inferInstanceAs (Decidable (a.nanos ≤ b.nanos))
instance (a b : Span) : Decidable (a < b) := inferInstanceAs (Decidable (a.nanos < b.nanos))

/-- `nanos` in units of `10^places` nanoseconds, with the fraction exact. -/
def inUnit (nanos places : Nat) (unit : String) : String :=
  let scale := 10 ^ places
  let fraction :=
    ((Text.padded places (nanos % scale)).reverse.dropWhile (· == '0')).reverse
  let point := if nanos % scale = 0 then [] else '.' :: fraction
  String.ofList (Text.decimal (nanos / scale) ++ point) ++ unit

/-- The text of a length of time, such as `1.5s`, `200ms`, `1.000001ms` and `0ns`. -/
def text (d : Span) : String :=
  if 1000000000 ≤ d.nanos then inUnit d.nanos 9 "s"
  else if 1000000 ≤ d.nanos then inUnit d.nanos 6 "ms"
  else if 1000 ≤ d.nanos then inUnit d.nanos 3 "µs"
  else inUnit d.nanos 0 "ns"

/-- The number of seconds as a double: whole seconds and the rest are rounded one by one and then
added. -/
def toSeconds (d : Span) : Double :=
  Double.addMagnitudes (Double.ofNat d.seconds)
    (Double.div (Double.ofNat d.subsecond) (Double.ofNat 1000000000))

/-- The longest span that a count of seconds in 64 bits can hold. -/
def longest : Span := ofParts (2 ^ (64 : Nat) - 1) 999999999

/-- The span of a number of seconds, rounded to the nearest nanosecond with a tie going to the even
one. There is none for a negative number, for one that is no number, and for one beyond the longest
span. -/
def ofSeconds? (secs : Double) : Option Span :=
  match secs with
  | .finite negative m e =>
    if m = 0 then some ⟨0⟩
    else if negative then none
    else
      let (num, den) := Double.ratioOf m e
      let nanos := roundDiv (num * 1000000000) den
      if nanos ≤ longest.nanos then some ⟨nanos⟩ else none
  | _ => none

end Span
end Checkup
