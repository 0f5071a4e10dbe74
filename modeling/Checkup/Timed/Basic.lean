import Checkup.Fault
import Checkup.Numeric.Power
import Checkup.Span

/-!
# Activities in time

Time is counted in ticks of a millisecond from the start of an activity; computing takes none. A
`Timed ε α` says, for each state of the token that may cancel it, which calls the activity makes and
when, and how it ends: with a value, in a panic, or never. That is all there is to know about it, so a
limit on its time or its cancellation can be described without running it step by step.

A token that is due at the very tick at which an awaited piece of work ends fires after it: whatever is
ready at that tick still goes on, and only what has to wait finds the token fired.

The clock cannot show instants beyond `horizon`. Who reckons such an instant panics, and a limit that would be
over behind it counts as none (`Timed.within`, and `Probe.guarded` for the probes of a battery). A real timer
falls back to some thirty years there; nothing is said here of what would take so long.
-/
namespace Checkup

/-- A token that may cancel an activity, seen from now: it has fired, it will fire in some ticks, or it
never fires. -/
inductive Token where
  | fired
  | due (ticks : Nat)
  | never
  deriving DecidableEq, Repr

namespace Token

/-- The token that fires at a tick of an activity, if there is one; at tick 0 it has fired before the
activity begins. -/
def ofTime : Option Nat → Token
  | none => never
  | some 0 => fired
  | some c => due c

/-- The token after `t` ticks of work; one that is due at that tick has not fired yet. -/
def after (t : Nat) : Token → Token
  | fired => fired
  | due c => if c < t then fired else due (c - t)
  | never => never

/-- The token for an activity that starts once one of `t` ticks is over; one that was due by then has
fired. -/
def next (t : Nat) : Token → Token
  | fired => fired
  | due c => if c ≤ t then fired else due (c - t)
  | never => never

/-- The token that fires with this one or in `t` ticks, whichever is earlier. -/
def within (t : Nat) : Token → Token
  | fired => fired
  | due c => due (min c t)
  | never => due t

/-- Whether the token is due before tick `t`. -/
def firesBefore (t : Nat) : Token → Bool
  | fired => true
  | due c => c < t
  | never => false

/-- The tick at which the token fires, if it does. -/
def time? : Token → Option Nat
  | fired => some 0
  | due c => some c
  | never => none

end Token

/-- What a panic carries: a text, or something else. -/
inductive Panic where
  | text (s : String)
  | other
  deriving DecidableEq, Repr

def Panic.message : Panic → String
  | text s => s
  | other => "unknown panic"

/-- How an activity ends: with a value and the state of the token, in a panic, or never. -/
inductive Ending (α : Type) where
  | returned (time : Nat) (token : Token) (value : α)
  | panicked (time : Nat) (panic : Panic)
  | never
  deriving Repr

/-- The tick at which an activity ends, if it does. -/
def Ending.time? {α : Type} : Ending α → Option Nat
  | returned t _ _ => some t
  | panicked t _ => some t
  | never => none

def Ending.later {α : Type} (t : Nat) : Ending α → Ending α
  | returned t' tok v => returned (t + t') tok v
  | panicked t' p => panicked (t + t') p
  | never => never

def Ending.map {α β : Type} (f : α → β) : Ending α → Ending β
  | returned t tok v => returned t tok (f v)
  | panicked t p => panicked t p
  | never => never

/-- The calls that an activity makes, in order and each with its tick, and its end. -/
structure Course (ε α : Type) where
  calls : List (Nat × ε)
  ending : Ending α
  deriving Repr

namespace Course

variable {ε α β : Type}

def laterCalls (t : Nat) (calls : List (Nat × ε)) : List (Nat × ε) :=
  calls.map fun c => (t + c.1, c.2)

/-- A course, some ticks later and after other calls. -/
def following (calls : List (Nat × ε)) (t : Nat) (c : Course ε α) : Course ε α :=
  ⟨calls ++ laterCalls t c.calls, c.ending.later t⟩

/-- The calls made up to a tick, that tick included. -/
def callsUntil (t : Nat) (c : Course ε α) : List (Nat × ε) := c.calls.filter (·.1 ≤ t)

/-- The course up to a tick at which it is given up, ending there with a value. -/
def cut (t : Nat) (token : Token) (value : β) (c : Course ε α) : Course ε β :=
  ⟨c.callsUntil t, .returned t token value⟩

def called (c : Course ε α) : List ε := c.calls.map Prod.snd

end Course

/-- An activity in time. -/
def Timed (ε α : Type) : Type := Token → Course ε α

/-- What one call to the outside does: it answers after some ticks, panics after some ticks, or never
comes back. -/
inductive Reply (α : Type) where
  | answers (delay : Nat) (result : Except Fault α)
  | panics (delay : Nat) (panic : Panic)
  | hangs

def Reply.map {α β : Type} (f : α → β) : Reply α → Reply β
  | answers d r => answers d (r.map f)
  | panics d p => panics d p
  | hangs => hangs

/-- The tick at which a call that starts now comes back, if it does. -/
def Reply.time? {α : Type} : Reply α → Option Nat
  | answers d _ => some d
  | panics d _ => some d
  | hangs => none

/-- The clock cannot show an instant as many nanoseconds away as this. -/
@[irreducible] def horizon : Nat := 2 ^ (63 : Nat) * 1000000000

/-- Whether a timer of length `d` that starts at tick `now` ends within the range of the clock. -/
def fitsClock (now : Nat) (d : Span) : Bool := 1000000 * now + d.nanos < horizon

/-- What happens when it does not. -/
def clockOverflow : Panic := .text "overflow when adding duration to instant"

namespace Timed

variable {ε α β : Type}

/-- Takes no time and calls nobody. -/
def pure (v : α) : Timed ε α := fun tok => ⟨[], .returned 0 tok v⟩

/-- One activity, and then another that depends on its value. -/
def bind (x : Timed ε α) (f : α → Timed ε β) : Timed ε β := fun tok =>
  let c := x tok
  match c.ending with
  | .returned t tok v => Course.following c.calls t (f v tok)
  | .panicked t p => ⟨c.calls, .panicked t p⟩
  | .never => ⟨c.calls, .never⟩

instance : Monad (Timed ε) where
  pure := pure
  bind := bind

/-- Waits some ticks, deaf to the token. -/
def sleep (ticks : Nat) : Timed ε Unit := fun tok => ⟨[], .returned ticks (tok.after ticks) ()⟩

/-- Ends in a panic at once. -/
def panic (p : Panic) : Timed ε α := fun _ => ⟨[], .panicked 0 p⟩

/-- Waits for a reply. -/
def await (r : Reply α) : Timed ε (Except Fault α) := fun tok =>
  match r with
  | .answers d result => ⟨[], .returned d (tok.after d) result⟩
  | .panics d p => ⟨[], .panicked d p⟩
  | .hangs => ⟨[], .never⟩

/-- Makes a call that takes no time. -/
def emit (e : ε) : Timed ε Unit := fun tok => ⟨[(0, e)], .returned 0 tok ()⟩

/-- Makes a call and waits for its reply. -/
def call (e : ε) (r : Reply α) : Timed ε (Except Fault α) := fun tok =>
  let c : Course ε (Except Fault α) := await r tok
  ⟨(0, e) :: c.calls, c.ending⟩

def isCancelled : Timed ε Bool := fun tok => ⟨[], .returned 0 tok (tok == .fired)⟩

/-- Gives an activity up when the token fires before it has ended. With a token that has already fired
it is not even started. -/
def unlessCancelled (x : Timed ε α) : Timed ε (Option α) := fun tok =>
  match tok with
  | .fired => ⟨[], .returned 0 .fired none⟩
  | tok =>
    let c := x tok
    let done (t : Nat) (e : Ending (Option α)) : Course ε (Option α) :=
      if tok.firesBefore t then c.cut (tok.time?.getD 0) .fired none else ⟨c.calls, e⟩
    match c.ending with
    | .returned t tok' v => done t (.returned t tok' (some v))
    | .panicked t p => done t (.panicked t p)
    | .never =>
      match tok.time? with
      | some t => c.cut t .fired none
      | none => ⟨c.calls, .never⟩

/-- Gives an activity up when a limit is over and it has not ended; ending in the tick of the limit is
in time. A limit that the clock cannot show is none. -/
def within (limit : Span) (x : Timed ε α) : Timed ε (Option α) := fun tok =>
  let c := x tok
  let cut := c.cut limit.ticks (tok.after limit.ticks) none
  if !fitsClock 0 limit then ⟨c.calls, c.ending.map some⟩
  else match c.ending with
    | .returned t tok v => if t ≤ limit.ticks then ⟨c.calls, .returned t tok (some v)⟩ else cut
    | .panicked t p => if t ≤ limit.ticks then ⟨c.calls, .panicked t p⟩ else cut
    | .never => cut

/-- An activity together with the number of ticks that it takes. -/
def measured (x : Timed ε α) : Timed ε (Nat × α) := fun tok =>
  let c := x tok
  ⟨c.calls, match c.ending with
    | .returned t tok v => .returned t tok (t, v)
    | .panicked t p => .panicked t p
    | .never => .never⟩

/-- Runs an activity with a token of its own that never fires. -/
def shielded (x : Timed ε α) : Timed ε α := fun tok =>
  let c := x .never
  ⟨c.calls, match c.ending with
    | .returned t _ v => .returned t (tok.after t) v
    | .panicked t p => .panicked t p
    | .never => .never⟩

/-- Puts the calls of an activity into a wider type of calls. -/
def mapCalls {δ : Type} (f : ε → δ) (x : Timed ε α) : Timed δ α := fun tok =>
  let c := x tok
  ⟨c.calls.map fun e => (e.1, f e.2), c.ending⟩

end Timed
end Checkup
