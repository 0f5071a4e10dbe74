import Checkup.Timed.Basic
import Checkup.Wait.Spec

/-!
# Waiting until a resource is ready

A wait polls the state of a resource until its condition holds. A fetch that fails is remembered and
tried again; only the deadline and the token end a wait that is not satisfied. Both are looked at before
each fetch, and while a fetch or a pause is under way. No pause lasts beyond the deadline, and none is
shorter than a tick, so that the wait ends.

**Names.** `waitOn` is `wait` of the program's `ReadinessWaiter`; `checkStop` and `poll` are its
`check_stop` and `tick`, and `podIs` and `observe` its `holds_for_pod` and `holds_for_workload`.
-/
namespace Checkup

/-- What is seen of a pod: its phase, and why its first container ended. -/
structure PodState where
  phase : Option String
  terminatedReason : Option String
  deriving DecidableEq

/-- Where states come from: the reply to the `n`-th fetch of a wait. -/
structure StateSource where
  readyReplicas : String → Nat → Reply Int32
  podState : String → Nat → Reply PodState

inductive Fetch where
  | workload (name : String)
  | pod (name : String)
  deriving DecidableEq, Repr

/-- The outcome of a wait that was satisfied: how many fetches it made and how long it took. -/
structure WaitReport where
  polls : UInt32
  elapsed : Span
  deriving DecidableEq, Repr

namespace Condition

/-- The fetch that tells whether the condition holds. -/
def fetch : Condition → Fetch
  | readyReplicas name _ => .workload name
  | podPhase name _ => .pod name

/-- Whether a pod's state meets a phase. -/
def podIs (phase : PodPhase) (s : PodState) : Bool :=
  match phase with
  | .running => s.phase == some "Running"
  | .completed => s.terminatedReason == some "Completed"

/-- Whether the condition holds by the `n`-th fetch. -/
def observe (source : StateSource) (n : Nat) : Condition → Reply Bool
  | readyReplicas name replicas => (source.readyReplicas name n).map (· == replicas)
  | podPhase name phase => (source.podState name n).map (podIs phase)

end Condition

/-- A wait under way: what to fetch and what the `n`-th fetch gives, the delays between the fetches, how
long the wait may take, the tick at which that time is over, and the token. -/
structure Wait where
  fetch : Fetch
  observe : Nat → Reply Bool
  delay : Schedule
  deadline : Span
  limit : Nat
  token : Token

namespace Wait

abbrev Result := Except WaitError WaitReport

/-- Where a wait stands: the tick, the number of fetches that were begun, and the last of their errors. -/
structure State where
  now : Nat
  polls : Nat
  lastError : Option String

/-- How many fetches were begun, in 32 bits. -/
def State.counted (s : State) : UInt32 := UInt32.ofNat s.polls

/-- The wait ends at a tick, with the token as it is then. -/
def finish (w : Wait) (time : Nat) (r : Result) : Ending Result :=
  .returned time (w.token.after time) r

/-- The wait ends at a tick since the token has fired. -/
def cancelled (time : Nat) (s : State) : Ending Result :=
  .returned time .fired (.error (.cancelled s.counted))

/-- The wait ends at a tick since the deadline is over. -/
def timedOut (w : Wait) (time : Nat) (s : State) : Ending Result :=
  w.finish time (.error (.deadlineExceeded w.deadline s.counted s.lastError))

/-- What is looked at before each fetch and before each pause: the token, and then the deadline. -/
def checkStop (w : Wait) (s : State) : Option (Ending Result) :=
  if w.token.firesBefore s.now then some (cancelled s.now s)
  else if w.limit ≤ s.now then some (w.timedOut s.now s)
  else none

/-- What is reported when the deadline strikes during a fetch and none failed before. -/
def unfinishedFetch : String := "fetch did not complete before the deadline"

/-- How one fetch ends: the token fires, the deadline strikes, or it comes back with an answer or in a
panic. -/
inductive Poll where
  | cancelled
  | timedOut
  | panicked (time : Nat) (p : Panic)
  | answered (time : Nat) (result : Except Fault Bool)

/-- The `n`-th fetch, which starts at tick `now`. Coming back at the very tick of the deadline is too
late. -/
def poll (w : Wait) (now n : Nat) : Poll :=
  match w.observe n with
  | .answers d r =>
    if w.token.firesBefore (min (now + d) w.limit) then .cancelled
    else if now + d < w.limit then .answered (now + d) r
    else .timedOut
  | .panics d p =>
    if w.token.firesBefore (min (now + d) w.limit) then .cancelled
    else if now + d < w.limit then .panicked (now + d) p
    else .timedOut
  | .hangs => if w.token.firesBefore w.limit then .cancelled else .timedOut

/-- The tick at which the pause after the `n`-th fetch ends, when that fetch came back at tick `t`: at
most at the deadline. The clock must be able to show the end of the whole pause, even if the deadline
cuts it short. -/
def pause (w : Wait) (t n : Nat) : Except Panic Nat :=
  match w.delay n with
  | .error p => .error p
  | .ok d => if fitsClock t d.span then .ok (min (t + d.ticks) w.limit) else .error clockOverflow

/-- The error to remember after a fetch. -/
def lastErrorOf (r : Except Fault Bool) (lastError : Option String) : Option String :=
  match r with
  | .error fault => some fault.text
  | .ok _ => lastError

/-- What comes of one turn of the loop: the wait ends, or it goes on from another state. -/
inductive Turn where
  | stops (e : Ending Result)
  | goesOn (s : State)

/-- The part of a turn behind a fetch that came back without what was waited for. -/
def rest (w : Wait) (n : Nat) (s : State) : Turn :=
  match w.checkStop s with
  | some e => .stops e
  | none =>
    match w.pause s.now n with
    | .error p => .stops (.panicked s.now p)
    | .ok u =>
      if w.token.firesBefore u then .stops (cancelled (w.token.time?.getD s.now) s)
      else .goesOn { s with now := u }

/-- One turn of the loop: a fetch and the pause behind it. -/
def turn (w : Wait) (s : State) : Turn :=
  let begun := { s with polls := s.polls + 1 }
  match w.poll s.now s.polls with
  | .cancelled => .stops (cancelled (w.token.time?.getD s.now) begun)
  | .timedOut =>
    .stops (w.timedOut w.limit { begun with lastError := some (s.lastError.getD unfinishedFetch) })
  | .panicked t p => .stops (.panicked t p)
  | .answered t (.ok true) => .stops (w.finish t (.ok ⟨begun.counted, Span.ofMillis t⟩))
  | .answered t r => w.rest s.polls { begun with now := t, lastError := lastErrorOf r s.lastError }

theorem checkStop_eq_none {w : Wait} {s : State} (h : w.checkStop s = none) :
    w.token.firesBefore s.now = false ∧ s.now < w.limit := by
  unfold checkStop at h
  split at h
  · cases h
  · split at h
    · cases h
    · rename_i hf hl
      exact ⟨by simpa using hf, by omega⟩

/-- What each end of a fetch that starts at a tick tells of its reply, the deadline and the token. -/
def Poll.Tells (w : Wait) (now n : Nat) : Poll → Prop
  | cancelled => ∃ t, t ≤ w.limit ∧ w.token.firesBefore t = true
  | timedOut => w.token.firesBefore w.limit = false ∧
      ∀ d, (w.observe n).time? = some d → w.limit ≤ now + d
  | panicked t p => ∃ d, w.observe n = .panics d p ∧ t = now + d ∧ t < w.limit
  | answered t r => ∃ d, w.observe n = .answers d r ∧ t = now + d ∧ t < w.limit ∧
      w.token.firesBefore t = false

/-- The choice that is made when a reply comes back, whatever comes back. -/
theorem Poll.tells_back {w : Wait} {now n d : Nat} {back : Poll} (hd : (w.observe n).time? = some d)
    (hback : now + d < w.limit → w.token.firesBefore (now + d) = false → back.Tells w now n) :
    Tells w now n (if w.token.firesBefore (min (now + d) w.limit) then .cancelled
      else if now + d < w.limit then back else .timedOut) := by
  split
  · rename_i hf
    exact ⟨_, Nat.min_le_right .., hf⟩
  · rename_i hf
    rw [Bool.not_eq_true] at hf
    split
    · rename_i hl
      rw [Nat.min_eq_left (Nat.le_of_lt hl)] at hf
      exact hback hl hf
    · rename_i hl
      have hle : w.limit ≤ now + d := Nat.not_lt.mp hl
      rw [Nat.min_eq_right hle] at hf
      refine ⟨hf, fun d' hd' => ?_⟩
      obtain rfl : d = d' := Option.some.inj (hd.symm.trans hd')
      exact hle

theorem poll_tells (w : Wait) (now n : Nat) : (w.poll now n).Tells w now n := by
  unfold poll
  split
  · rename_i d r ho
    exact Poll.tells_back (by rw [ho]; rfl) fun hl hf => ⟨d, ho, rfl, hl, hf⟩
  · rename_i d p ho
    exact Poll.tells_back (by rw [ho]; rfl) fun hl _ => ⟨d, ho, rfl, hl⟩
  · rename_i ho
    split
    · rename_i hf
      exact ⟨_, Nat.le_refl _, hf⟩
    · rename_i hf
      refine ⟨Bool.not_eq_true _ ▸ hf, fun d hd => ?_⟩
      rw [ho] at hd
      cases hd

/-- An answer comes before the deadline and not after the token has fired. -/
theorem poll_answered {w : Wait} {now n t : Nat} {r : Except Fault Bool}
    (h : w.poll now n = .answered t r) :
    ∃ d, w.observe n = .answers d r ∧ t = now + d ∧ t < w.limit ∧ w.token.firesBefore t = false := by
  have htells := w.poll_tells now n
  rwa [h] at htells

theorem pause_ok {w : Wait} {t n u : Nat} (h : w.pause t n = .ok u) :
    ∃ d, w.delay n = .ok d ∧ u = min (t + d.ticks) w.limit := by
  unfold pause at h
  split at h
  · cases h
  · split at h
    · cases h
      exact ⟨_, ‹_›, rfl⟩
    · cases h

theorem rest_goesOn {w : Wait} {n : Nat} {s s' : State} (h : w.rest n s = .goesOn s') :
    ∃ p, w.delay n = .ok p ∧ s' = { s with now := min (s.now + p.ticks) w.limit } ∧
      w.token.firesBefore s'.now = false := by
  unfold rest at h
  split at h
  · cases h
  · split at h
    · cases h
    · rename_i u hu
      split at h
      · cases h
      · rename_i hf
        cases h
        obtain ⟨p, hp, rfl⟩ := pause_ok hu
        exact ⟨p, hp, rfl, by simpa using hf⟩

/-- The loop goes on only after a fetch that came back before the deadline without what was waited for,
and only when the pause behind it is over. -/
theorem turn_goesOn {w : Wait} {s s' : State} (h : w.turn s = .goesOn s') :
    ∃ d r p, w.observe s.polls = .answers d r ∧ r ≠ .ok true ∧ s.now + d < w.limit ∧
      w.delay s.polls = .ok p ∧ w.token.firesBefore s'.now = false ∧
      s' = ⟨min (s.now + d + p.ticks) w.limit, s.polls + 1, lastErrorOf r s.lastError⟩ := by
  unfold turn at h
  split at h
  · cases h
  · cases h
  · cases h
  · cases h
  · rename_i t r hr hp
    obtain ⟨d, hd, rfl, hlt, -⟩ := poll_answered hp
    obtain ⟨p, hpause, rfl, hf⟩ := rest_goesOn h
    exact ⟨d, r, p, hd, hr, hlt, hpause, hf, rfl⟩

/-- A turn takes time, so the loop ends. -/
theorem turn_advances {w : Wait} {s s' : State} (hs : s.now < w.limit)
    (h : w.turn s = .goesOn s') : s.now < s'.now ∧ s'.now ≤ w.limit := by
  obtain ⟨d, r, p, -, -, hd, -, -, rfl⟩ := turn_goesOn h
  have := p.ticks_pos
  dsimp only
  omega

def pollFrom (w : Wait) (s : State) : Course Fetch Result :=
  match _hs : w.checkStop s with
  | some e => ⟨[], e⟩
  | none =>
    match _ht : w.turn s with
    | .stops e => ⟨[(s.now, w.fetch)], e⟩
    | .goesOn s' =>
      let later := pollFrom w s'
      ⟨(s.now, w.fetch) :: later.calls, later.ending⟩
termination_by w.limit - s.now
decreasing_by
  have := (checkStop_eq_none _hs).2
  have := turn_advances this _ht
  omega

end Wait

namespace WaitSpec

def waitFor (s : WaitSpec) (condition : Condition) (source : StateSource) (delay : Schedule)
    (token : Token) : Wait :=
  ⟨condition.fetch, fun n => condition.observe source n, delay, s.deadline, s.deadline.ticks, token⟩

section
variable (s : WaitSpec) (c : Condition) (source : StateSource) (delay : Schedule) (token : Token)

@[simp] theorem fetch_waitFor : (s.waitFor c source delay token).fetch = c.fetch := rfl
@[simp] theorem observe_waitFor (n : Nat) :
    (s.waitFor c source delay token).observe n = c.observe source n := rfl
@[simp] theorem delay_waitFor : (s.waitFor c source delay token).delay = delay := rfl
@[simp] theorem deadline_waitFor : (s.waitFor c source delay token).deadline = s.deadline := rfl
@[simp] theorem limit_waitFor : (s.waitFor c source delay token).limit = s.deadline.ticks := rfl
@[simp] theorem token_waitFor : (s.waitFor c source delay token).token = token := rfl

end

/-- Waits, on a schedule of delays, until the condition of a spec holds, the deadline passes or the token
fires. A spec that does not resolve makes no fetch. -/
def waitOn (s : WaitSpec) (source : StateSource) (delay : Schedule) : Timed Fetch Wait.Result :=
  fun token =>
    match s.resolve with
    | .error e => ⟨[], .returned 0 token (.error e)⟩
    | .ok condition =>
      if fitsClock 0 s.deadline then (s.waitFor condition source delay token).pollFrom ⟨0, 0, none⟩
      else ⟨[], .panicked 0 clockOverflow⟩

/-- Waits on the schedule of the spec itself; the random numbers are for its jitter. -/
def wait (s : WaitSpec) (source : StateSource) (random : Nat → Nat) : Timed Fetch Wait.Result :=
  s.waitOn source (s.backoff.schedule random)

end WaitSpec
end Checkup
