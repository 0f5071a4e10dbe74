import Checkup.Harness
import Checkup.Http.Target
import Checkup.Node.Wire
import Checkup.Text.Quoted

/-!
# The status server

A request for the status makes a run of the battery and is answered with its results. Runs share the
names of what they create, so there is one at a time, and they begin in the order of the requests. A run
goes on to its end and is published even if the client has given up. A run that breaks off, which only a
panic outside its probes can cause, is answered with a failed node and does not keep later runs from
beginning.

**Names.** `Server.handle` is the program's router with `run` of its `AppState` behind it; `Request.wish`,
`health` and `results` are its `create_router`, `health_check` and `status`.
-/
namespace Checkup

def version : String := "0.3.0"

namespace StatusServer

/-- A request, and how many ticks after its arrival the client gives up, if it does. -/
structure Request where
  method : String
  target : String
  patience : Option Nat
  deriving DecidableEq, Repr

structure Answer where
  status : UInt16
  contentType : Option String
  body : String
  deriving DecidableEq, Repr

/-- What becomes of a request: it is answered, the client gives up, or neither ever happens. -/
inductive Reaction where
  | answered (time : Nat) (a : Answer)
  | gaveUp (time : Nat)
  | never
  deriving DecidableEq, Repr

def Reaction.time? : Reaction → Option Nat
  | answered t _ => some t
  | gaveUp t => some t
  | never => none

/-! ## Answers -/

def jsonAnswer (v : Json.Value) : Answer := ⟨200, some "application/json", v.text⟩

/-- An answer that is only a status. -/
def bareAnswer (status : UInt16) : Answer := ⟨status, none, ""⟩

def health : Answer :=
  jsonAnswer (.object [("status", .string "healthy"), ("version", .string version)])

def results (nodes : List Node) : Answer := jsonAnswer (.array (nodes.map Node.toJson))

def aborted (p : Panic) : List Node :=
  let why := match p with
    | .text s => s!"task panicked with message {Text.quoted s}"
    | .other => "task panicked"
  [Node.fail "Smoke test run" s!"Run aborted: {why}"]

inductive Wish where
  | health
  | status
  | wrongMethod
  | unknown
  deriving DecidableEq, Repr

/-- What a request asks for; of its target only the path matters, and whether the body is wanted does
not. -/
def Request.wish (r : Request) : Wish :=
  let path := ((Http.Target.parse? r.target).map (·.path)).getD ""
  let reads := r.method == "GET" || r.method == "HEAD"
  if path = "/health" then (if reads then .health else .wrongMethod)
  else if path = "/v1/status" then (if reads then .status else .wrongMethod)
  else .unknown

/-- The answer as it is sent for a request, which may not want the body. -/
def Request.receives (r : Request) (a : Answer) : Answer :=
  if r.method = "HEAD" then { a with body := "" } else a

/-! ## Runs -/

/-- When a run ends and what its results are. -/
def ended : Ending (List Node) → Option (Nat × List Node)
  | .returned t _ nodes => some (t, nodes)
  | .panicked t p => some (t, aborted p)
  | .never => none

/-- What becomes of a request that waits until a tick, if there is one, for an answer. -/
def Request.waits (r : Request) (arrival : Nat) (answer : Option (Nat × Answer)) : Reaction :=
  match answer, r.patience with
  | some (t, a), none => .answered t a
  | some (t, a), some p => if t < arrival + p then .answered t a else .gaveUp (arrival + p)
  | none, some p => .gaveUp (arrival + p)
  | none, none => .never

variable {ε : Type}

/-- A server: how the runs go, numbered in their order, and the token that shuts it down. -/
structure Server (ε : Type) where
  run : Nat → Timed (RunEvent ε) (List Node)
  shutdown : Token

/-- The server of a battery and a publisher, as they behave in each of the runs. -/
def ofHarness (h : Nat → Harness ε) (publish : Nat → Publisher ε) (shutdown : Token) : Server ε :=
  ⟨fun n => (h n).runAndPublish (publish n), shutdown⟩

/-- Whose turn it is: the number of the next run, and the tick from which it may begin, if there is
one. -/
structure Turn where
  number : Nat
  free : Option Nat
  deriving DecidableEq, Repr

/-- What the server does for one request: the reaction, whose turn it is then, and the events of the
run. -/
structure Handled (ε : Type) where
  reaction : Reaction
  turn : Turn
  events : List (Nat × RunEvent ε)

/-- Handles a request that arrives at a tick. -/
def Server.handle (s : Server ε) (turn : Turn) (arrival : Nat) (r : Request) : Handled ε :=
  let atOnce (a : Answer) : Handled ε := ⟨.answered arrival (r.receives a), turn, []⟩
  match r.wish with
  | .health => atOnce health
  | .wrongMethod => atOnce (bareAnswer 405)
  | .unknown => atOnce (bareAnswer 404)
  | .status =>
    match turn.free with
    | none => ⟨r.waits arrival none, turn, []⟩
    | some t =>
      let start := max t arrival
      let c := s.run turn.number (s.shutdown.next start)
      let outcome := (ended c.ending).map fun (t, nodes) => (start + t, nodes)
      ⟨r.waits arrival (outcome.map fun (t, nodes) => (t, r.receives (results nodes))),
        ⟨turn.number + 1, outcome.map Prod.fst⟩, Course.laterCalls start c.calls⟩

/-- Handles requests in the order of their arrival. -/
def Server.serve (s : Server ε) : Turn → List (Nat × Request) →
    List Reaction × List (Nat × RunEvent ε)
  | _, [] => ([], [])
  | turn, (arrival, r) :: rest =>
    let h := s.handle turn arrival r
    let (reactions, events) := s.serve h.turn rest
    (h.reaction :: reactions, h.events ++ events)

/-- Handles requests of which each arrives when the one before it is done with. -/
def Server.serveInTurn (s : Server ε) : Turn → (now : Nat) → List Request →
    List Reaction × List (Nat × RunEvent ε)
  | _, _, [] => ([], [])
  | turn, now, r :: rest =>
    let h := s.handle turn now r
    match h.reaction.time? with
    | none => ([h.reaction], h.events)
    | some t =>
      let (reactions, events) := s.serveInTurn h.turn t rest
      (h.reaction :: reactions, h.events ++ events)

end StatusServer
end Checkup
