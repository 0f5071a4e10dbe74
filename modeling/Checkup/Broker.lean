import Checkup.Binding.Basic
import Checkup.Script
import Checkup.Text.Quoted
import Checkup.Text.Utf8

/-!
# The check of a message broker

The probe publishes one message to a queue while a listener, which works beside it on a channel of its
own, receives it. The listener reports each of its steps as it is done; the probe adds the reports to its
own steps, in their order, once the message is published, and goes on when the listener is done. If the
message could not be published the listener is given up and nothing of it is reported.

The publishing channel and the connection are closed in any case once they were opened, the channel
first, and an error of closing them is no step.

**Names.** `script`, `exercise`, `listen` and `reported` are `run` and `exercise` of the program's
`BrokerProbe` and its `listen` and `report`.
-/
namespace Checkup.Broker

/-- How to connect to a broker: a URI, which holds the account too. -/
structure Settings where
  uri : String
  deriving DecidableEq, Repr

namespace Settings

def ofBinding (b : Binding) : Except BindingError Settings := do return ⟨← b.text "uri"⟩

/-- A text that tells no secret. -/
def summary (_ : Settings) : String := Text.summary "BrokerSettings" [] false

end Settings

inductive PublisherCall where
  | connect (uri : String)
  | openChannel
  | declareQueue (queue : String)
  | publish (queue body : String)
  | closeChannel
  | disconnect
  deriving DecidableEq, Repr

inductive ListenerCall where
  | openChannel
  | consume (queue : String)
  | next
  | closeChannel
  deriving DecidableEq, Repr

/-- What the listener does: a call, or the report of a step. -/
inductive ListenerEvent where
  | call (c : ListenerCall)
  | report (leaf : Node)

inductive Call where
  | publisher (c : PublisherCall)
  | listener (c : ListenerCall)
  deriving DecidableEq, Repr

/-- How a broker replies. A message is any bytes; the next one may depend on when the listener asks for
it, counted from the start of the publication. -/
structure Service where
  connect : Reply Unit
  openChannel : Reply Unit
  declareQueue : Reply Unit
  publish : Reply Unit
  closeChannel : Reply Unit
  disconnect : Reply Unit
  listenerOpen : Reply Unit
  consume : Reply Unit
  next : Nat → Reply (Option (List UInt8))
  listenerClose : Reply Unit

def queueName : String := "smoketestsQueue"

def connectTimeout : Span := Span.ofSeconds 15

/-- The usual limit on receiving the message. -/
def receiveTimeout : Span := Span.ofSeconds 10

def connectTimedOut : Fault := .context "Timed out opening connection" .deadlineElapsed

/-! ## The listener -/

/-- A step of the listener: its leaf is reported, and a failure ends the listener's steps. -/
def reported {α : Type} (label : String) (x : Timed ListenerEvent (Except Fault α)) :
    OptionT (Timed ListenerEvent) α :=
  OptionT.mk do
    let outcome ← x
    let (value, log) := StepLog.empty.settle label outcome
    log.leaves.forM fun leaf => Timed.emit (.report leaf)
    return value

/-- The message that was received must be the one that was sent. -/
def checkMessage (limit : Span) (expected : String) :
    Option (Except Fault (Option (List UInt8))) → Except Fault Unit
  | none => .error (.message s!"No message received within {Text.natText limit.seconds}s")
  | some (.error e) => .error e
  | some (.ok none) => .error (.message "Consumer closed before a message arrived")
  | some (.ok (some body)) =>
    if body = Text.Utf8.encode expected.toList then .ok ()
    else .error (.message "Received message was different from sent message")

/-- The tick, from the start of the listener, at which it asks for the message, given that it gets so
far. -/
def askedAt (b : Service) : Nat := b.listenerOpen.time?.getD 0 + b.consume.time?.getD 0

/-- The listener, from the start of the publication on. -/
def listen (b : Service) (limit : Span) (expected : String) : Timed ListenerEvent Unit := do
  let opened ← (reported "Create listening channel"
    (Timed.call (.call .openChannel) b.listenerOpen)).run
  match opened with
  | none => return
  | some _ =>
    let check : OptionT (Timed ListenerEvent) Unit := do
      reported "Consume message" (Timed.call (.call (.consume queueName)) b.consume)
      reported "Check message" (checkMessage limit expected <$>
        Timed.within limit (Timed.call (.call .next) (b.next (askedAt b))))
    let _ ← check.run
    let _ ← Timed.call (.call .closeChannel) b.listenerClose

/-- The leaves that the listener reports. -/
def reports (events : List (Nat × ListenerEvent)) : List Node :=
  events.filterMap fun e => match e.2 with
    | .report leaf => some leaf
    | .call _ => none

def listenerCalls (events : List (Nat × ListenerEvent)) : List (Nat × Call) :=
  events.filterMap fun e => match e.2 with
    | .call c => some (e.1, .listener c)
    | .report _ => none

/-! ## The publisher -/

/-- A call of the publishing side. -/
def call {α : Type} (c : PublisherCall) (r : Reply α) : Timed Call (Except Fault α) :=
  Timed.call (.publisher c) r

/-- Adds the reports of a listener, which works beside the publisher from now on, to a log, and is done
when the listener is. The publication takes `published` ticks of that time. A listener that panics has
failed to check the message. -/
def collect (b : Service) (limit : Span) (body : String) (published : Nat) (log : StepLog) :
    Timed Call StepLog := fun tok =>
  let c := listen b limit body .never
  let reported : StepLog := ⟨log.leaves ++ reports c.calls⟩
  let finish (t : Nat) (log : StepLog) : Ending StepLog :=
    .returned (max published t) (tok.after (max published t)) log
  ⟨listenerCalls c.calls, match c.ending with
    | .returned t _ _ => finish t reported
    | .panicked t _ => finish t (reported.fail "Check message" "Listener task panicked")
    | .never => .never⟩

/-- Publishes the message while the listener is at work. When that fails the listener is given up, with
the calls that it has made by then. -/
def exchange (b : Service) (limit : Span) (body : String) : Script Call Unit :=
  OptionT.mk fun log tok =>
    let publication := call (.publish queueName body) b.publish tok
    match publication.ending with
    | .returned t _ (.ok ()) =>
      let c := collect b limit body t (log.settle "Publish message" (.ok ())).2 tok
      ⟨publication.calls ++ c.calls, match c.ending with
        | .returned t tok log => .returned t tok (some (), log)
        | .panicked t p => .panicked t p
        | .never => .never⟩
    | .returned t tok (.error e) =>
      let heard := (listen b limit body .never).calls.filter (·.1 < t)
      ⟨publication.calls ++ listenerCalls heard,
        .returned t tok (none, log.record (Node.ofFault "Publish message" e))⟩
    | .panicked t p => ⟨publication.calls, .panicked t p⟩
    | .never => ⟨publication.calls, .never⟩

/-- The steps on an open connection. -/
def exercise (b : Service) (limit : Span) (body : String) : Script Call Unit := do
  Script.step "Create publishing channel" (call .openChannel b.openChannel)
  let _ ← Script.attempt do
    Script.step "Declare queue" (call (.declareQueue queueName) b.declareQueue)
    exchange b limit body
  let _ ← Script.act (call .closeChannel b.closeChannel)

/-- The whole script, for a message that is new in each run. -/
def script (s : Settings) (limit : Span) (body : String) (b : Service) : Script Call Unit := do
  Script.step "Open connection"
    (Timed.connecting connectTimeout connectTimedOut (call (.connect s.uri) b.connect))
  let _ ← Script.attempt (exercise b limit body)
  let _ ← Script.act (call .disconnect b.disconnect)

/-- The probe of a broker, for a run at a time stamp. -/
def probe (key name : String) (s : Settings) (limit : Span) (timestamp : String) (b : Service) :
    Probe Call :=
  .deaf key name ((script s limit timestamp b).node key name)

end Checkup.Broker
