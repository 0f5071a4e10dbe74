import Checkup.Binding.Basic
import Checkup.Script
import Checkup.Text.Quoted

/-!
# The check of a cache

The script opens a connection, exchanges a ping, writes a key, reads it and deletes it. The first step
that fails ends the script, except that a key once written is deleted even if it could not be read; it
also carries an expiry, for the case that deleting it fails too.

**Names.** The script is `run` and `exercise` of the program's `CacheProbe`.
-/
namespace Checkup.Cache

structure Settings where
  host : String
  port : UInt16
  password : Option String
  deriving DecidableEq, Repr

namespace Settings

/-- The settings that a binding gives; a cache need not have a password. -/
def ofBinding (b : Binding) : Except BindingError Settings := do
  let host ← b.text "host"
  let port ← b.port "port"
  return ⟨host, port, b.optionalText "password"⟩

/-- A text that tells no secret. -/
def summary (s : Settings) : String :=
  let password := match s.password with
    | some _ => "Some(\"<redacted>\")"
    | none => "None"
  Text.summary "CacheSettings" [("host", Text.quoted s.host), ("port", Text.natText s.port.toNat),
    ("password", password)] true

end Settings

inductive Call where
  | connect (host : String) (port : UInt16)
  | ping
  | set (key value : String) (expiry : Span)
  | get (key : String)
  | delete (key : String)
  deriving DecidableEq, Repr

structure Service where
  connect : Reply Unit
  ping : Reply String
  set : Reply Unit
  get : Reply (Option String)
  delete : Reply Nat

def connectTimeout : Span := Span.ofSeconds 15

/-- The life of the test key. -/
def expiry : Span := Span.ofSeconds 300

def connectTimedOut : Fault :=
  .message s!"Timed out opening connection after {connectTimeout.text}"

/-- The reply to a ping must be the usual one. -/
def checkPong (reply : String) : Except Fault Unit :=
  if reply = "PONG" then .ok () else .error (.message s!"No PONG reply from Redis, got '{reply}'")

/-- The value that was read must be the one that was written. -/
def checkValue (key value : String) : Except Fault (Option String) → Except Fault Unit
  | .ok (some v) =>
    if v = value then .ok ()
    else .error (.message s!"Read value '{v}' differs from written value '{value}'")
  | .ok none => .error (.message s!"Key {key} not found")
  | .error e => .error e

/-- The whole script, for a key and a value that are new in each run. -/
def script (s : Settings) (key value : String) (cache : Service) : Script Call Unit := do
  Script.step "Open connection"
    (Timed.connecting connectTimeout connectTimedOut (Timed.call (.connect s.host s.port) cache.connect))
  let reply ← Script.step "Ping" (Timed.call .ping cache.ping)
  Script.step "Pong" (pure (checkPong reply))
  Script.step "Write key" (Timed.call (.set key value expiry) cache.set)
  let _ ← Script.attempt
    (Script.step "Read key" (checkValue key value <$> Timed.call (.get key) cache.get))
  let _ ← Script.step "Delete key" (Timed.call (.delete key) cache.delete)

/-- The key of a run, from an identifier that no other run has. -/
def testKey (identifier : String) : String := s!"smoketest:{identifier}"

/-- The probe of a cache, for a run with its own identifier at a time stamp. -/
def probe (key name : String) (s : Settings) (identifier timestamp : String) (cache : Service) :
    Probe Call :=
  .deaf key name ((script s (testKey identifier) timestamp cache).node key name)

end Checkup.Cache
