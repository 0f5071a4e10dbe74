import Checkup.Address
import Checkup.Registry
import Checkup.StatusServer

/-!
# The program

The command line names a command behind the flags: one run of the battery, whose results are printed, or
the server. The exit code tells whether the run passed: 0 if it did, 1 if it did not or could not be
made, and 2 if the command line cannot be understood. What is logged along the way is left out.

**Names.** `execute` is the program's `main`.
-/
namespace Checkup.CommandLine

inductive Command where
  | run
  | serve (host : String) (port : Nat)
  deriving DecidableEq, Repr

namespace Command

def serveFlags : List Flag := [
  ⟨"port", some 'p', some "PORT", .number 65535, false⟩,
  ⟨"host", none, none, .anyText, false⟩]

/-- The names of the commands, one of which only tells how to use the others. -/
def names : List String := ["serve", "run", "help"]

/-- Reads what stands behind a command. -/
def read (name : String) (args : List String) (environment : String → Option String) :
    Except UsageError Command :=
  match name with
  | "serve" => do
    let grammar : Grammar := ⟨serveFlags, false, []⟩
    let r ← (← Reading.read grammar args .start).1.complete grammar environment
    let port := ((r.value? "port").bind (Text.readBounded? 65535)).getD 8080
    return .serve ((r.value? "host").getD "0.0.0.0") port
  | "run" => do
    let grammar : Grammar := ⟨[], false, []⟩
    let _ ← (← Reading.read grammar args .start).1.complete grammar environment
    return .run
  | _ =>
    match args with
    | [] => .error .helpWanted
    | [topic] => .error (if names.contains topic then .helpWanted else .unknownCommand)
    | _ => .error .unknownCommand

end Command

/-- Reads a whole command line. -/
def read (args : List String) (environment : String → Option String) :
    Except UsageError (Options × Command) := do
  let grammar : Grammar := ⟨Options.flags, true, Command.names⟩
  let (reading, command) ← Reading.read grammar args .start
  match command with
  | none => throw .missingCommand
  | some (name, rest) =>
    let command ← Command.read name rest environment
    return (Options.ofReading (← reading.complete grammar environment), command)

/-- The environment variables that give values to flags. -/
def environmentNames : List String := (Options.flags ++ Command.serveFlags).filterMap (·.envName)

/-- The configuration of a command line that can be understood. -/
def configuration? (args : List String) (environment : String → Option String) : Option Config :=
  match read args environment with
  | .ok (options, _) => (Config.ofOptions options).toOption
  | .error _ => none

/-- What a program does: it explains its use, tells its version, refuses the command line or the
configuration, refuses an address, starts a server, or reports the results of a run. -/
inductive Outcome where
  | usage
  | version
  | misuse (e : UsageError)
  | misconfigured (e : ConfigError)
  | invalidAddress
  | serving (config : Config) (host : String) (port : Nat)
  | report (results : List Node)
  /-- The run never ends. -/
  | stuck

namespace Outcome

def allPassed (results : List Node) : Bool := results.all (·.passed)

def exitCode : Outcome → Nat
  | usage => 0
  | version => 0
  | misuse _ => 2
  | misconfigured _ => 1
  | invalidAddress => 1
  | serving .. => 0
  | report results => if allPassed results then 0 else 1
  | stuck => 1

/-- One line for each flag. -/
def flagLine (f : Flag) : String :=
  let source := match f.envName with
    | some name => s!" [env: {name}]"
    | none => ""
  s!"      --{f.name} <VALUE>{source}"

def usageText : String :=
  "\n".intercalate (["Usage: smoketest [OPTIONS] <COMMAND>", "", "Commands:", "  serve  Start the HTTP server",
    "  run    Run the battery once, print and publish the results", "", "Options:"]
    ++ Options.flags.map flagLine) ++ "\n"

/-- The results as they are printed. -/
def reportText (results : List Node) : String :=
  (Json.Value.array (results.map Node.toJson)).prettyText ++ "\n"

def stdout : Outcome → String
  | usage => usageText
  | version => s!"smoketest {Checkup.version}\n"
  | report results => reportText results
  | _ => ""

/-- A cause below an error, indented line by line. -/
def causeLines (message : String) : List String := (Text.split '\n' message).map ("    " ++ ·)

/-- The lines that tell of an error. -/
def stderr : Outcome → List String
  | misuse _ => ["error: the command line cannot be understood"]
  | misconfigured e => ["Error: Invalid configuration", "", "Caused by:"] ++ causeLines e.message
  | invalidAddress => ["Error: invalid socket address syntax"]
  | _ => []

end Outcome

/-- One run of the battery that a configuration asks for. -/
def runOnce (c : Config) (p : Platform) : Outcome :=
  let server := StatusServer.ofHarness (fun _ => Registry.harness c p)
    (fun _ => Registry.publisher c p) .never
  match StatusServer.ended (server.run 0 server.shutdown).ending with
  | some (_, results) => .report results
  | none => .stuck

/-- Does what a configuration and a command ask for. -/
def obey (c : Config) (p : Platform) : Command → Outcome
  | .run => runOnce c p
  | .serve host port => if Address.isSocketHost host then .serving c host port else .invalidAddress

def execute (args : List String) (environment : String → Option String) (p : Platform) : Outcome :=
  match read args environment with
  | .error .helpWanted => .usage
  | .error .versionWanted => .version
  | .error e => .misuse e
  | .ok (options, command) =>
    match Config.ofOptions options with
    | .error e => .misconfigured e
    | .ok config => obey config p command

end Checkup.CommandLine
