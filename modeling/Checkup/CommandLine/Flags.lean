import Checkup.Text.Decimal
import Checkup.Text.Split

/-!
# Flags

A command line gives values to flags, each flag by its name behind two hyphens or by a letter behind
one. The value stands behind an equals sign or is the next argument, which must not begin with a hyphen.
A flag that is not given takes its value from an environment variable, if that is set. Flags that are
lists may be repeated, and each of their values is split at commas.

An argument that is no flag ends the reading if it is the name of a command. The value of a flag is
checked only when the next flag or the end of the command line is reached, so that a later unknown flag
is reported before a wrong value.
-/
namespace Checkup.CommandLine

/-- What is wrong with a command line, or what it asks for instead of a run. -/
inductive UsageError where
  | helpWanted
  | versionWanted
  /-- An unknown flag, or a value where none belongs. -/
  | unknownArgument
  /-- A flag without a value, or with one that is not among its choices. -/
  | invalidValue
  /-- A value that is not a number of the right type. -/
  | notANumber
  /-- A flag that is given twice. -/
  | repeatedFlag
  /-- A flag that takes no value and was given one. -/
  | surplusValue
  | unknownCommand
  | missingCommand
  deriving DecidableEq, Repr

inductive ValueKind where
  | anyText
  | someText
  | number (bound : Nat)
  | choice (names : List String)
  deriving DecidableEq, Repr

def ValueKind.check (k : ValueKind) (value : String) : Except UsageError Unit :=
  match k with
  | anyText => .ok ()
  | someText => if value.isEmpty then .error .invalidValue else .ok ()
  | number bound =>
    if (Text.readBounded? bound value).isSome then .ok () else .error .notANumber
  | choice names => if names.contains value then .ok () else .error .invalidValue

/-- A flag, by its name, its letter and its environment variable. -/
structure Flag where
  name : String
  letter : Option Char
  envName : Option String
  kind : ValueKind
  isList : Bool
  deriving DecidableEq, Repr

namespace Flag

def single (name : String) (kind : ValueKind) (envName : String) : Flag :=
  ⟨name, none, some envName, kind, false⟩

def list (name envName : String) : Flag := ⟨name, none, some envName, .anyText, true⟩

end Flag

/-- The flags that a command line may hold, whether it may ask for the version, and the commands that
may end it. -/
structure Grammar where
  flags : List Flag
  hasVersion : Bool
  commands : List String

/-- What is read so far: the values of flags, and the flag whose value is still to come or to be
checked. -/
structure Reading where
  given : List (String × List String)
  pending : Option (Flag × Option String)

namespace Reading

def start : Reading := ⟨[], none⟩

def values (r : Reading) (name : String) : List String := (r.given.lookup name).getD []

def value? (r : Reading) (name : String) : Option String := (r.values name).head?

def has (r : Reading) (name : String) : Bool := (r.given.lookup name).isSome

/-- Adds a value for a flag. -/
def accept (r : Reading) (f : Flag) (value : String) : Except UsageError Reading := do
  if r.has f.name && !f.isList then throw .repeatedFlag
  let values := if f.isList then Text.split ',' value else [value]
  values.forM f.kind.check
  let others := r.given.filter (·.1 != f.name)
  return { r with given := others ++ [(f.name, r.values f.name ++ values)] }

/-- Checks the value of the last flag. -/
def settle (r : Reading) : Except UsageError Reading :=
  match r.pending with
  | none => .ok r
  | some (_, none) => .error .invalidValue
  | some (f, some value) => { r with pending := none }.accept f value

/-- Adds a flag with the value that stands behind it, if there is one. -/
def take (r : Reading) (f : Flag) (value : Option String) : Except UsageError Reading := do
  let r ← r.settle
  match value with
  | some v => r.accept f v
  | none => return { r with pending := some (f, none) }

/-- Adds an argument that begins with two hyphens. -/
def long (r : Reading) (g : Grammar) (text : List Char) : Except UsageError Reading := do
  let (name, value) := match Text.splitOnce? '=' text with
    | some (name, value) => (String.ofList name, some (String.ofList value))
    | none => (String.ofList text, none)
  match g.flags.find? (·.name == name) with
  | some f => r.take f value
  | none =>
    if name = "help" ∨ (name = "version" ∧ g.hasVersion) then
      if value.isSome then throw .surplusValue
      let _ ← r.settle
      throw (if name = "help" then .helpWanted else .versionWanted)
    else throw .unknownArgument

/-- Adds an argument that begins with one hyphen; the first letter decides, since no flag without a
value leaves the reading to go on. -/
def short (r : Reading) (g : Grammar) : List Char → Except UsageError Reading
  | [] => .error .unknownArgument
  | c :: rest =>
    match g.flags.find? (·.letter == some c) with
    | some f =>
      let value := match rest with
        | '=' :: v => v
        | v => v
      r.take f (if rest.isEmpty then none else some (String.ofList value))
    | none =>
      if c = 'h' then r.settle.bind fun _ => .error .helpWanted
      else if c = 'V' ∧ g.hasVersion then r.settle.bind fun _ => .error .versionWanted
      else .error .unknownArgument

/-- Reads arguments up to a command, and gives the command and what is behind it. -/
def read (g : Grammar) : List String → Reading → Except UsageError (Reading × Option (String × List String))
  | [], r => .ok (r, none)
  | arg :: rest, r =>
    match arg.toList with
    | ['-', '-'] => if rest.isEmpty then .ok (r, none) else .error .unknownArgument
    | '-' :: '-' :: text => do read g rest (← r.long g text)
    | '-' :: c :: text => do read g rest (← r.short g (c :: text))
    | _ =>
      match r.pending with
      | some (f, none) => read g rest { r with pending := some (f, some arg) }
      | _ =>
        if g.commands.contains arg then .ok (r, some (arg, rest))
        else .error (if g.commands.isEmpty then .unknownArgument else .unknownCommand)

/-- Fills in a flag from its environment variable. -/
def fillFrom (environment : String → Option String) (r : Reading) (f : Flag) :
    Except UsageError Reading :=
  if r.has f.name then .ok r
  else
    match f.envName.bind environment with
    | some value => r.accept f value
    | none => .ok r

/-- Checks the last flag and fills in the others from the environment. -/
def complete (g : Grammar) (environment : String → Option String) (r : Reading) :
    Except UsageError Reading := do
  g.flags.foldlM (fillFrom environment) (← r.settle)

end Reading
end Checkup.CommandLine
