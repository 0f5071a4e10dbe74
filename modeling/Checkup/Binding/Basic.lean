import Checkup.Json.Value
import Checkup.Text.Blank

/-!
# Service bindings

A binding describes one bound service: its credentials by key, its tags and its volume mounts. The
accessors give a credential in the type that is asked for, or an error that names the service and the
key and says nothing of what the credential holds.

**Names.** The accessors `credential?`, `text`, `optionalText`, `port`, `flag`, `firstMount` and `hasTag`
are the program's `credential`, `credential_str`, `optional_str`, `credential_u16`, `credential_bool`,
`first_mount` and `has_tag`; `withLabel?`, `withTag?`, `labels` and `size` are `with_label`, `with_tag`,
`labels` and `len` there.
-/
namespace Checkup

inductive BindingError where
  /-- The document is not JSON of the expected shape. What the reader says of the place is left out. -/
  | malformed
  | missingCredential (service key : String)
  | invalidCredential (service key expected : String)
  | missingVolumeMount (service : String)
  deriving DecidableEq, Repr

def BindingError.message : BindingError → String
  | malformed => "Malformed VCAP_SERVICES"
  | missingCredential service key => s!"Service {service} has no credential '{key}'"
  | invalidCredential service key expected =>
    s!"Credential '{key}' of service {service} is not a valid {expected}"
  | missingVolumeMount service => s!"Service {service} has no volume mount"

structure VolumeMount where
  containerDir : String
  mode : Option String
  deriving DecidableEq, Repr

structure Binding where
  name : String
  label : String
  tags : List String
  credentials : List (String × Json.Value)
  volumeMounts : List VolumeMount
  deriving Repr

namespace Binding

def credential? (b : Binding) (key : String) : Option Json.Value := b.credentials.lookup key

def missing (b : Binding) (key : String) : BindingError := .missingCredential b.name key

def invalid (b : Binding) (key expected : String) : BindingError :=
  .invalidCredential b.name key expected

/-- A credential that must be a string. -/
def text (b : Binding) (key : String) : Except BindingError String :=
  match b.credential? key with
  | some (.string s) => .ok s
  | some _ => .error (b.invalid key "string")
  | none => .error (b.missing key)

/-- A string credential that may be absent; anything but a non-empty string counts as absent. -/
def optionalText (b : Binding) (key : String) : Option String :=
  match b.credential? key with
  | some (.string s) => if s.isEmpty then none else some s
  | _ => none

def maxPort : Nat := 65535

/-- The natural number that a double is, if it is one; beyond 64 bits it counts as too large. -/
def wholeOf? : Double → Option Nat
  | .finite s m e =>
    let (num, den) := Double.ratioOf m e
    if num % den = 0 ∧ (!s ∨ m = 0) then some (num / den) else none
  | _ => none

/-- The port that a credential gives, as a number or as decimal text. -/
def portOf? : Json.Value → Option Nat
  | .number (.natural n) => if n ≤ maxPort then some n else none
  | .number (.negative _) => none
  | .number (.double d) => (wholeOf? d).filter (· ≤ maxPort)
  | .string s => Text.readBounded? maxPort (Text.trim s)
  | _ => none

/-- A credential that must be a port number. -/
def port (b : Binding) (key : String) : Except BindingError UInt16 :=
  match b.credential? key with
  | none => .error (b.missing key)
  | some v =>
    match portOf? v with
    | some n => .ok (UInt16.ofNat n)
    | none => .error (b.invalid key "port number")

/-- A truth value, as such or spelled out. -/
def flag (b : Binding) (key : String) (absent : Bool) : Except BindingError Bool :=
  match b.credential? key with
  | some (.bool x) => .ok x
  | some (.string "true") => .ok true
  | some (.string "false") => .ok false
  | some .null => .ok absent
  | none => .ok absent
  | some _ => .error (b.invalid key "boolean")

def firstMount (b : Binding) : Except BindingError VolumeMount :=
  match b.volumeMounts with
  | m :: _ => .ok m
  | [] => .error (.missingVolumeMount b.name)

def hasTag (b : Binding) (tag : String) : Bool := b.tags.contains tag

end Binding

/-- All bound services, in groups with ascending labels. -/
structure ServiceBindings where
  groups : List (String × List Binding)
  deriving Repr

namespace ServiceBindings

def empty : ServiceBindings := ⟨[]⟩

def withLabel? (s : ServiceBindings) (label : String) : Option Binding :=
  (s.groups.lookup label).bind List.head?

def all (s : ServiceBindings) : List Binding := s.groups.flatMap Prod.snd

/-- The first binding with a tag, in the order of the labels. -/
def withTag? (s : ServiceBindings) (tag : String) : Option Binding := s.all.find? (·.hasTag tag)

def labels (s : ServiceBindings) : List String := s.groups.map Prod.fst

def size (s : ServiceBindings) : Nat := s.all.length

end ServiceBindings
end Checkup
