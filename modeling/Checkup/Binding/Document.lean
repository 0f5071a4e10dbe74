import Checkup.Binding.Basic
import Checkup.Json.Record

/-!
# The document that lists the service bindings

A JSON object from labels to lists of bindings. A blank document binds nothing. A binding without a
label of its own takes that of its group.

**Names.** `parse` is `parse` of the program's `ServiceBindings`.
-/
namespace Checkup

open Json

def VolumeMount.ofSyntax? (s : Syntax) : Option VolumeMount := do
  let fields ← fields? ["container_dir", "mode"] s
  let dir ← required? fields "container_dir" readText?
  let mode ← optional? fields "mode" none (readNullable? readText?)
  return ⟨dir, mode⟩

/-- The members of an object, with at most `budget` arrays and objects open at once. -/
def readEntries? (budget : Nat) (s : Syntax) : Option (List (String × Value)) :=
  match Value.ofSyntax? budget s with
  | some (.object members) => some members
  | _ => none

/-- The names of the fields of a binding, in their order. -/
def Binding.fieldNames : List String := ["name", "label", "tags", "credentials", "volume_mounts"]

/-- The nesting that is left for the credentials: they stand inside the document, a group and a
binding. -/
def Binding.credentialNesting : Nat := maxNesting - 3

def Binding.ofSyntax? (s : Syntax) : Option Binding := do
  let fields ← fields? Binding.fieldNames s
  let name ← required? fields "name" readText?
  let label ← optional? fields "label" "" readText?
  let tags ← optional? fields "tags" [] (readList? readText?)
  let credentials ← optional? fields "credentials" [] (readEntries? credentialNesting)
  let mounts ← optional? fields "volume_mounts" [] (readList? VolumeMount.ofSyntax?)
  return ⟨name, label, tags, credentials, mounts⟩

/-- The same binding, labelled like its group if it has no label. -/
def Binding.inGroup (label : String) (b : Binding) : Binding :=
  if b.label.isEmpty then { b with label := label } else b

namespace ServiceBindings

/-- A group from a member of the document. -/
def groupOf? (m : List Piece × Syntax) : Option (String × List Binding) := do
  let label ← stringOf? m.1
  let bindings ← readList? Binding.ofSyntax? m.2
  return (label, bindings.map (Binding.inGroup label))

/-- The groups of a document; of two groups with one label the last one counts. -/
def ofSyntax? : Syntax → Option ServiceBindings
  | .object members => do return ⟨sortEntries (← members.mapM groupOf?)⟩
  | _ => none

/-- The bindings that a document lists. -/
def parse (document : String) : Except BindingError ServiceBindings :=
  if Text.isBlank document then .ok empty
  else
    match (Syntax.parse? document).bind ofSyntax? with
    | some s => .ok s
    | none => .error .malformed

end ServiceBindings
end Checkup
