import Checkup.Node.Basic
import Checkup.Text.Blank

/-!
# Why a step failed

A `Fault` is a chain of causes, the outermost first. A link is a plain text or a `Failure`, which has a
detail and a status code to show beside its message. `Node.ofFault` turns a fault into the failed leaf
of a step: its error is the whole chain, and the detail and the status code are those of the outermost
failure that is a cause in its own right. A failure that was only attached as context for another cause
contributes its message and nothing else.

**Names.** A failure is the program's `StepFailure`; `Node.ofFault` is its `failure_leaf`, and
`shownError` its `non_empty`.
-/
namespace Checkup

/-- A failed exchange: a short error, and what else the other side said about it. -/
structure Failure where
  message : String
  detail : Option String
  status : Option UInt16
  deriving DecidableEq, Repr

/-- A chain of causes, the outermost first. -/
inductive Fault where
  | message (text : String)
  | failure (f : Failure)
  | context (text : String) (cause : Fault)
  | contextFailure (f : Failure) (cause : Fault)
  deriving DecidableEq, Repr

namespace Fault

/-- The messages of the chain, the outermost first. -/
def messages : Fault → List String
  | message text => [text]
  | failure f => [f.message]
  | context text cause => text :: cause.messages
  | contextFailure f cause => f.message :: cause.messages

/-- The messages of the chain in one line. -/
def text (f : Fault) : String := ": ".intercalate f.messages

/-- The outermost failure that is a cause and not a context. -/
def failure? : Fault → Option Failure
  | message _ => none
  | failure f => some f
  | context _ cause => cause.failure?
  | contextFailure _ cause => cause.failure?

/-- What a leaf shows of the fault: the bare message of a failure that stands alone, and the whole chain
otherwise. -/
def headline (fault : Fault) : String :=
  match fault.failure? with
  | some f => if fault.messages.length = 1 then f.message else fault.text
  | none => fault.text

end Fault

/-- The text itself, or a stand-in when it is blank. -/
def shownError (text : String) : String := if Text.isBlank text then "unknown error" else text

namespace Node

/-- Adds the detail and the status code of a failure, as far as it has them. -/
def withFailure (t : Node) (f : Failure) : Node :=
  let t := match f.detail with
    | some detail => t.withErrorDetail detail
    | none => t
  match f.status with
  | some code => t.withStatusCode code
  | none => t

/-- The failed leaf of a step that ended with a fault. -/
def ofFault (label : String) (fault : Fault) : Node :=
  let leaf := fail label (shownError fault.headline)
  match fault.failure? with
  | some f => leaf.withFailure f
  | none => leaf

end Node
end Checkup
