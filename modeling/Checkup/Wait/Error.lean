import Checkup.Fault
import Checkup.Span

/-!
# How a wait fails

The kinds of resources that one may ask to wait for, and the ways in which a wait ends without the
resource being ready.

**Names.** What `message` puts behind a message is the program's `last_error_suffix`.
-/
namespace Checkup

inductive ResourceKind where
  | deployment
  | pod
  | clusterNamespace
  | statefulSet
  | persistentVolumeClaim
  | configMap
  | secret
  deriving DecidableEq, Repr

namespace ResourceKind

/-- Only deployments and pods have a condition to wait for. -/
def isSupported : ResourceKind → Bool
  | deployment => true
  | pod => true
  | _ => false

def text : ResourceKind → String
  | deployment => "deployment"
  | pod => "pod"
  | clusterNamespace => "namespace"
  | statefulSet => "statefulset"
  | persistentVolumeClaim => "persistentvolumeclaim"
  | configMap => "configmap"
  | secret => "secret"

end ResourceKind

/-- The ways in which a wait fails. Polls are counted in 32 bits. -/
inductive WaitError where
  /-- The deadline passed first; the last fetch that failed is kept for diagnosis. -/
  | deadlineExceeded (deadline : Span) (polls : UInt32) (lastError : Option String)
  | cancelled (polls : UInt32)
  | unsupported (kind : ResourceKind)
  | invalidOption (problem : String)
  deriving DecidableEq, Repr

namespace WaitError

def message : WaitError → String
  | deadlineExceeded deadline polls lastError =>
    let suffix := match lastError with
      | some e => s!" (last fetch error: {e})"
      | none => ""
    s!"deadline of {deadline.text} exceeded after {Text.natText polls.toNat} polls{suffix}"
  | cancelled polls => s!"wait cancelled after {Text.natText polls.toNat} polls"
  | unsupported kind => s!"waiting for {kind.text} is not supported"
  | invalidOption problem => s!"invalid wait option: {problem}"

end WaitError
end Checkup
