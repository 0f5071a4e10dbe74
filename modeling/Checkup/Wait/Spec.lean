import Checkup.Wait.Backoff

/-!
# What to wait for

A `WaitSpec` names a resource, its target state, a deadline and a poll schedule. `resolve` accepts
exactly the specs that make sense and gives the condition to poll for; a kind that has no condition is
reported before anything else.

**Names.** In the program `requiredName` is `required_name`; `deployment`, `pod` and `resolve` have the
same names there, and `withPhase` and `withBackoff` are `with_phase` and `with_backoff`.
-/
namespace Checkup

inductive PodPhase where
  | running
  | completed
  deriving DecidableEq, Repr

def PodPhase.text : PodPhase → String
  | running => "Running"
  | completed => "Completed"

/-- The arguments of a wait; which of them apply depends on the kind of resource. -/
structure WaitOptions where
  replicas : Option Int32
  workload : Option String
  pod : Option String
  phase : Option PodPhase
  deriving DecidableEq

structure WaitSpec where
  kind : ResourceKind
  options : WaitOptions
  backoff : Backoff
  deadline : Span
  deriving DecidableEq

inductive Condition where
  | readyReplicas (name : String) (replicas : Int32)
  | podPhase (name : String) (phase : PodPhase)
  deriving DecidableEq

def Condition.text : Condition → String
  | readyReplicas name replicas =>
    s!"deployment {name} with {Text.intText replicas.toInt} ready replicas"
  | podPhase name phase => s!"pod {name} {phase.text}"

namespace WaitSpec

/-- A wait for a deployment to have a number of ready replicas. -/
def deployment (name : String) (replicas : Int32) (deadline : Span) : WaitSpec :=
  ⟨.deployment, ⟨some replicas, some name, none, none⟩, .standard, deadline⟩

def pod (name : String) (deadline : Span) : WaitSpec :=
  ⟨.pod, ⟨none, none, some name, none⟩, .standard, deadline⟩

/-- The same wait for another phase of the pod. -/
def withPhase (s : WaitSpec) (phase : PodPhase) : WaitSpec :=
  { s with options := { s.options with phase := some phase } }

/-- The same wait on another schedule. -/
def withBackoff (s : WaitSpec) (b : Backoff) : WaitSpec := { s with backoff := b }

/-- A name that must be given and must not be blank. -/
def requiredName (name : Option String) (what : String) : Except WaitError String :=
  match name with
  | none => .error (.invalidOption s!"{what} is required")
  | some n =>
    if Text.isBlank n then .error (.invalidOption s!"{what} must not be empty") else .ok n

def resolveDeployment (o : WaitOptions) : Except WaitError Condition := do
  if o.pod.isSome || o.phase.isSome then
    throw (.invalidOption "pod name and phase do not apply to a deployment wait")
  let name ← requiredName o.workload "target workload name"
  match o.replicas with
  | none => throw (.invalidOption "target replica count is required for a deployment wait")
  | some n =>
    if n.toInt < 0 then
      throw (.invalidOption s!"target replica count must not be negative, got {Text.intText n.toInt}")
    return .readyReplicas name n

def resolvePod (o : WaitOptions) : Except WaitError Condition := do
  if o.replicas.isSome || o.workload.isSome then
    throw (.invalidOption "workload name and replica count do not apply to a pod wait")
  let name ← requiredName o.pod "target pod name"
  return .podPhase name (o.phase.getD .running)

/-- The condition that a spec asks for, or what is wrong with it. -/
def resolve (s : WaitSpec) : Except WaitError Condition := do
  if !s.kind.isSupported then throw (.unsupported s.kind)
  s.backoff.validate
  if s.deadline.nanos = 0 then throw (.invalidOption "deadline must be greater than zero")
  match s.kind with
  | .deployment => resolveDeployment s.options
  | .pod => resolvePod s.options
  | kind => throw (.unsupported kind)

end WaitSpec
end Checkup
