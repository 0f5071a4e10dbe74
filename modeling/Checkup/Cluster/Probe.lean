import Checkup.Cluster.Resource
import Checkup.Probe
import Checkup.Wait.Waiter

/-!
# The check of a cluster

The check deploys a small web server, puts a service and the ingresses in front of it, waits until it is
ready and connects to every host. Each resource is put on a stack before the attempt to create it, since
even one that fails may have got halfway, and whatever stands on the stack is deleted at the end, the last
one first. Cancellation cuts the waiting short, and no deletion.

**Names.** `check`, `create`, `provision`, `testConnection` and `tearDown` are `run_cancellable`,
`create`, `provision`, `test_connection` and `tear_down` of the program's `KubernetesProbe`.
-/
namespace Checkup.Cluster

/-- What to deploy, and how long to wait for it. -/
structure Settings where
  image : String
  pullSecret : Option String
  ingresses : List IngressRule
  rolloutTimeout : Span
  reachAttempts : Nat
  reachInterval : Span
  deriving DecidableEq, Repr

namespace Settings

/-- The usual limits for a deployment of an image. -/
def ofImage (image : String) : Settings :=
  ⟨image, none, [], Span.ofSeconds 120, 12, Span.ofMillis 250⟩

end Settings

def key : String := "kubernetes"
def name : String := "Kubernetes"

def deploymentName : String := "smoketest"
def serviceName : String := "smoketest-svc"
def replicas : Int32 := 2
def servicePort : Int32 := 80

/-- The name of the ingress for the rule at a position. -/
def ingressName (index : Nat) : String := s!"smoketest-ingress-{Text.natText index}"

namespace Settings

def deployment (s : Settings) : Resource :=
  .deployment deploymentName s.image replicas (s.pullSecret.filter (!·.isEmpty))

def service : Resource := .service serviceName servicePort

def ingress (rule : IngressRule) (index : Nat) : Resource :=
  .ingress (ingressName index) rule serviceName servicePort

/-- All resources, in the order in which they are created. -/
def resources (s : Settings) : List Resource :=
  s.deployment :: service :: s.ingresses.zipIdx.map fun (rule, index) => ingress rule index

def rollout (s : Settings) : WaitSpec := .deployment deploymentName replicas s.rolloutTimeout

end Settings

/-- A call to a cluster, or to a host that it serves. -/
inductive Call where
  | create (r : Resource)
  | delete (r : Resource)
  | fetch (f : Fetch)
  | get (url : String)
  deriving DecidableEq, Repr

/-- How a cluster and its hosts reply. The status of a host may depend on what was requested before. -/
structure Service where
  create : Resource → Reply Unit
  delete : Resource → Reply Unit
  states : StateSource
  status : (requested : List String) → (url : String) → Reply UInt16

/-! ## The connection test -/

/-- The fault of a test that was cancelled after a number of requests. -/
def testCancelled (completed : Nat) : Fault :=
  .message s!"Connection test cancelled after {Text.natText completed} attempts"

/-- The fault of a test whose requests all went wrong. -/
def testFailed (url : String) (attempts : Nat) (last : String) : Fault :=
  .message (s!"Failed to reach test deployment at {url} after {Text.natText attempts} attempts, " ++
    s!"last result: {last}")

/-- What is said of a request that went wrong. -/
def resultText : Except Fault UInt16 → String
  | .ok code => s!"status code {Text.natText code.toNat}"
  | .error e => e.text

/-- The outcome of a test, and all requests up to its end. -/
abbrev Tested : Type := Except Fault Unit × List String

/-- The requests that are left of a test, after some that were completed. -/
def requestsFrom (svc : Service) (s : Settings) (url : String) :
    (left completed : Nat) → (last : String) → (requested : List String) → Timed Call Tested
  | 0, _, last, requested => return (.error (testFailed url s.reachAttempts last), requested)
  | left + 1, completed, _, requested => do
    let reply := svc.status requested url
    let requested := requested ++ [url]
    match ← Timed.unlessCancelled (Timed.call (.get url) reply) with
    | none => return (.error (testCancelled completed), requested)
    | some (.ok 200) => return (.ok (), requested)
    | some result =>
      if left = 0 then
        return (.error (testFailed url s.reachAttempts (resultText result)), requested)
      else
        match ← Timed.unlessCancelled (Timed.sleep s.reachInterval.ticks) with
        | none => return (.error (testCancelled (completed + 1)), requested)
        | some _ => requestsFrom svc s url left (completed + 1) (resultText result) requested

def urlOf (host : String) : String := s!"https://{host}"

/-- Requests a host until it answers with success, a number of times at most. -/
def testConnection (svc : Service) (s : Settings) (host : String) (requested : List String) :
    Timed Call Tested :=
  requestsFrom svc s (urlOf host) s.reachAttempts 0 "no attempt made" requested

/-! ## The check -/

/-- Where a check stands: the steps so far, and the resources to delete at its end, the last one first. -/
structure Progress where
  log : StepLog
  teardown : List Resource

abbrev Work : Type → Type := StateT Progress (Timed Call)

/-- Does a step and records its outcome. -/
def step {α : Type} (label : String) (x : Timed Call (Except Fault α)) : Work (Option α) := fun s => do
  let (value, log) := s.log.settle label (← x)
  return (value, { s with log := log })

/-- Creates a resource, and says whether that succeeded. It is put down for deletion before the attempt. -/
def create (svc : Service) (r : Resource) : Work Bool := do
  modify fun s => { s with teardown := r :: s.teardown }
  return (← step s!"Create {r.text}" (Timed.call (.create r) (svc.create r))).isSome

/-- Creates resources one after another, up to the first that fails, and says whether none did. -/
def createAll (svc : Service) : List Resource → Work Bool
  | [] => return true
  | r :: rest => do if ← create svc r then createAll svc rest else return false

/-- Creates everything and waits until the deployment is ready, and says whether that succeeded. -/
def provision (svc : Service) (s : Settings) (random : Nat → Nat) : Work Bool := do
  if ← createAll svc s.resources then
    return (← step "Wait for deployment" do
      let outcome ← (s.rollout.wait svc.states random).mapCalls Call.fetch
      return outcome.mapError fun e => Fault.message e.message).isSome
  else return false

/-- Tests the hosts one after another, whatever becomes of each, until the token fires. -/
def testHosts (svc : Service) (s : Settings) :
    List IngressRule → (requested : List String) → Work Unit
  | [], _ => return ()
  | rule :: rest, requested => do
    if ← StateT.lift Timed.isCancelled then return ()
    else
      let tested ← StateT.lift (testConnection svc s rule.host requested)
      let _ ← step s!"Test connection {rule.host}" (pure tested.1)
      testHosts svc s rest tested.2

/-- Deletes resources in their order, whatever becomes of each. -/
def tearDown (svc : Service) : List Resource → Work Unit
  | [] => return ()
  | r :: rest => do
    let _ ← step s!"Delete {r.text}" (Timed.call (.delete r) (svc.delete r))
    tearDown svc rest

def check (svc : Service) (s : Settings) (random : Nat → Nat) : Work Unit := do
  if ← provision svc s random then testHosts svc s s.ingresses []
  tearDown svc (← get).teardown

/-- The probe of a cluster; the random numbers are for the jitter of the wait. -/
def probe (s : Settings) (svc : Service) (random : Nat → Nat) : Probe Call where
  key := key
  name := name
  run := do
    let (_, progress) ← (check svc s random).run ⟨.empty, []⟩
    return progress.log.finish key name

end Checkup.Cluster
