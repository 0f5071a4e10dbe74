import Checkup.Cluster.Credential
import Checkup.Cluster.Manifest
import Checkup.Cluster.Probe
import Checkup.Http.Exchange
import Checkup.Numeric.Power

/-!
# A client of a cluster

The calls to a cluster as requests to its service, within one namespace: a resource is created from its
manifest, deleted together with what it owns, and the states of deployments and pods are read from their
status. A response with a status of 400 or more is an error, and so is a body of another shape.

**Names.** The client is the program's `KubeCluster`; `createRequest` and `deleteRequest` stand for its
`create` and `delete`, and `availableReplicas?` and `podState?` for `workload_state` and `pod_state`.
-/
namespace Checkup.Cluster

open Json Http

structure Access where
  server : String
  credential : Credential
  clusterNamespace : String
  deriving DecidableEq, Repr

namespace Client

/-- The kinds of objects, by the path of their collection and what they call themselves. -/
structure Kind where
  group : String
  plural : String
  apiVersion : String
  kind : String

def deployments : Kind := ⟨"/apis/apps/v1", "deployments", "apps/v1", "Deployment"⟩
def services : Kind := ⟨"/api/v1", "services", "v1", "Service"⟩
def pods : Kind := ⟨"/api/v1", "pods", "v1", "Pod"⟩
def ingresses : Kind :=
  ⟨"/apis/networking.k8s.io/v1", "ingresses", "networking.k8s.io/v1", "Ingress"⟩

def kindOf : Resource → Kind
  | .deployment .. => deployments
  | .service .. => services
  | .ingress .. => ingresses

/-- The path of the objects of a kind. -/
def collection (a : Access) (k : Kind) : String :=
  s!"{k.group}/namespaces/{a.clusterNamespace}/{k.plural}"

def requestTo (a : Access) (method : Method) (path : String) : Except Fault Request := do
  let r ← Request.ofText method (Text.withoutTrailing '/' a.server ++ path)
  match a.credential with
  | .nothing => return r
  | .token token => r.withToken token
  | .account name password => return r.withAccount name password

/-! ## What a service answers -/

/-- A member of an object that may be absent or null. -/
def optionalMember? {α : Type} (v : Value) (key : String) (read : Value → Option α) :
    Option (Option α) :=
  match v.get? key with
  | none => some none
  | some .null => some none
  | some m => (read m).map some

def textOf? : Value → Option String
  | .string s => some s
  | _ => none

def objectOf? : Value → Option Value
  | .object ms => some (.object ms)
  | _ => none

def arrayOf? : Value → Option (List Value)
  | .array vs => some vs
  | _ => none

def int32Of? : Value → Option Int32
  | .number (.natural n) => if n < 2 ^ (31 : Nat) then some (Int32.ofNat n) else none
  | .number (.negative n) => if n ≤ 2 ^ (31 : Nat) then some (Int32.ofInt (-n)) else none
  | _ => none

/-- An object that calls itself by the names of its kind, if it does at all, and has metadata. -/
def isObject (k : Kind) (v : Value) : Bool :=
  let agrees (key name : String) : Bool := match v.get? key with
    | none => true
    | some m => textOf? m == some name
  agrees "apiVersion" k.apiVersion && agrees "kind" k.kind &&
    ((v.get? "metadata").bind objectOf?).isSome

/-- The value of a response that tells of success. -/
def readValue (r : Response) : Except Fault Value :=
  if 400 ≤ r.status then .error (.message s!"status code {Text.natText r.status.toNat}")
  else
    match (Text.Utf8.decode? r.body).bind fun cs => Value.parse? (String.ofList cs) with
    | some v => .ok v
    | none => .error (.message "error decoding response body")

/-- An object of a kind. -/
def readObject (k : Kind) (r : Response) : Except Fault Value := do
  let v ← readValue r
  if isObject k v then return v else throw (.message "error decoding response body")

/-- The answer to a deletion is the object or a status. -/
def readDeleted (k : Kind) (r : Response) : Except Fault Unit := do
  let v ← readValue r
  if (v.get? "kind").bind textOf? == some "Status" || isObject k v then return ()
  else throw (.message "error decoding response body")

/-- The number of available replicas in the status of a deployment. -/
def availableReplicas? (v : Value) : Option Int32 := do
  let status := (← optionalMember? v "status" objectOf?).getD .null
  return (← optionalMember? status "availableReplicas" int32Of?).getD 0

/-- Why the first container of a pod ended. -/
def terminatedReason? (status : Value) : Option (Option String) := do
  let containers := (← optionalMember? status "containerStatuses" arrayOf?).getD []
  let state := (← optionalMember? (containers.head?.getD .null) "state" objectOf?).getD .null
  let terminated := (← optionalMember? state "terminated" objectOf?).getD .null
  optionalMember? terminated "reason" textOf?

def podState? (v : Value) : Option PodState := do
  let status := (← optionalMember? v "status" objectOf?).getD .null
  return ⟨← optionalMember? status "phase" textOf?, ← terminatedReason? status⟩

/-- What is read from an object, if it has the right shape. -/
def readFrom {α : Type} (k : Kind) (read : Value → Option α) (r : Response) : Except Fault α := do
  match read (← readObject k r) with
  | some x => return x
  | none => throw (.message "error decoding response body")

/-! ## Calls -/

def createRequest (a : Access) (r : Resource) : Except Fault Request := do
  return (← requestTo a .post (collection a (kindOf r))).withJson r.manifest

/-- The request that deletes a resource, after what it owns. -/
def deleteRequest (a : Access) (r : Resource) : Except Fault Request := do
  let request ← requestTo a .delete s!"{collection a (kindOf r)}/{r.name}"
  return request.withJson (.object [("propagationPolicy", .string "Foreground")])

def getRequest (a : Access) (k : Kind) (name : String) : Except Fault Request :=
  requestTo a .get s!"{collection a k}/{name}"

/-- The reply to a call: what comes of its request. -/
def reply {α : Type} (t : Transport) (request : Except Fault Request)
    (read : Response → Except Fault α) : Reply α :=
  match request with
  | .error e => .answers 0 (.error e)
  | .ok r =>
    match t r with
    | .answers d result => .answers d (result.bind read)
    | .panics d p => .panics d p
    | .hangs => .hangs

/-- The replies of a cluster, and of hosts that are reached otherwise. -/
def service (t : Transport) (a : Access)
    (status : (requested : List String) → (url : String) → Reply UInt16) : Service where
  create r := reply t (createRequest a r) fun response =>
    (readObject (kindOf r) response).map fun _ => ()
  delete r := reply t (deleteRequest a r) (readDeleted (kindOf r))
  states := {
    readyReplicas := fun name _ =>
      reply t (getRequest a deployments name) (readFrom deployments availableReplicas?)
    podState := fun name _ => reply t (getRequest a pods name) (readFrom pods podState?) }
  status := status

end Client
end Checkup.Cluster
