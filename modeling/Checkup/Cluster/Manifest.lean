import Checkup.Cluster.Resource
import Checkup.Json.Printer

/-!
# Manifests

The manifest of a resource is the JSON object that describes it to a cluster. A manifest leaves out what
is empty: a pull secret that is not given, a TLS secret and an ingress class without a name.

**Names.** `Resource.manifest` is the program's `manifest`.
-/
namespace Checkup.Cluster

open Json

def intJson (n : Int32) : Value :=
  match n.toInt with
  | .ofNat n => .number (.natural n)
  | .negSucc n => .number (.negative (n + 1))

/-- The label by which the service finds the pods. -/
def appLabels : Value := .object [("app", .string "smoketest")]

/-- A list of one object. -/
def single (members : List (String × Value)) : Value := .array [.object members]

def podSpec (image : String) (pullSecret : Option String) : Value :=
  let containers := single [("image", .string image), ("name", .string "webserver"),
    ("ports", single [("containerPort", intJson 80)])]
  .object (("containers", containers) :: match pullSecret with
    | some secret => [("imagePullSecrets", single [("name", .string secret)])]
    | none => [])

/-- How long a pod must be ready, in seconds, until it counts as available. -/
def minReadySeconds : Int32 := 7

def deploymentSpec (image : String) (replicas : Int32) (pullSecret : Option String) : Value :=
  .object [
    ("minReadySeconds", intJson minReadySeconds),
    ("replicas", intJson replicas),
    ("selector", .object [("matchLabels", appLabels)]),
    ("template", .object [
      ("metadata", .object [("labels", appLabels)]),
      ("spec", podSpec image pullSecret)])]

def serviceSpec (port : Int32) : Value :=
  .object [
    ("ports", single [("name", .string "http"), ("port", intJson port), ("protocol", .string "TCP")]),
    ("selector", appLabels),
    ("type", .string "ClusterIP")]

/-- Where an ingress sends what it gets. -/
def backend (service : String) (port : Int32) : Value :=
  .object [("service", .object [("name", .string service),
    ("port", .object [("number", intJson port)])])]

def ingressSpec (rule : IngressRule) (service : String) (port : Int32) : Value :=
  let paths := single [("backend", backend service port), ("path", .string "/"),
    ("pathType", .string "Prefix")]
  let rules := single [("host", .string rule.host), ("http", .object [("paths", paths)])]
  let tls := single [("hosts", .array [.string rule.host]), ("secretName", .string rule.tlsSecret)]
  .object (
    (if rule.ingressClass.isEmpty then [] else [("ingressClassName", .string rule.ingressClass)])
    ++ [("rules", rules)]
    ++ if rule.tlsSecret.isEmpty then [] else [("tls", tls)])

def manifestOf (apiVersion kind : String) (metadata : List (String × Value)) (spec : Value) : Value :=
  .object [("apiVersion", .string apiVersion), ("kind", .string kind), ("metadata", .object metadata),
    ("spec", spec)]

def Resource.manifest : Resource → Value
  | .deployment name image replicas pullSecret =>
    manifestOf "apps/v1" "Deployment" [("labels", appLabels), ("name", .string name)]
      (deploymentSpec image replicas pullSecret)
  | .service name port =>
    manifestOf "v1" "Service" [("name", .string name)] (serviceSpec port)
  | .ingress name rule target port =>
    manifestOf "networking.k8s.io/v1" "Ingress" [("name", .string name)] (ingressSpec rule target port)

end Checkup.Cluster
