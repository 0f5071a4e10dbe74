import Checkup.Text.Decimal

/-!
# Cluster resources

The resources that a check of a cluster creates: a deployment, a service in front of it, and one ingress
for each rule. The rules are configured as three lists, and the entries at one position make one rule, so
the lists must have the same length.

**Names.** `IngressRule.ofLists` is the program's `zip`.
-/
namespace Checkup.Cluster

/-- A host under which the deployment is reached, its TLS secret and its ingress class. -/
structure IngressRule where
  host : String
  tlsSecret : String
  ingressClass : String
  deriving DecidableEq, Repr

/-- The lengths of three lists that do not make rules. -/
structure IngressMismatch where
  hosts : Nat
  tlsSecrets : Nat
  classes : Nat
  deriving DecidableEq, Repr

def IngressMismatch.message (m : IngressMismatch) : String :=
  s!"Ingress configuration mismatch: {Text.natText m.hosts} hosts, " ++
    s!"{Text.natText m.tlsSecrets} TLS secrets, {Text.natText m.classes} classes"

/-- The rules that three lists of the same length make. -/
def IngressRule.ofLists (hosts tlsSecrets classes : List String) :
    Except IngressMismatch (List IngressRule) :=
  if hosts.length = tlsSecrets.length ∧ hosts.length = classes.length then
    .ok ((hosts.zip (tlsSecrets.zip classes)).map fun r => ⟨r.1, r.2.1, r.2.2⟩)
  else .error ⟨hosts.length, tlsSecrets.length, classes.length⟩

inductive Resource where
  | deployment (name image : String) (replicas : Int32) (pullSecret : Option String)
  | service (name : String) (port : Int32)
  | ingress (name : String) (rule : IngressRule) (service : String) (port : Int32)
  deriving DecidableEq, Repr

namespace Resource

def name : Resource → String
  | deployment name _ _ _ => name
  | service name _ => name
  | ingress name _ _ _ => name

/-- What a step calls the resource. -/
def text : Resource → String
  | deployment .. => "deployment"
  | service .. => "service"
  | ingress _ rule _ _ => s!"ingress {rule.host}"

end Resource
end Checkup.Cluster
