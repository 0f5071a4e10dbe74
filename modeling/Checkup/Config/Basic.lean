import Checkup.Binding.Document
import Checkup.Cluster.Probe
import Checkup.Config.Options

/-!
# The configuration

The options after they have been checked: texts are trimmed and blank ones count as absent, the bindings
are read, and the three lists of ingresses are paired position by position. A list with nothing but blank
entries counts as absent too; otherwise its blank entries keep their positions.

**Names.** `ofOptions`, `nonBlank` and `effective` are the program's `try_from`, `non_empty` and `list`.
-/
namespace Checkup

inductive ConfigError where
  | ingress (m : Cluster.IngressMismatch)
  | bindings (e : BindingError)
  | missingTestImage
  | invalidEndpoint (endpoint : String)
  deriving DecidableEq, Repr

def ConfigError.message : ConfigError → String
  | ingress m => m.message
  | bindings e => e.message
  | missingTestImage => "KUBECONFIG_PATH is set but K8S_TESTIMAGE is not"
  | invalidEndpoint endpoint =>
    s!"Invalid dashboard endpoint '{endpoint}': must be an http(s) URL"

structure ClusterConfig where
  kubeconfig : String
  clusterNamespace : String
  settings : Cluster.Settings
  deriving DecidableEq, Repr

structure Config where
  dashboardEndpoint : Option String
  bindings : ServiceBindings
  cluster : Option ClusterConfig
  siteType : Option String
  site : Option String
  shareFile : Option String
  redirectUrl : Option String
  probeTimeout : Option Span
  deriving Repr

namespace Config

/-- A text without blanks at its ends, unless nothing is left of it. -/
def nonBlank (s : Option String) : Option String := s.bind Text.nonBlank?

/-- A list with its entries trimmed, or nothing if all of them are blank. -/
def effective (entries : List String) : List String :=
  let trimmed := entries.map Text.trim
  if trimmed.all (·.isEmpty) then [] else trimmed

def isWebAddress (endpoint : String) : Bool :=
  "http://".toList.isPrefixOf endpoint.toList || "https://".toList.isPrefixOf endpoint.toList

def endpointOf (o : Options) : Except ConfigError (Option String) :=
  match nonBlank o.dashboardEndpoint with
  | none => .ok none
  | some e => if isWebAddress e then .ok (some e) else .error (.invalidEndpoint e)

def bindingsOf (o : Options) : Except ConfigError ServiceBindings :=
  match nonBlank o.services with
  | none => .ok .empty
  | some document => (ServiceBindings.parse document).mapError .bindings

def rulesOf (o : Options) : Except ConfigError (List Cluster.IngressRule) :=
  (Cluster.IngressRule.ofLists (effective o.ingressHosts) (effective o.ingressSecrets)
    (effective o.ingressClasses)).mapError .ingress

/-- The cluster, if a path to its access data is given. -/
def clusterOf (o : Options) (rules : List Cluster.IngressRule) :
    Except ConfigError (Option ClusterConfig) :=
  match o.kubeconfig.filter (!·.isEmpty) with
  | none => .ok none
  | some path =>
    match nonBlank o.testImage with
    | none => .error .missingTestImage
    | some image =>
      let settings := { Cluster.Settings.ofImage image with
        pullSecret := nonBlank o.pullSecret
        ingresses := rules
        rolloutTimeout := Span.ofSeconds o.rolloutSeconds }
      .ok (some ⟨path, o.clusterNamespace, settings⟩)

/-- The configuration that options make; of several errors the first is reported. -/
def ofOptions (o : Options) : Except ConfigError Config := do
  let endpoint ← endpointOf o
  let bindings ← bindingsOf o
  let rules ← rulesOf o
  let cluster ← clusterOf o rules
  return {
    dashboardEndpoint := endpoint
    bindings := bindings
    cluster := cluster
    siteType := nonBlank o.siteType
    site := nonBlank o.site
    shareFile := nonBlank o.shareFile
    redirectUrl := nonBlank o.redirectUrl
    probeTimeout := if o.probeSeconds = 0 then none else some (Span.ofSeconds o.probeSeconds) }

end Config
end Checkup
