import Checkup.CommandLine.Flags
import Checkup.Numeric.Power

/-!
# Options

The options of the program as they are given, by flags or by environment variables, before they are
checked against each other.

**Names.** The options are the program's `Settings`.
-/
namespace Checkup

open CommandLine

inductive LogFormat where
  | json
  | pretty
  deriving DecidableEq, Repr

structure Options where
  dashboardEndpoint : Option String
  kubeconfig : Option String
  clusterNamespace : String
  testImage : Option String
  pullSecret : Option String
  ingressHosts : List String
  ingressSecrets : List String
  ingressClasses : List String
  rolloutSeconds : Nat
  siteType : Option String
  site : Option String
  shareFile : Option String
  redirectUrl : Option String
  probeSeconds : Nat
  services : Option String
  logFormat : LogFormat
  deriving DecidableEq, Repr

namespace Options

def maxSeconds : Nat := 2 ^ (64 : Nat) - 1

def flags : List Flag := [
  .single "dashboard-endpoint" .anyText "DASHBOARD_DATA_ENDPOINT",
  .single "kubeconfig" .someText "KUBECONFIG_PATH",
  .single "k8s-namespace" .anyText "K8S_NAMESPACE",
  .single "k8s-test-image" .anyText "K8S_TESTIMAGE",
  .single "k8s-pull-secret" .anyText "K8S_IMG_PULL_SECRET",
  .list "k8s-ingress-hosts" "K8S_ING_HOSTS",
  .list "k8s-ingress-tls" "K8S_ING_HOSTS_TLS",
  .list "k8s-ingress-class" "K8S_ING_HOSTS_CLASS",
  .single "k8s-rollout-timeout-secs" (.number maxSeconds) "K8S_ROLLOUT_TIMEOUT_SECS",
  .single "site-type" .anyText "TYPE",
  .single "site" .anyText "SITE",
  .single "smb-file" .anyText "SMB_FILE",
  .single "uaa-redirect-url" .anyText "UAA_RES_URL",
  .single "probe-timeout-secs" (.number maxSeconds) "PROBE_TIMEOUT_SECS",
  .single "vcap-services" .anyText "VCAP_SERVICES",
  .single "log-format" (.choice ["json", "pretty"]) "LOG_FORMAT"]

/-- The number that was given for a flag, or a number to take in its absence. -/
def seconds (r : Reading) (name : String) (absent : Nat) : Nat :=
  ((r.value? name).bind (Text.readBounded? maxSeconds)).getD absent

/-- The options that were read. -/
def ofReading (r : Reading) : Options where
  dashboardEndpoint := r.value? "dashboard-endpoint"
  kubeconfig := r.value? "kubeconfig"
  clusterNamespace := (r.value? "k8s-namespace").getD "smoketest"
  testImage := r.value? "k8s-test-image"
  pullSecret := r.value? "k8s-pull-secret"
  ingressHosts := r.values "k8s-ingress-hosts"
  ingressSecrets := r.values "k8s-ingress-tls"
  ingressClasses := r.values "k8s-ingress-class"
  rolloutSeconds := seconds r "k8s-rollout-timeout-secs" 120
  siteType := r.value? "site-type"
  site := r.value? "site"
  shareFile := r.value? "smb-file"
  redirectUrl := r.value? "uaa-redirect-url"
  probeSeconds := seconds r "probe-timeout-secs" 300
  services := r.value? "vcap-services"
  logFormat := if r.value? "log-format" = some "pretty" then .pretty else .json

/-- The options of a command line that holds flags alone. -/
def read (args : List String) (environment : String → Option String) : Except UsageError Options := do
  let grammar : Grammar := ⟨flags, false, []⟩
  let (reading, _) ← Reading.read grammar args .start
  return ofReading (← reading.complete grammar environment)

end Options
end Checkup
