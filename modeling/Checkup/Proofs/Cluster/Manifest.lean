import Checkup.Cluster.Manifest
import Checkup.Cluster.Probe
import Mathlib.Logic.Function.Basic

/-!
# What the manifests say

A manifest says everything that there is to a resource, although it leaves out what is empty. The
manifests of a check are written one by one; that they refer to each other as they must is said here of
the documents, not of the resources behind them.

Results:
* `manifest_injective`: different resources have different manifests.
* `omits_manifest`: what is empty is left out, and nothing else.
* `coherent_of_first`: the manifests of the first resources of a check fit together.
-/
namespace Checkup

/-! ## Looking into a document -/

namespace Json

/-- One step into a document: to a member of an object, or to each item of a list. -/
inductive Selector where
  | member (key : String)
  | each
  deriving DecidableEq, Repr

instance : Coe String Selector := ⟨.member⟩

/-- The values to which a path leads. -/
def Value.select : List Selector → Value → List Value
  | [], v => [v]
  | .member key :: path, v => (v.get? key).toList.flatMap (select path)
  | .each :: path, .array items => items.flatMap (select path)
  | .each :: _, _ => []

end Json

namespace Cluster

open Json

def OfKind (kind : String) (document : Value) : Prop := document.select ["kind"] = [.string kind]

def nameOf (document : Value) : List Value := document.select ["metadata", "name"]

/-- The labels by which a service finds pods, those by which a deployment does, and those that its pods
carry. -/
def serviceSelector (document : Value) : List Value := document.select ["spec", "selector"]
def matchLabels (document : Value) : List Value := document.select ["spec", "selector", "matchLabels"]
def podLabels (document : Value) : List Value :=
  document.select ["spec", "template", "metadata", "labels"]

def replicasOf (document : Value) : List Value := document.select ["spec", "replicas"]

/-- The secrets with which a deployment pulls its image. -/
def pullSecrets (document : Value) : List Value :=
  document.select ["spec", "template", "spec", "imagePullSecrets"]

def portsOf (document : Value) : List Value := document.select ["spec", "ports", .each, "port"]

/-- The hosts of the rules of an ingress, and the services to which these lead. -/
def ruleHosts (document : Value) : List Value := document.select ["spec", "rules", .each, "host"]
def backends (document : Value) : List Value :=
  document.select ["spec", "rules", .each, "http", "paths", .each, "backend", "service"]

def tlsOf (document : Value) : List Value := document.select ["spec", "tls"]
def tlsBlocks (document : Value) : List Value := document.select ["spec", "tls", .each]
def ingressClassOf (document : Value) : List Value := document.select ["spec", "ingressClassName"]

/-! ## What the parts say -/

theorem intJson_inj {m n : Int32} (h : intJson m = intJson n) : m = n := by
  unfold intJson at h
  refine Int32.toInt_inj.mp ?_
  split at h
  · rename_i m' hm
    split at h
    · rename_i n' hn
      cases h
      rw [hm, hn]
    · cases h
  · rename_i m' hm
    split at h
    · cases h
    · rename_i n' hn
      simp only [Value.number.injEq, Number.negative.injEq, Nat.add_right_cancel_iff] at h
      rw [hm, hn, h]

theorem manifestOf_inj {version version' kind kind' : String}
    {metadata metadata' : List (String × Value)} {spec spec' : Value} :
    manifestOf version kind metadata spec = manifestOf version' kind' metadata' spec' ↔
      version = version' ∧ kind = kind' ∧ metadata = metadata' ∧ spec = spec' := by
  simp [manifestOf]

theorem podSpec_inj {image image' : String} {secret secret' : Option String}
    (h : podSpec image secret = podSpec image' secret') : image = image' ∧ secret = secret' := by
  cases secret with
  | none => cases secret' <;> simp_all [podSpec, single]
  | some s => cases secret' <;> simp_all [podSpec, single]

theorem deploymentSpec_inj {image image' : String} {n n' : Int32} {secret secret' : Option String}
    (h : deploymentSpec image n secret = deploymentSpec image' n' secret') :
    image = image' ∧ n = n' ∧ secret = secret' := by
  simp only [deploymentSpec, Value.object.injEq, List.cons.injEq, Prod.mk.injEq, true_and,
    and_true] at h
  obtain ⟨hn, hpod⟩ := h
  obtain ⟨himage, hsecret⟩ := podSpec_inj hpod
  exact ⟨himage, intJson_inj hn, hsecret⟩

theorem serviceSpec_inj {port port' : Int32} (h : serviceSpec port = serviceSpec port') :
    port = port' := by
  simp only [serviceSpec, single, Value.object.injEq, Value.array.injEq, List.cons.injEq,
    Prod.mk.injEq, true_and, and_true] at h
  exact intJson_inj h

section
variable (rule : IngressRule) (service : String) (port : Int32)

theorem get?_ingressClassName : (ingressSpec rule service port).get? "ingressClassName" =
    if rule.ingressClass = "" then none else some (.string rule.ingressClass) := by
  unfold ingressSpec
  by_cases hclass : rule.ingressClass = ""
  · by_cases htls : rule.tlsSecret = "" <;> simp [hclass, htls, Value.get?, List.lookup_cons]
  · simp [hclass, Value.get?]

theorem get?_rules : (ingressSpec rule service port).get? "rules" =
    some (single [("host", .string rule.host), ("http", .object [("paths", single
      [("backend", backend service port), ("path", .string "/"), ("pathType", .string "Prefix")])])]) := by
  unfold ingressSpec
  by_cases hclass : rule.ingressClass = "" <;> simp [hclass, Value.get?, List.lookup_cons]

theorem get?_tls : (ingressSpec rule service port).get? "tls" =
    if rule.tlsSecret = "" then none else some (single [("hosts", .array [.string rule.host]),
      ("secretName", .string rule.tlsSecret)]) := by
  unfold ingressSpec
  by_cases hclass : rule.ingressClass = "" <;> by_cases htls : rule.tlsSecret = "" <;>
    simp [hclass, htls, Value.get?, List.lookup_cons]

end

/-- A text that is left out if it is empty is told by what is given. -/
theorem eq_of_leftOut {a b : String} {v w : Value}
    (h : (if a = "" then none else some v) = if b = "" then none else some w) (hvw : v = w → a = b) :
    a = b := by
  split at h
  · rename_i ha
    split at h
    · rename_i hb
      rw [ha, hb]
    · cases h
  · split at h
    · cases h
    · exact hvw (Option.some.inj h)

theorem ingressSpec_inj {rule rule' : IngressRule} {service service' : String} {port port' : Int32}
    (h : ingressSpec rule service port = ingressSpec rule' service' port') :
    rule = rule' ∧ service = service' ∧ port = port' := by
  have hclass := congrArg (·.get? "ingressClassName") h
  have hrules := congrArg (·.get? "rules") h
  have htls := congrArg (·.get? "tls") h
  simp only [get?_ingressClassName] at hclass
  simp only [get?_rules, single, backend, Option.some.injEq, Value.array.injEq, Value.object.injEq,
    Value.string.injEq, List.cons.injEq, Prod.mk.injEq, true_and, and_true] at hrules
  simp only [get?_tls] at htls
  obtain ⟨hhost, hservice, hport⟩ := hrules
  have hclass' : rule.ingressClass = rule'.ingressClass :=
    eq_of_leftOut hclass fun hv => by simpa using hv
  have htls' : rule.tlsSecret = rule'.tlsSecret := by
    refine eq_of_leftOut htls fun hv => ?_
    simp only [single, Value.array.injEq, List.cons.injEq, Value.object.injEq, Prod.mk.injEq,
      Value.string.injEq, true_and, and_true] at hv
    exact hv.2
  obtain ⟨host, secret, cls⟩ := rule
  obtain ⟨host', secret', cls'⟩ := rule'
  cases hhost
  cases hclass'
  cases htls'
  exact ⟨rfl, hservice, intJson_inj hport⟩

/-! ## The manifests -/

/-- Different resources have different manifests. -/
theorem manifest_injective : Function.Injective Resource.manifest := by
  intro r r' h
  cases r with
  | deployment name image n secret =>
    cases r' with
    | deployment name' image' n' secret' =>
      obtain ⟨-, -, hname, hspec⟩ := manifestOf_inj.mp h
      obtain ⟨himage, hn, hsecret⟩ := deploymentSpec_inj hspec
      have hname' : name = name' := by simpa using hname
      rw [hname', himage, hn, hsecret]
    | service => simp [Resource.manifest, manifestOf_inj] at h
    | ingress => simp [Resource.manifest, manifestOf_inj] at h
  | service name port =>
    cases r' with
    | service name' port' =>
      obtain ⟨-, -, hname, hspec⟩ := manifestOf_inj.mp h
      have hname' : name = name' := by simpa using hname
      rw [hname', serviceSpec_inj hspec]
    | deployment => simp [Resource.manifest, manifestOf_inj] at h
    | ingress => simp [Resource.manifest, manifestOf_inj] at h
  | ingress name rule service port =>
    cases r' with
    | ingress name' rule' service' port' =>
      obtain ⟨-, -, hname, hspec⟩ := manifestOf_inj.mp h
      obtain ⟨hrule, hservice, hport⟩ := ingressSpec_inj hspec
      have hname' : name = name' := by simpa using hname
      rw [hname', hrule, hservice, hport]
    | deployment => simp [Resource.manifest, manifestOf_inj] at h
    | service => simp [Resource.manifest, manifestOf_inj] at h

theorem spec_ingress (name : String) (rule : IngressRule) (service : String) (port : Int32)
    (path : List Selector) :
    (Resource.ingress name rule service port).manifest.select ("spec" :: path) =
      (ingressSpec rule service port).select path := by
  simp [Resource.manifest, manifestOf, Value.select, Value.get?, List.lookup_cons]

variable {name image service : String} {n port : Int32} {secret : Option String} {rule : IngressRule}

theorem tlsOf_ingress : tlsOf (Resource.ingress name rule service port).manifest =
    if rule.tlsSecret = "" then [] else [single [("hosts", .array [.string rule.host]),
      ("secretName", .string rule.tlsSecret)]] := by
  rw [tlsOf, spec_ingress, Value.select, get?_tls]
  split <;> simp [Value.select]

theorem ingressClassOf_ingress : ingressClassOf (Resource.ingress name rule service port).manifest =
    if rule.ingressClass = "" then [] else [.string rule.ingressClass] := by
  rw [ingressClassOf, spec_ingress, Value.select, get?_ingressClassName]
  split <;> simp [Value.select]

theorem pullSecrets_deployment : pullSecrets (Resource.deployment name image n secret).manifest =
    (secret.map fun s => single [("name", .string s)]).toList := by
  cases secret <;> rfl

theorem tlsBlocks_ingress : tlsBlocks (Resource.ingress name rule service port).manifest =
    if rule.tlsSecret = "" then [] else [.object [("hosts", .array [.string rule.host]),
      ("secretName", .string rule.tlsSecret)]] := by
  rw [tlsBlocks, spec_ingress, Value.select, get?_tls]
  split <;> simp [Value.select, single]

theorem ruleHosts_ingress :
    ruleHosts (Resource.ingress name rule service port).manifest = [.string rule.host] := by
  rw [ruleHosts, spec_ingress, Value.select, get?_rules]
  rfl

theorem backends_ingress : backends (Resource.ingress name rule service port).manifest =
    [.object [("name", .string service), ("port", .object [("number", intJson port)])]] := by
  rw [backends, spec_ingress, Value.select, get?_rules]
  rfl

/-! ## The documents of a check -/

/-- The documents refer to each other as they must. -/
structure Coherent (documents : List Value) : Prop where
  /-- There is one deployment at most, and one service. -/
  one : ∀ kind ∈ ["Deployment", "Service"], ∀ d ∈ documents, ∀ d' ∈ documents,
    OfKind kind d → OfKind kind d' → d = d'
  /-- The service finds the pods by the labels by which the deployment does, and which the pods carry. -/
  labels : ∀ d ∈ documents, ∀ s ∈ documents, OfKind "Deployment" d → OfKind "Service" s →
    ∃ labels, labels ≠ .object [] ∧ serviceSelector s = [labels] ∧ matchLabels d = [labels] ∧
      podLabels d = [labels]
  /-- An ingress leads to a service that is there, by its name, and to one of its ports. -/
  backends : ∀ i ∈ documents, OfKind "Ingress" i → backends i ≠ [] ∧ ∀ b ∈ backends i,
    ∃ s ∈ documents, OfKind "Service" s ∧ (∃ name, nameOf s = [name] ∧ b.select ["name"] = [name]) ∧
      ∃ port ∈ portsOf s, b.select ["port", "number"] = [port]
  /-- An ingress has one rule, and encrypts for the host of that if at all. -/
  tls : ∀ i ∈ documents, OfKind "Ingress" i → ∃ host, ruleHosts i = [host] ∧
    ∀ block ∈ tlsBlocks i, block.select ["hosts", .each] = [host]

/-- The wait is for one of the documents, which is a deployment, to have all its replicas. -/
def Awaits (documents : List Value) (w : WaitSpec) : Prop :=
  ∃ d ∈ documents, OfKind "Deployment" d ∧ ∃ name n, nameOf d = [.string name] ∧
    replicasOf d = [intJson n] ∧ w.kind = .deployment ∧ w.options.workload = some name ∧
    w.options.replicas = some n

/-- What a manifest calls the kind of a resource. -/
def kindOf : Resource → String
  | .deployment .. => "Deployment"
  | .service .. => "Service"
  | .ingress .. => "Ingress"

theorem ofKind_manifest (r : Resource) (kind : String) : OfKind kind r.manifest ↔ kind = kindOf r := by
  cases r <;> simp [OfKind, kindOf, Resource.manifest, manifestOf, Value.select, Value.get?, List.lookup_cons,
    eq_comm]

variable {s : Settings} {rs : List Resource}

/-- The first resources of a check: none, the deployment, or this and the service and some ingresses. -/
theorem first_resources (h : rs <+: s.resources) : rs = [] ∨ rs = [s.deployment] ∨
    ∃ is, rs = s.deployment :: Settings.service :: is ∧
      ∀ i ∈ is, ∃ rule index, i = Settings.ingress rule index := by
  cases rs with
  | nil => exact .inl rfl
  | cons d rest =>
    obtain ⟨hd, hrest⟩ := List.cons_prefix_cons.mp h
    subst hd
    cases rest with
    | nil => exact .inr (.inl rfl)
    | cons v is =>
      obtain ⟨hv, his⟩ := List.cons_prefix_cons.mp hrest
      subst hv
      refine .inr (.inr ⟨is, rfl, fun i hi => ?_⟩)
      obtain ⟨⟨rule, index⟩, -, hi'⟩ := List.mem_map.mp (his.subset hi)
      exact ⟨rule, index, hi'.symm⟩

theorem mem_of_first (h : rs <+: s.resources) {r : Resource} (hr : r ∈ rs) :
    s.deployment ∈ rs ∧ (r = s.deployment ∨ Settings.service ∈ rs ∧
      (r = Settings.service ∨ ∃ rule index, r = Settings.ingress rule index)) := by
  obtain hrs | hrs | ⟨is, hrs, his⟩ := first_resources h
  · subst hrs
    cases hr
  · subst hrs
    exact ⟨.head _, .inl (List.mem_singleton.mp hr)⟩
  · subst hrs
    refine ⟨.head _, ?_⟩
    obtain hr | hr := List.mem_cons.mp hr
    · exact .inl hr
    · obtain hr | hr := List.mem_cons.mp hr
      · exact .inr ⟨.tail _ (.head _), .inl hr⟩
      · exact .inr ⟨.tail _ (.head _), .inr (his r hr)⟩

/-- A document of a check tells by its kind what it is the manifest of. -/
theorem document_cases (h : rs <+: s.resources) {d : Value} (hd : d ∈ rs.map Resource.manifest) :
    (OfKind "Deployment" d → d = s.deployment.manifest) ∧
    (OfKind "Service" d → d = Settings.service.manifest) ∧
    (OfKind "Ingress" d → Settings.service ∈ rs ∧
      ∃ rule index, d = (Settings.ingress rule index).manifest) := by
  obtain ⟨r, hr, hd⟩ := List.mem_map.mp hd
  subst hd
  simp only [ofKind_manifest]
  obtain ⟨-, hr | ⟨hservice, hr | ⟨rule, index, hr⟩⟩⟩ := mem_of_first h hr <;> subst hr
  · simp [kindOf, Settings.deployment]
  · simp [kindOf, Settings.service]
  · simp only [kindOf, Settings.ingress]
    exact ⟨nofun, nofun, fun _ => ⟨hservice, rule, index, rfl⟩⟩

/-- The manifests of the first resources of a check fit together, however many there are. -/
theorem coherent_of_first (h : rs <+: s.resources) : Coherent (rs.map Resource.manifest) where
  one := by
    intro kind hkind d hd d' hd' hk hk'
    obtain hkind | hkind : kind = "Deployment" ∨ kind = "Service" := by simpa using hkind
    · subst hkind
      rw [(document_cases h hd).1 hk, (document_cases h hd').1 hk']
    · subst hkind
      rw [(document_cases h hd).2.1 hk, (document_cases h hd').2.1 hk']
  labels := by
    intro d hd v hv hdeployment hservice
    rw [(document_cases h hd).1 hdeployment, (document_cases h hv).2.1 hservice]
    exact ⟨appLabels, by simp [appLabels], rfl, rfl, rfl⟩
  backends := by
    intro i hi hingress
    obtain ⟨hservice, rule, index, hi⟩ := (document_cases h hi).2.2 hingress
    subst hi
    rw [Settings.ingress, backends_ingress]
    refine ⟨List.cons_ne_nil _ _, fun b hb => ?_⟩
    rw [List.mem_singleton.mp hb]
    refine ⟨_, List.mem_map_of_mem hservice, (ofKind_manifest _ _).mpr rfl, ⟨_, rfl, rfl⟩, ?_⟩
    exact ⟨intJson servicePort, .head _, rfl⟩
  tls := by
    intro i hi hingress
    obtain ⟨-, rule, index, hi⟩ := (document_cases h hi).2.2 hingress
    subst hi
    rw [Settings.ingress, ruleHosts_ingress, tlsBlocks_ingress]
    refine ⟨_, rfl, fun block hblock => ?_⟩
    split at hblock
    · cases hblock
    · rw [List.mem_singleton.mp hblock]
      rfl

/-- The wait of a check is for the deployment that it creates. -/
theorem awaits_of_first (h : rs <+: s.resources) (hrs : rs ≠ []) :
    Awaits (rs.map Resource.manifest) s.rollout := by
  obtain ⟨r, hr⟩ := List.exists_mem_of_ne_nil rs hrs
  refine ⟨_, List.mem_map_of_mem (mem_of_first h hr).1, (ofKind_manifest _ _).mpr rfl, ?_⟩
  exact ⟨deploymentName, replicas, rfl, rfl, rfl, rfl, rfl⟩

end Cluster
end Checkup
