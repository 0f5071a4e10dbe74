import Checkup.Config.Basic
import Checkup.Proofs.Guards
import Checkup.Proofs.Text.Blank

/-!
# Which options are accepted

The options are looked at in a fixed order: the endpoint of the dashboard, the bindings, the lengths of the
three lists of ingresses, and the test image. The first thing that is wrong is reported. What can be wrong is
said here in terms of the options as they were given, and each part of the check is shown to find exactly
that.

Results:
* `nonBlank_eq_some` and `effective_eq`: what trimming leaves of a text and of a list.
* `endpointOf_eq_error`, `bindingsOf_eq_error`, `rulesOf_eq_error` and `clusterOf_eq_error`: what each part
  of the check finds.
* `rulesOf_paired`: the rules are made position by position.
* `ofOptions_eq_error`: which error is reported, if any.
* `ofOptions_validated`: all of this for the whole check, as the structure `Validated`.
-/
namespace Checkup.Config

variable {o : Options}

/-! ## What can be wrong -/

/-- The setting gives a text: one that is not blank, without the blanks at its ends. -/
def Gives (setting : Option String) (text : String) : Prop :=
  ∃ raw, setting = some raw ∧ Text.trim raw = text ∧ text ≠ ""

/-- The text starts like an address of the web. -/
def StartsWeb (text : String) : Prop :=
  ∃ rest, text = "http://" ++ rest ∨ text = "https://" ++ rest

/-- What is left of the entries of a list: each of them without the blanks at its ends, or nothing if all of
them are blank. -/
def kept (entries : List String) : List String :=
  if ∀ e ∈ entries, Text.trim e = "" then [] else entries.map Text.trim

/-- The endpoint that is given is no address of the web. -/
def BadEndpoint (o : Options) (endpoint : String) : Prop :=
  Gives o.dashboardEndpoint endpoint ∧ ¬ StartsWeb endpoint

/-- The document that is given lists no bindings. -/
def BadServices (o : Options) (e : BindingError) : Prop :=
  ∃ document, Gives o.services document ∧ ServiceBindings.parse document = .error e

/-- The three lists do not have the same length, and these are their lengths. -/
def Mismatched (o : Options) (m : Cluster.IngressMismatch) : Prop :=
  m = ⟨(kept o.ingressHosts).length, (kept o.ingressSecrets).length, (kept o.ingressClasses).length⟩ ∧
    ¬ (m.hosts = m.tlsSecrets ∧ m.hosts = m.classes)

/-- The path of the access data of a cluster. -/
def HasCluster (o : Options) (path : String) : Prop := o.kubeconfig = some path ∧ path ≠ ""

/-- There is a cluster, and no image to test it with. -/
def LacksImage (o : Options) : Prop :=
  (∃ path, HasCluster o path) ∧ ∀ image, ¬ Gives o.testImage image

/-- There is a rule for each host that is left, and the rule at a position is made of the entries that stand
there in the lists as they were given. -/
structure Paired (o : Options) (rules : List Cluster.IngressRule) : Prop where
  length : rules.length = (kept o.ingressHosts).length
  entries : ∀ (i : Nat) (rule : Cluster.IngressRule), rules[i]? = some rule →
    ∃ host secret ingressClass, o.ingressHosts[i]? = some host ∧
      o.ingressSecrets[i]? = some secret ∧ o.ingressClasses[i]? = some ingressClass ∧
      rule = ⟨Text.trim host, Text.trim secret, Text.trim ingressClass⟩

/-! ## Trimming -/

theorem nonBlank_eq_some {setting : Option String} {text : String} :
    nonBlank setting = some text ↔ Gives setting text := by
  unfold nonBlank Gives Text.nonBlank?
  cases setting with
  | none => simp
  | some raw =>
    by_cases h : Text.isBlank raw = true
    · have hempty := Text.trim_eq_empty.mpr h
      simp only [Option.bind_some, h, if_true, reduceCtorEq, false_iff]
      rintro ⟨raw', hraw, rfl, hne⟩
      cases hraw
      exact hne hempty
    · have hne : Text.trim raw ≠ "" := fun he => h (Text.trim_eq_empty.mp he)
      simp only [Option.bind_some, h, Bool.false_eq_true, if_false, Option.some.injEq]
      constructor
      · intro ht
        exact ⟨raw, rfl, ht, ht ▸ hne⟩
      · rintro ⟨raw', hraw, ht, -⟩
        cases hraw
        exact ht

theorem nonBlank_eq_none {setting : Option String} :
    nonBlank setting = none ↔ ∀ text, ¬ Gives setting text := by
  rw [Option.eq_none_iff_forall_ne_some]
  exact forall_congr' fun text => not_congr nonBlank_eq_some

theorem Gives.unique {setting : Option String} {a b : String} (ha : Gives setting a)
    (hb : Gives setting b) : a = b := by
  rw [← nonBlank_eq_some] at ha hb
  rw [ha] at hb
  exact Option.some.inj hb

theorem effective_eq (entries : List String) : effective entries = kept entries := by
  unfold effective kept
  simp only [List.all_eq_true, List.mem_map, forall_exists_index, and_imp,
    forall_apply_eq_imp_iff₂, String.isEmpty_iff]

/-- Entries that are blank keep their places among others. -/
example : kept [" a ", " ", "b"] = ["a", "", "b"] := by decide +kernel

theorem getElem?_kept {entries : List String} {i : Nat} {t : String} (h : (kept entries)[i]? = some t) :
    ∃ e, entries[i]? = some e ∧ t = Text.trim e := by
  unfold kept at h
  split at h
  · simp at h
  · rw [List.getElem?_map, Option.map_eq_some_iff] at h
    obtain ⟨e, he, rfl⟩ := h
    exact ⟨e, he, rfl⟩

/-! ## The parts of the check -/

theorem prefix_iff {start text : String} :
    start.toList.isPrefixOf text.toList = true ↔ ∃ rest, text = start ++ rest := by
  rw [List.isPrefixOf_iff_prefix]
  constructor
  · rintro ⟨rest, h⟩
    refine ⟨String.ofList rest, ?_⟩
    rw [← String.toList_inj, String.toList_append, String.toList_ofList, h]
  · rintro ⟨rest, rfl⟩
    rw [String.toList_append]
    exact List.prefix_append _ _

theorem isWebAddress_iff {text : String} : isWebAddress text = true ↔ StartsWeb text := by
  unfold isWebAddress StartsWeb
  rw [Bool.or_eq_true, prefix_iff, prefix_iff, exists_or]

theorem endpointOf_eq_error {e : ConfigError} :
    endpointOf o = .error e ↔ ∃ endpoint, BadEndpoint o endpoint ∧ e = .invalidEndpoint endpoint := by
  unfold endpointOf BadEndpoint
  cases h : nonBlank o.dashboardEndpoint with
  | none =>
    have hnone := nonBlank_eq_none.mp h
    simp [hnone]
  | some text =>
    have hgives := nonBlank_eq_some.mp h
    have hall : ∀ t, Gives o.dashboardEndpoint t → t = text := fun t ht => ht.unique hgives
    by_cases hweb : isWebAddress text = true
    · have hstarts := isWebAddress_iff.mp hweb
      simp only [hweb, if_true, reduceCtorEq, false_iff]
      rintro ⟨t, ⟨ht, hnot⟩, -⟩
      exact hnot (hall t ht ▸ hstarts)
    · have hnot : ¬ StartsWeb text := fun hs => hweb (isWebAddress_iff.mpr hs)
      simp only [hweb, Bool.false_eq_true, if_false, Except.error.injEq]
      constructor
      · intro he
        exact ⟨text, ⟨hgives, hnot⟩, he.symm⟩
      · rintro ⟨t, ⟨ht, -⟩, rfl⟩
        rw [hall t ht]

theorem bindingsOf_eq_error {e : ConfigError} :
    bindingsOf o = .error e ↔ ∃ fault, BadServices o fault ∧ e = .bindings fault := by
  unfold bindingsOf BadServices
  cases h : nonBlank o.services with
  | none =>
    have hnone := nonBlank_eq_none.mp h
    simp [hnone]
  | some document =>
    have hgives := nonBlank_eq_some.mp h
    have hall : ∀ d, Gives o.services d → d = document := fun d hd => hd.unique hgives
    cases hparse : ServiceBindings.parse document with
    | ok bindings =>
      simp only [hparse, Except.mapError, reduceCtorEq, false_iff]
      rintro ⟨fault, ⟨d, hd, hfault⟩, -⟩
      rw [hall d hd, hparse] at hfault
      cases hfault
    | error fault =>
      simp only [hparse, Except.mapError, Except.error.injEq]
      constructor
      · intro he
        exact ⟨fault, ⟨document, hgives, hparse⟩, he.symm⟩
      · rintro ⟨fault', ⟨d, hd, hfault⟩, rfl⟩
        rw [hall d hd, hparse] at hfault
        cases hfault
        rfl

theorem rulesOf_eq_error {e : ConfigError} :
    rulesOf o = .error e ↔ ∃ m, Mismatched o m ∧ e = .ingress m := by
  unfold rulesOf Cluster.IngressRule.ofLists Mismatched
  simp only [effective_eq]
  split
  · rename_i h
    constructor
    · intro he
      cases he
    · rintro ⟨m, ⟨rfl, hne⟩, -⟩
      exact absurd h hne
  · rename_i h
    simp only [Except.mapError, Except.error.injEq]
    constructor
    · intro he
      exact ⟨_, ⟨rfl, h⟩, he.symm⟩
    · rintro ⟨m, ⟨rfl, -⟩, rfl⟩
      rfl

/-- The rule at a position is made of what stands there in the three lists. -/
theorem rulesOf_paired {rules : List Cluster.IngressRule} (h : rulesOf o = .ok rules) :
    Paired o rules := by
  unfold rulesOf Cluster.IngressRule.ofLists at h
  simp only [effective_eq] at h
  split at h
  · rename_i hlen
    obtain ⟨hsecrets, hclasses⟩ := hlen
    cases h
    constructor
    · simp only [List.length_map, List.length_zip]
      omega
    · intro i rule hrule
      rw [List.getElem?_map, Option.map_eq_some_iff] at hrule
      obtain ⟨⟨host, secret, ingressClass⟩, hzip, rfl⟩ := hrule
      rw [List.getElem?_zip_eq_some, List.getElem?_zip_eq_some] at hzip
      obtain ⟨hhost, hsecret, hclass⟩ := hzip
      obtain ⟨rawHost, hrawHost, rfl⟩ := getElem?_kept hhost
      obtain ⟨rawSecret, hrawSecret, rfl⟩ := getElem?_kept hsecret
      obtain ⟨rawClass, hrawClass, rfl⟩ := getElem?_kept hclass
      exact ⟨rawHost, rawSecret, rawClass, hrawHost, hrawSecret, hrawClass, rfl⟩
  · cases h

theorem filter_eq_some {path : String} :
    o.kubeconfig.filter (!·.isEmpty) = some path ↔ HasCluster o path := by
  unfold HasCluster
  rw [Option.filter_eq_some_iff, Bool.not_eq_true', ← Bool.not_eq_true, String.isEmpty_iff]

theorem clusterOf_eq_error {rules : List Cluster.IngressRule} {e : ConfigError} :
    clusterOf o rules = .error e ↔ LacksImage o ∧ e = .missingTestImage := by
  unfold clusterOf LacksImage
  cases hpath : o.kubeconfig.filter (!·.isEmpty) with
  | none =>
    have hno : ¬ ∃ path, HasCluster o path := by
      rintro ⟨path, h⟩
      rw [filter_eq_some.mpr h] at hpath
      cases hpath
    simp [hno]
  | some path =>
    have hhas : ∃ path, HasCluster o path := ⟨path, filter_eq_some.mp hpath⟩
    cases himage : nonBlank o.testImage with
    | none =>
      have hnone := nonBlank_eq_none.mp himage
      simp only [Except.error.injEq, hhas, hnone, not_false_eq_true, implies_true, and_self, true_and]
      exact eq_comm
    | some image =>
      have hgives := nonBlank_eq_some.mp himage
      simp only [reduceCtorEq, false_iff, hhas, true_and, not_and]
      intro hnone
      exact absurd hgives (hnone image)

/-- A cluster that is configured is checked under the rules. -/
theorem clusterOf_rules {rules : List Cluster.IngressRule} {cluster : Option ClusterConfig}
    {path : String} (h : clusterOf o rules = .ok cluster) (hpath : HasCluster o path) :
    ∃ k, cluster = some k ∧ k.kubeconfig = path ∧ k.settings.ingresses = rules := by
  unfold clusterOf at h
  rw [filter_eq_some.mpr hpath] at h
  cases himage : nonBlank o.testImage with
  | none =>
    rw [himage] at h
    cases h
  | some image =>
    rw [himage] at h
    cases h
    exact ⟨_, rfl, rfl, rfl⟩

/-! ## The whole check -/

/-- What can fail in certain ways only, succeeds if none of them is the case. -/
theorem eq_ok_iff {ε α β : Type} {x : Except ε α} {P : β → Prop} {f : β → ε}
    (h : ∀ e, x = .error e ↔ ∃ b, P b ∧ e = f b) : (∃ v, x = .ok v) ↔ ∀ b, ¬ P b := by
  cases x with
  | error e =>
    obtain ⟨b, hb, -⟩ := (h e).mp rfl
    constructor
    · rintro ⟨v, hv⟩
      cases hv
    · intro hno
      exact absurd hb (hno b)
  | ok v =>
    constructor
    · intro _ b hb
      have := (h (f b)).mpr ⟨b, hb, rfl⟩
      cases this
    · intro _
      exact ⟨v, rfl⟩

theorem ofOptions_eq_error {e : ConfigError} : ofOptions o = .error e ↔
    (∃ endpoint, BadEndpoint o endpoint ∧ e = .invalidEndpoint endpoint) ∨
      (∀ endpoint, ¬ BadEndpoint o endpoint) ∧
        ((∃ fault, BadServices o fault ∧ e = .bindings fault) ∨
          (∀ fault, ¬ BadServices o fault) ∧
            ((∃ m, Mismatched o m ∧ e = .ingress m) ∨
              (∀ m, ¬ Mismatched o m) ∧ LacksImage o ∧ e = .missingTestImage)) := by
  unfold ofOptions
  simp only [bind_eq_error, endpointOf_eq_error, bindingsOf_eq_error, rulesOf_eq_error,
    clusterOf_eq_error, pure, Except.pure, reduceCtorEq, and_false, exists_const, or_false,
    exists_and_right, eq_ok_iff fun _ => endpointOf_eq_error, eq_ok_iff fun _ => bindingsOf_eq_error,
    eq_ok_iff fun _ => rulesOf_eq_error]

/-- A configuration with a cluster has the rules that the three lists make. -/
theorem ofOptions_rules {c : Config} {path : String} (h : ofOptions o = .ok c)
    (hpath : HasCluster o path) :
    ∃ k, c.cluster = some k ∧ k.kubeconfig = path ∧ Paired o k.settings.ingresses := by
  unfold ofOptions at h
  obtain ⟨endpoint, -, h⟩ := bind_eq_ok.mp h
  obtain ⟨bindings, -, h⟩ := bind_eq_ok.mp h
  obtain ⟨rules, hrules, h⟩ := bind_eq_ok.mp h
  obtain ⟨cluster, hcluster, h⟩ := bind_eq_ok.mp h
  obtain ⟨k, rfl, hk, hingresses⟩ := clusterOf_rules hcluster hpath
  have hpaired := rulesOf_paired hrules
  rw [← hingresses] at hpaired
  cases h
  exact ⟨k, rfl, hk, hpaired⟩

/-- Options with nothing wrong about them are accepted, and no others. -/
theorem ofOptions_eq_ok : (∃ c, ofOptions o = .ok c) ↔
    (∀ endpoint, ¬ BadEndpoint o endpoint) ∧ (∀ fault, ¬ BadServices o fault) ∧
      (∀ m, ¬ Mismatched o m) ∧ ¬ LacksImage o := by
  constructor
  · rintro ⟨c, hc⟩
    have hno : ∀ e, ofOptions o ≠ .error e := fun e he => by rw [hc] at he; cases he
    have hendpoint : ∀ endpoint, ¬ BadEndpoint o endpoint := fun endpoint h =>
      hno _ (ofOptions_eq_error.mpr (.inl ⟨endpoint, h, rfl⟩))
    have hbindings : ∀ fault, ¬ BadServices o fault := fun fault h =>
      hno _ (ofOptions_eq_error.mpr (.inr ⟨hendpoint, .inl ⟨fault, h, rfl⟩⟩))
    have hrules : ∀ m, ¬ Mismatched o m := fun m h =>
      hno _ (ofOptions_eq_error.mpr (.inr ⟨hendpoint, .inr ⟨hbindings, .inl ⟨m, h, rfl⟩⟩⟩))
    have himage : ¬ LacksImage o := fun h =>
      hno _ (ofOptions_eq_error.mpr (.inr ⟨hendpoint, .inr ⟨hbindings, .inr ⟨hrules, h, rfl⟩⟩⟩))
    exact ⟨hendpoint, hbindings, hrules, himage⟩
  · rintro ⟨hendpoint, hbindings, hrules, himage⟩
    cases hc : ofOptions o with
    | ok c => exact ⟨c, rfl⟩
    | error e =>
      rcases ofOptions_eq_error.mp hc with ⟨t, ht, -⟩ | ⟨-, ⟨fault, h, -⟩ | ⟨-, ⟨m, h, -⟩ | h⟩⟩
      · exact absurd ht (hendpoint t)
      · exact absurd h (hbindings fault)
      · exact absurd h (hrules m)
      · exact absurd h.2.1 himage

structure Validated (o : Options) (outcome : Except ConfigError Config) : Prop where
  /-- The endpoint is looked at first. -/
  endpoint : ∀ endpoint, outcome = .error (.invalidEndpoint endpoint) ↔ BadEndpoint o endpoint
  /-- The bindings come next, -/
  bindings : ∀ fault, outcome = .error (.bindings fault) ↔
    (∀ endpoint, ¬ BadEndpoint o endpoint) ∧ BadServices o fault
  /-- then the lengths of the three lists, -/
  ingress : ∀ m, outcome = .error (.ingress m) ↔
    (∀ endpoint, ¬ BadEndpoint o endpoint) ∧ (∀ fault, ¬ BadServices o fault) ∧ Mismatched o m
  /-- and the image last. -/
  image : outcome = .error .missingTestImage ↔
    (∀ endpoint, ¬ BadEndpoint o endpoint) ∧ (∀ fault, ¬ BadServices o fault) ∧
      (∀ m, ¬ Mismatched o m) ∧ LacksImage o
  /-- Options with nothing wrong about them are accepted, and no others. -/
  accepted : (∃ c, outcome = .ok c) ↔
    (∀ endpoint, ¬ BadEndpoint o endpoint) ∧ (∀ fault, ¬ BadServices o fault) ∧
      (∀ m, ¬ Mismatched o m) ∧ ¬ LacksImage o
  /-- If there is a cluster, it is checked under the rules that stand in the lists. -/
  rules : ∀ c path, outcome = .ok c → HasCluster o path →
    ∃ k, c.cluster = some k ∧ k.kubeconfig = path ∧ Paired o k.settings.ingresses

/-- Whatever the options are, the first thing that is wrong with them is reported, and if there is none they
are accepted. -/
theorem ofOptions_validated (o : Options) : Validated o (ofOptions o) where
  endpoint endpoint := by simp [ofOptions_eq_error]
  bindings fault := by simp [ofOptions_eq_error]
  ingress m := by simp [ofOptions_eq_error]
  image := by simp [ofOptions_eq_error]
  accepted := ofOptions_eq_ok
  rules c path h hpath := ofOptions_rules h hpath

end Checkup.Config
