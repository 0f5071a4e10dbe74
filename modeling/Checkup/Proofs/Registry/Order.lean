import Checkup.Registry
import Mathlib.Data.List.Forall2
import Mathlib.Data.List.Nodup

/-!
# Which probes make up a battery, and in which order

A battery has twelve slots, and each is filled with one probe or none. Whether it is filled depends on
what is bound, on the redirect address and on whether there is a cluster, and on nothing else; a reader
that rejects what is bound does not leave its slot empty, it fills it with a probe that says so.

Results:
* `fills_bound`: a slot is filled exactly if its service is bound.
* `fills_registrations` and `Fills.assemble`: so are all slots, with registrations and then with probes.
* `probes_ordered`: what that means for the keys and names of the probes of a battery, and for two
  batteries whose bindings differ in their contents only.
-/
namespace Checkup.Registry

/-! ## Slots -/

/-- A place in a battery: when it is filled, and what a reader says against what is bound, if it rejects
it. -/
structure Slot where
  key : String
  name : String
  Present : Prop
  Rejected : (step error : String) → Prop

/-- Some service is bound under the label. -/
def Bound (c : Config) (label : String) : Prop :=
  ∃ b bs, c.bindings.groups.lookup label = some (b :: bs)

/-- Some bound service carries the tag. -/
def Tagged (c : Config) (tag : String) : Prop :=
  ∃ group ∈ c.bindings.groups, ∃ b ∈ group.2, tag ∈ b.tags

/-- The reader rejects the binding. -/
def Rejects {α : Type} (binding : Option Binding) (read : Binding → Except BindingError α)
    (step error : String) : Prop :=
  step = "Read service binding" ∧ ∃ b e, binding = some b ∧ read b = .error e ∧ error = e.message

/-- The slot of a service that is found by its label. -/
def labelled {α : Type} (c : Config) (key name label : String)
    (read : Binding → Except BindingError α) : Slot :=
  ⟨key, name, Bound c label, Rejects (c.bindings.withLabel? label) read⟩

/-- The slot of a service that is found by its tag. -/
def tagged {α : Type} (c : Config) (key name tag : String)
    (read : Binding → Except BindingError α) : Slot :=
  ⟨key, name, Tagged c tag, Rejects (c.bindings.withTag? tag) read⟩

/-- The slot of the identity provider, which takes the redirect address too. -/
def identitySlot (c : Config) : Slot :=
  ⟨"sso", "Single Sign-On", Bound c "p-identity" ∧ c.redirectUrl.isSome, fun step error =>
    ∃ url, c.redirectUrl = some url ∧ Rejects (c.bindings.withLabel? "p-identity")
      (Identity.Settings.ofBinding · url) step error⟩

def clusterSlot (c : Config) (p : Platform) : Slot :=
  ⟨"kubernetes", "Kubernetes", c.cluster.isSome, fun step error => step = "Load kubeconfig" ∧
    ∃ k e, c.cluster = some k ∧
      Cluster.Kubeconfig.load p.files k.kubeconfig k.clusterNamespace = .error e ∧ error = e.text⟩

/-- The slots of a battery, in their order. -/
def slots (c : Config) (p : Platform) : List Slot := [
  ⟨"me", Presence.name c.siteType c.site, True, fun _ _ => False⟩,
  labelled c "mySQL" "MySQL" "p.mysql" Database.Settings.mySql,
  labelled c "p-rabbitmq" "RabbitMQ Shared Cluster" "p-rabbitmq" Broker.Settings.ofBinding,
  labelled c "p.rabbitmq" "RabbitMQ On-Demand" "p.rabbitmq" Broker.Settings.ofBinding,
  labelled c "p-redis" "Redis Shared Cluster" "p-redis" Cache.Settings.ofBinding,
  labelled c "p.redis" "Redis On-Demand" "p.redis" Cache.Settings.ofBinding,
  labelled c "postgres-db" "Postgres" "postgres-db" Database.Settings.postgres,
  labelled c "shared-volume" "Shared SMB volume" "shared-volume" FileShare.mountDirOf,
  tagged c "nfs" "NFS" "nfs" FileShare.mountDirOf,
  tagged c "s3" "S3" "s3-bucket" ObjectStore.Settings.ofBinding,
  identitySlot c,
  clusterSlot c p]

/-- Each slot that is present is filled, in their order, and the others are left out. -/
inductive Fills {α : Type} (P : Slot → α → Prop) : List Slot → List α → Prop where
  | nil : Fills P [] []
  | absent {s : Slot} {ss : List Slot} {xs : List α} : ¬ s.Present → Fills P ss xs →
      Fills P (s :: ss) xs
  | present {s : Slot} {ss : List Slot} {x : α} {xs : List α} : s.Present → P s x → Fills P ss xs →
      Fills P (s :: ss) (x :: xs)

/-- The probe belongs into the slot. If a reader has rejected what is bound, the probe calls nobody, and its
node has one failed leaf, which tells what the reader said. -/
structure Suits (s : Slot) (q : Probe Call) : Prop where
  key : q.key = s.key
  name : q.name = s.name
  rejected : ∀ step error, s.Rejected step error → ∀ tok,
    q.run tok = ⟨[], .returned 0 tok (Node.aggregate s.key s.name [.fail step error])⟩

/-- The registration gives such a probe, whatever file system it finds. -/
def Serves (s : Slot) (r : Registration) : Prop := ∀ fs, Suits s (r.probe fs)

variable {c : Config} {p : Platform}

/-! ## Filling slots -/

theorem withLabel?_isSome (label : String) :
    (c.bindings.withLabel? label).isSome ↔ Bound c label := by
  unfold ServiceBindings.withLabel? Bound
  match c.bindings.groups.lookup label with
  | none => simp
  | some [] => simp
  | some (b :: bs) => simp

theorem withTag?_isSome (tag : String) : (c.bindings.withTag? tag).isSome ↔ Tagged c tag := by
  simp [ServiceBindings.withTag?, ServiceBindings.all, Tagged, Binding.hasTag, List.find?_isSome]

namespace Fills

variable {α : Type} {P : Slot → α → Prop} {ss ss' : List Slot} {xs xs' : List α}

theorem append (h : Fills P ss xs) (h' : Fills P ss' xs') : Fills P (ss ++ ss') (xs ++ xs') := by
  induction h with
  | nil => exact h'
  | absent hs _ ih => exact .absent hs ih
  | present hs hx _ ih => exact .present hs hx ih

theorem flatMap {β : Type} {l : List β} {s : β → Slot} {f : β → List α}
    (h : ∀ b, Fills P [s b] (f b)) : Fills P (l.map s) (l.flatMap f) := by
  induction l with
  | nil => exact .nil
  | cons b l ih => exact (h b).append ih

/-- Registrations for the slots give probes for them. -/
theorem assemble {rs : List Registration} (h : Fills Serves ss rs) (fs : Files.FileSystem) :
    Fills Suits ss (Registration.assemble fs rs) := by
  induction h generalizing fs with
  | nil => exact .nil
  | absent hs _ ih => exact .absent hs (ih fs)
  | present hs hr _ ih => exact .present hs (hr fs) (ih _)

end Fills

theorem run_misconfiguration (key name step error : String) (tok : Token) :
    (Misconfiguration.probe key name step error : Probe Call).run tok =
      ⟨[], .returned 0 tok (Node.aggregate key name [.fail step error])⟩ := by
  cases tok <;> rfl

/-- A probe suits a slot under whose key and name it stands, if nothing is rejected. -/
theorem serves_of_settled {s : Slot} {r : Registration} (hkey : ∀ fs, (r.probe fs).key = s.key)
    (hname : ∀ fs, (r.probe fs).name = s.name) (h : ∀ step error, ¬ s.Rejected step error) :
    Serves s r :=
  fun fs => ⟨hkey fs, hname fs, fun step error hr => (h step error hr).elim⟩

theorem serves_unusable {s : Slot} {step error : String}
    (h : ∀ step' error', s.Rejected step' error' → step' = step ∧ error' = error) :
    Serves s (.unusable s.key s.name step error) := by
  refine fun fs => ⟨rfl, rfl, fun step' error' hr tok => ?_⟩
  obtain ⟨rfl, rfl⟩ := h step' error' hr
  exact run_misconfiguration s.key s.name step' error' tok

/-- The slot of a service is filled if it is bound. -/
theorem fills_bound {α : Type} {s : Slot} {binding : Option Binding}
    {read : Binding → Except BindingError α} {build : α → Registration}
    (hpresent : s.Present ↔ binding.isSome) (hrejected : s.Rejected = Rejects binding read)
    (hkey : ∀ settings fs, ((build settings).probe fs).key = s.key)
    (hname : ∀ settings fs, ((build settings).probe fs).name = s.name) :
    Fills Serves [s] (bound s.key s.name binding read build) := by
  cases binding with
  | none => exact .absent (by simp [hpresent]) .nil
  | some b =>
    have hs : s.Present := hpresent.mpr rfl
    simp only [bound]
    cases hread : read b with
    | ok settings =>
      refine .present hs (serves_of_settled (hkey settings) (hname settings) ?_) .nil
      rw [hrejected]
      rintro step error ⟨-, b', e, hb, he, -⟩
      cases hb
      rw [hread] at he
      cases he
    | error e =>
      refine .present hs (serves_unusable ?_) .nil
      rw [hrejected]
      rintro step error ⟨rfl, b', e', hb, he, rfl⟩
      cases hb
      rw [hread] at he
      cases he
      exact ⟨rfl, rfl⟩

theorem fills_labelled {α : Type} {key name label : String}
    {read : Binding → Except BindingError α} {build : α → Registration}
    (hkey : ∀ settings fs, ((build settings).probe fs).key = key)
    (hname : ∀ settings fs, ((build settings).probe fs).name = name) :
    Fills Serves [labelled c key name label read]
      (bound key name (c.bindings.withLabel? label) read build) :=
  fills_bound (s := labelled c key name label read) (withLabel?_isSome label).symm rfl hkey hname

theorem fills_tagged {α : Type} {key name tag : String}
    {read : Binding → Except BindingError α} {build : α → Registration}
    (hkey : ∀ settings fs, ((build settings).probe fs).key = key)
    (hname : ∀ settings fs, ((build settings).probe fs).name = name) :
    Fills Serves [tagged c key name tag read]
      (bound key name (c.bindings.withTag? tag) read build) :=
  fills_bound (s := tagged c key name tag read) (withTag?_isSome tag).symm rfl hkey hname

theorem fills_identity : Fills Serves [identitySlot c] (identity c p) := by
  unfold identity
  cases hurl : c.redirectUrl with
  | none => exact .absent (by simp [identitySlot, hurl]) .nil
  | some url =>
    have hrejected : (identitySlot c).Rejected = Rejects (c.bindings.withLabel? "p-identity")
        (Identity.Settings.ofBinding · url) := by
      funext step error
      simp [identitySlot, hurl]
    exact fills_bound (s := identitySlot c) (by simp [identitySlot, hurl, withLabel?_isSome])
      hrejected (fun _ _ => rfl) fun _ _ => rfl

theorem fills_cluster : Fills Serves [clusterSlot c p] (cluster c p) := by
  unfold cluster
  cases hcluster : c.cluster with
  | none => exact .absent (by simp [clusterSlot, hcluster]) .nil
  | some k =>
    have hs : (clusterSlot c p).Present := by simp [clusterSlot, hcluster]
    dsimp only
    cases hload : Cluster.Kubeconfig.load p.files k.kubeconfig k.clusterNamespace with
    | ok access =>
      refine .present hs (serves_of_settled (fun _ => rfl) (fun _ => rfl) ?_) .nil
      rintro step error ⟨-, k', e, hk, he, -⟩
      cases hcluster.symm.trans hk
      rw [hload] at he
      cases he
    | error e =>
      refine .present hs (serves_unusable (s := clusterSlot c p) ?_) .nil
      rintro step error ⟨rfl, k', e', hk, he, rfl⟩
      cases hcluster.symm.trans hk
      rw [hload] at he
      cases he
      exact ⟨rfl, rfl⟩

/-- All slots are filled by the registrations. -/
theorem fills_registrations (c : Config) (p : Platform) :
    Fills Serves (slots c p) (registrations c p) := by
  have hme : Fills Serves [⟨"me", Presence.name c.siteType c.site, True, fun _ _ => False⟩]
      [.ofProbe (Presence.probe c.siteType c.site)] :=
    .present trivial (serves_of_settled (fun _ => rfl) (fun _ => rfl) fun _ _ h => h) .nil
  have hbrokers : Fills Serves
      (brokers.map fun b => labelled c b.1 b.2 b.1 Broker.Settings.ofBinding)
      (brokers.flatMap fun b => broker c p b.1 b.2) :=
    Fills.flatMap fun b => fills_labelled (fun _ _ => rfl) fun _ _ => rfl
  have hcaches : Fills Serves (caches.map fun b => labelled c b.1 b.2 b.1 Cache.Settings.ofBinding)
      (caches.flatMap fun b => cache c p b.1 b.2) :=
    Fills.flatMap fun b => fills_labelled (fun _ _ => rfl) fun _ _ => rfl
  have hmysql : Fills Serves [labelled c "mySQL" "MySQL" "p.mysql" Database.Settings.mySql]
      (database c p "p.mysql" "mySQL" "MySQL" Database.Settings.mySql) :=
    fills_labelled (fun _ _ => rfl) fun _ _ => rfl
  have hpostgres : Fills Serves
      [labelled c "postgres-db" "Postgres" "postgres-db" Database.Settings.postgres]
      (database c p "postgres-db" "postgres-db" "Postgres" Database.Settings.postgres) :=
    fills_labelled (fun _ _ => rfl) fun _ _ => rfl
  have hshares : Fills Serves
      [labelled c "shared-volume" "Shared SMB volume" "shared-volume" FileShare.mountDirOf,
        tagged c FileShare.nfsKey FileShare.nfsName nfsTag FileShare.mountDirOf]
      ((shares c).flatMap fun v => share p v.1 v.2.1 v.2.2.1 v.2.2.2) :=
    (fills_labelled (fun _ _ => rfl) fun _ _ => rfl).append
      ((fills_tagged (fun _ _ => rfl) fun _ _ => rfl).append .nil)
  have hstore : Fills Serves
      [tagged c ObjectStore.key ObjectStore.name objectStoreTag ObjectStore.Settings.ofBinding]
      (objectStore c p) := fills_tagged (fun _ _ => rfl) fun _ _ => rfl
  exact (((((((hme.append hmysql).append hbrokers).append hcaches).append hpostgres).append
    hshares).append hstore).append fills_identity).append fills_cluster

/-! ## What it means for a battery -/

namespace Fills

variable {ss ss' : List Slot} {qs qs' : List (Probe Call)}

theorem keys_sublist (h : Fills Suits ss qs) : (qs.map (·.key)).Sublist (ss.map (·.key)) := by
  induction h with
  | nil => exact .slnil
  | absent _ _ ih => exact ih.cons _
  | present _ hq _ ih => rw [List.map_cons, List.map_cons, hq.key]; exact ih.cons_cons _

/-- With different keys, the key of a slot is among those of the probes if the slot is present, and not
otherwise. -/
theorem mem_keys (h : Fills Suits ss qs) (hkeys : (ss.map (·.key)).Nodup) :
    ∀ s ∈ ss, s.key ∈ qs.map (·.key) ↔ s.Present := by
  induction h with
  | nil => exact fun s hs => nomatch hs
  | @absent s ss qs hs h ih =>
    obtain ⟨hnew, hkeys⟩ := List.nodup_cons.mp hkeys
    refine List.forall_mem_cons.mpr ⟨iff_of_false (fun hmem => ?_) hs, ih hkeys⟩
    exact hnew (h.keys_sublist.subset hmem)
  | @present s ss q qs hs hq h ih =>
    obtain ⟨hnew, hkeys⟩ := List.nodup_cons.mp hkeys
    refine List.forall_mem_cons.mpr ⟨iff_of_true (by simp [hq.key]) hs, fun s' hs' => ?_⟩
    have hne : s'.key ≠ q.key := fun heq =>
      hnew (List.mem_map.mpr ⟨s', hs', heq.trans hq.key⟩)
    rw [List.map_cons, List.mem_cons, or_iff_right hne]
    exact ih hkeys s' hs'

/-- A slot that is present has its probe. -/
theorem exists_suits (h : Fills Suits ss qs) {s : Slot} (hs : s ∈ ss) (hpresent : s.Present) :
    ∃ q ∈ qs, Suits s q := by
  induction h with
  | nil => cases hs
  | absent hno _ ih =>
    cases hs with
    | head => exact absurd hpresent hno
    | tail _ hs => exact ih hs
  | present _ hq _ ih =>
    cases hs with
    | head => exact ⟨_, .head _, hq⟩
    | tail _ hs =>
      obtain ⟨q, hmem, hsuits⟩ := ih hs
      exact ⟨q, .tail _ hmem, hsuits⟩

/-- With different keys, the probe of a slot that is present is known by its key. -/
theorem suits_of_key (h : Fills Suits ss qs) (hkeys : (ss.map (·.key)).Nodup) {s : Slot} (hs : s ∈ ss)
    (hpresent : s.Present) {q : Probe Call} (hq : q ∈ qs) (hkey : q.key = s.key) : Suits s q := by
  obtain ⟨q', hq', hsuits⟩ := h.exists_suits hs hpresent
  have hsame : q = q' := List.inj_on_of_nodup_map (h.keys_sublist.nodup hkeys) hq hq'
    (hkey.trans hsuits.key.symm)
  rwa [hsame]

/-- Slots of the same keys and names that are present alike are filled alike. -/
theorem congr (h : Fills Suits ss qs) (h' : Fills Suits ss' qs')
    (hss : List.Forall₂ (fun s s' => s.key = s'.key ∧ s.name = s'.name ∧ (s.Present ↔ s'.Present))
      ss ss') :
    qs.map (fun q => (q.key, q.name)) = qs'.map fun q => (q.key, q.name) := by
  induction hss generalizing qs qs' with
  | nil => cases h; cases h'; rfl
  | cons hs _ ih =>
    obtain ⟨hkey, hname, hpresent⟩ := hs
    cases h with
    | absent hno h =>
      cases h' with
      | absent _ h' => exact ih h h'
      | present hs' _ _ => exact (hno (hpresent.mpr hs')).elim
    | present hs hq h =>
      cases h' with
      | absent hno _ => exact (hno (hpresent.mp hs)).elim
      | present _ hq' h' =>
        rw [List.map_cons, List.map_cons, hq.key, hq.name, hq'.key, hq'.name, hkey, hname, ih h h']

end Fills

/-- The same bindings, apart from what they hold. -/
def SameTags : List Binding → List Binding → Prop := List.Forall₂ fun b b' => b.tags = b'.tags

/-- The same groups of bindings, apart from what these hold. -/
def SameGroups : List (String × List Binding) → List (String × List Binding) → Prop :=
  List.Forall₂ fun group group' => group.1 = group'.1 ∧ SameTags group.2 group'.2

/-- Two configurations in which the same services are bound under the same labels and with the same tags,
whatever else is said of them; both have a redirect address or none, and so for a cluster. -/
structure Alike (c c' : Config) : Prop where
  siteType : c.siteType = c'.siteType
  site : c.site = c'.site
  bindings : SameGroups c.bindings.groups c'.bindings.groups
  redirectUrl : c.redirectUrl.isSome = c'.redirectUrl.isSome
  cluster : c.cluster.isSome = c'.cluster.isSome

theorem exists_mem_iff {α β : Type} {R : α → β → Prop} {P : α → Prop} {Q : β → Prop} {l : List α}
    {l' : List β} (h : List.Forall₂ R l l') (hPQ : ∀ a b, R a b → (P a ↔ Q b)) :
    (∃ a ∈ l, P a) ↔ ∃ b ∈ l', Q b := by
  induction h with
  | nil => simp
  | cons hab _ ih => simp only [List.mem_cons, exists_eq_or_imp, hPQ _ _ hab, ih]

theorem lookup_sameGroups {l l' : List (String × List Binding)} (h : SameGroups l l')
    (label : String) :
    (∃ b bs, l.lookup label = some (b :: bs)) ↔ ∃ b bs, l'.lookup label = some (b :: bs) := by
  induction h with
  | nil => rfl
  | @cons group group' groups groups' hgroup _ ih =>
    obtain ⟨key, bs⟩ := group
    obtain ⟨key', bs'⟩ := group'
    obtain ⟨rfl, hbs⟩ := hgroup
    simp only [List.lookup_cons]
    cases label == key with
    | false => exact ih
    | true => cases hbs <;> simp

theorem Alike.bound {c c' : Config} (h : Alike c c') (label : String) :
    Bound c label ↔ Bound c' label := lookup_sameGroups h.bindings label

theorem Alike.tagged {c c' : Config} (h : Alike c c') (tag : String) :
    Tagged c tag ↔ Tagged c' tag :=
  exists_mem_iff h.bindings fun _ _ hgroup => exists_mem_iff hgroup.2 fun _ _ hb => by rw [hb]

theorem Alike.slots {c c' : Config} (h : Alike c c') (p p' : Platform) :
    List.Forall₂ (fun s s' => s.key = s'.key ∧ s.name = s'.name ∧ (s.Present ↔ s'.Present))
      (slots c p) (slots c' p') := by
  have hlabelled : ∀ {α β : Type} {key name label : String}
      {read : Binding → Except BindingError α} {read' : Binding → Except BindingError β},
      (labelled c key name label read).Present ↔ (labelled c' key name label read').Present :=
    h.bound _
  have htagged : ∀ {α β : Type} {key name tag : String}
      {read : Binding → Except BindingError α} {read' : Binding → Except BindingError β},
      (Registry.tagged c key name tag read).Present ↔
        (Registry.tagged c' key name tag read').Present := h.tagged _
  have hme : Presence.name c.siteType c.site = Presence.name c'.siteType c'.site := by
    rw [h.siteType, h.site]
  have hidentity : (identitySlot c).Present ↔ (identitySlot c').Present := by
    simp only [identitySlot, h.bound, h.redirectUrl]
  have hcluster : (clusterSlot c p).Present ↔ (clusterSlot c' p').Present := by
    simp only [clusterSlot, h.cluster]
  exact .cons ⟨rfl, hme, .rfl⟩ <| .cons ⟨rfl, rfl, hlabelled⟩ <| .cons ⟨rfl, rfl, hlabelled⟩ <|
    .cons ⟨rfl, rfl, hlabelled⟩ <| .cons ⟨rfl, rfl, hlabelled⟩ <| .cons ⟨rfl, rfl, hlabelled⟩ <|
    .cons ⟨rfl, rfl, hlabelled⟩ <| .cons ⟨rfl, rfl, hlabelled⟩ <| .cons ⟨rfl, rfl, htagged⟩ <|
    .cons ⟨rfl, rfl, htagged⟩ <| .cons ⟨rfl, rfl, hidentity⟩ <| .cons ⟨rfl, rfl, hcluster⟩ .nil

/-- The keys of the slots, in their order. -/
def order : List String := ["me", "mySQL", "p-rabbitmq", "p.rabbitmq", "p-redis", "p.redis",
  "postgres-db", "shared-volume", "nfs", "s3", "sso", "kubernetes"]

theorem map_key_slots (c : Config) (p : Platform) : (slots c p).map (·.key) = order := rfl

theorem fills_probes (c : Config) (p : Platform) : Fills Suits (slots c p) (probes c p) :=
  (fills_registrations c p).assemble p.files

/-- The probes of a battery fill the slots that are present; so their keys are in one order and all
different, and which of them there are does not depend on what the bindings, the volumes and the files
hold. A probe whose binding or access file is rejected stands in the place of the one that it could have
been, and its one leaf tells why. -/
theorem probes_ordered :
    (∀ (c : Config) (p : Platform), Fills Suits (slots c p) (probes c p)) ∧
    (∀ (c : Config) (p : Platform), ((probes c p).map (·.key)).Sublist order ∧
      ((probes c p).map (·.key)).Nodup ∧
      ∀ s ∈ slots c p, s.key ∈ (probes c p).map (·.key) ↔ s.Present) ∧
    ∀ (c c' : Config) (p p' : Platform), Alike c c' →
      (probes c p).map (fun q => (q.key, q.name)) =
        (probes c' p').map fun q => (q.key, q.name) := by
  have hnodup : order.Nodup := by decide
  refine ⟨fills_probes, fun c p => ?_, fun c c' p p' h => ?_⟩
  · have hsub := (fills_probes c p).keys_sublist
    rw [map_key_slots] at hsub
    exact ⟨hsub, hsub.nodup hnodup, (fills_probes c p).mem_keys hnodup⟩
  · exact (fills_probes c p).congr (fills_probes c' p') (h.slots p p')

/-- A configuration in which one database is bound, with these credentials. -/
def databaseOnly (credentials : List (String × Json.Value)) : Config where
  dashboardEndpoint := none
  bindings := ⟨[("p.mysql", [⟨"mysql", "p.mysql", [], credentials, []⟩])]⟩
  cluster := none
  siteType := none
  site := none
  shareFile := none
  redirectUrl := none
  probeTimeout := none

/-- A database of which all is told, and one of which the port is missing. -/
theorem probes_ordered_rejected :
    let usable := databaseOnly [("hostname", .string "db"), ("port", .number (.natural 3306)),
      ("name", .string "smoke"), ("username", .string "u"), ("password", .string "p")]
    let broken := databaseOnly [("hostname", .string "db")]
    let p := Platform.isolated ⟨[], []⟩ "1700000000" "2024-01-01" "id"
    Alike usable broken ∧
      (probes usable p).map (fun q => (q.key, q.name)) =
        (probes broken p).map (fun q => (q.key, q.name)) ∧
      "mySQL" ∈ (probes broken p).map (·.key) ∧
      (labelled broken "mySQL" "MySQL" "p.mysql" Database.Settings.mySql).Rejected
        "Read service binding" "Service mysql has no credential 'port'" ∧
      Fills Suits (slots broken p) (probes broken p) := by
  intro usable broken p
  have halike : Alike usable broken :=
    ⟨rfl, rfl, .cons ⟨rfl, .cons rfl .nil⟩ .nil, rfl, rfl⟩
  obtain ⟨hfills, hkeys, hsame⟩ := probes_ordered
  refine ⟨halike, hsame _ _ p p halike, ?_, ⟨rfl, _, _, rfl, rfl, rfl⟩, hfills _ p⟩
  exact ((hkeys broken p).2.2 (labelled broken "mySQL" "MySQL" "p.mysql" Database.Settings.mySql)
    (.tail _ (.head _))).mpr ⟨_, _, rfl⟩

end Checkup.Registry
