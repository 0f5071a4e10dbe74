import Checkup.Proofs.Binding.Demand
import Checkup.Proofs.Registry.Order
import Checkup.Proofs.StatusServer.Serve

/-!
# What is seen of a rejected binding

A service whose binding is rejected keeps its place in the battery. The node that is published there
tells what the reader objects to, which is the name of the service and a demand of the reader, and the
rest of the binding leaves no trace: two batteries that differ only in bindings rejected for the same
reason are the same battery.

Results:
* `places_slots`: the places of the bound services among the slots.
* `shown_of_refuses`: the node of a rejected binding, in the probe alone and among what is published.
* `harness_of_indistinct`: what the rest of a rejected binding holds makes no difference.
* `rejection_discreet`: all of it, with what the readers say.
-/
namespace Checkup.Registry

open Binding

/-! ## Places -/

/-- A place of the battery for a bound service: how its binding is found and which reader reads it. -/
structure Place where
  key : String
  name : String
  find : Config → Option Binding
  reader? : Config → Option Reader

namespace Place

/-- The place of a service that is found by its label. -/
def labelled (key name label : String) (r : Reader) : Place :=
  ⟨key, name, (·.bindings.withLabel? label), fun _ => some r⟩

/-- The place of a service that is found by its tag. -/
def tagged (key name tag : String) (r : Reader) : Place :=
  ⟨key, name, (·.bindings.withTag? tag), fun _ => some r⟩

/-- The place of the identity provider, which takes the redirect address too. -/
def identity : Place :=
  ⟨"sso", "Single Sign-On", (·.bindings.withLabel? "p-identity"), (·.redirectUrl.map .identity)⟩

/-- The reader of the place has an objection to the binding of the service. -/
def Refuses (l : Place) (c : Config) (service : String) (o : Objection) : Prop :=
  ∃ b r, l.find c = some b ∧ l.reader? c = some r ∧ b.name = service ∧ Objects b r.demands o

/-- The node that tells of an objection. -/
def rejection (l : Place) (service : String) (o : Objection) : Node :=
  Node.aggregate l.key l.name [.fail "Read service binding" (o.error service).message]

end Place

/-- The places of all services that may be bound. -/
def places : List Place := [
  .labelled "mySQL" "MySQL" "p.mysql" .mySql,
  .labelled "p-rabbitmq" "RabbitMQ Shared Cluster" "p-rabbitmq" .broker,
  .labelled "p.rabbitmq" "RabbitMQ On-Demand" "p.rabbitmq" .broker,
  .labelled "p-redis" "Redis Shared Cluster" "p-redis" .cache,
  .labelled "p.redis" "Redis On-Demand" "p.redis" .cache,
  .labelled "postgres-db" "Postgres" "postgres-db" .postgres,
  .labelled "shared-volume" "Shared SMB volume" "shared-volume" .volume,
  .tagged "nfs" "NFS" "nfs" .volume,
  .tagged "s3" "S3" "s3-bucket" .objectStore,
  .identity]

variable {c c' : Config} {p : Platform} {l : Place} {service : String} {o : Objection}

/-- A slot in which the node tells of the objection. -/
def Tells (s : Slot) (l : Place) (service : String) (o : Objection) : Prop :=
  s.key = l.key ∧ s.name = l.name ∧ s.Present ∧
    s.Rejected "Read service binding" (o.error service).message

theorem rejects_of_objects {α : Type} {b : Binding} {r : Reader}
    {read : Binding → Except BindingError α} (hread : r.error? b = Reader.errorOf? (read b))
    (ho : Objects b r.demands o) :
    Rejects (some b) read "Read service binding" (o.error b.name).message := by
  have herror := error?_eq_some.mpr ⟨o, ho, rfl⟩
  rw [hread, errorOf?_eq_some] at herror
  exact ⟨rfl, b, _, rfl, herror, rfl⟩

section
variable {α : Type} {key name : String} {r : Reader} {read : Binding → Except BindingError α}

theorem tells_labelled {label : String} (hread : ∀ b, r.error? b = Reader.errorOf? (read b))
    (h : (Place.labelled key name label r).Refuses c service o) :
    Tells (labelled c key name label read) (.labelled key name label r) service o := by
  obtain ⟨b, r', hb, hr, hservice, ho⟩ := h
  cases hr
  subst hservice
  have hfind : c.bindings.withLabel? label = some b := hb
  refine ⟨rfl, rfl, (withLabel?_isSome label).mp (by rw [hfind]; rfl), ?_⟩
  simp only [labelled, hfind]
  exact rejects_of_objects (hread b) ho

theorem tells_tagged {tag : String} (hread : ∀ b, r.error? b = Reader.errorOf? (read b))
    (h : (Place.tagged key name tag r).Refuses c service o) :
    Tells (tagged c key name tag read) (.tagged key name tag r) service o := by
  obtain ⟨b, r', hb, hr, hservice, ho⟩ := h
  cases hr
  subst hservice
  have hfind : c.bindings.withTag? tag = some b := hb
  refine ⟨rfl, rfl, (withTag?_isSome tag).mp (by rw [hfind]; rfl), ?_⟩
  simp only [tagged, hfind]
  exact rejects_of_objects (hread b) ho

end

theorem tells_identity (h : Place.identity.Refuses c service o) :
    Tells (identitySlot c) .identity service o := by
  obtain ⟨b, r, hb, hr, hservice, ho⟩ := h
  obtain ⟨url, hurl, hr⟩ := Option.map_eq_some_iff.mp hr
  subst hr hservice
  have hfind : c.bindings.withLabel? "p-identity" = some b := hb
  refine ⟨rfl, rfl, ⟨(withLabel?_isSome _).mp (by rw [hfind]; rfl), by rw [hurl]; rfl⟩, url, hurl, ?_⟩
  rw [hfind]
  exact rejects_of_objects rfl ho

theorem places_slots (p : Platform) (hl : l ∈ places) (h : l.Refuses c service o) :
    ∃ s ∈ slots c p, Tells s l service o := by
  have hin : ∀ {s : Slot}, Tells s l service o → s ∈ slots c p →
      ∃ s ∈ slots c p, Tells s l service o := fun hs hmem => ⟨_, hmem, hs⟩
  simp only [places, List.mem_cons, List.not_mem_nil, or_false] at hl
  obtain hl | hl | hl | hl | hl | hl | hl | hl | hl | hl := hl <;> subst hl
  · exact hin (tells_labelled (fun _ => rfl) h) (by simp [slots])
  · exact hin (tells_labelled (fun _ => rfl) h) (by simp [slots])
  · exact hin (tells_labelled (fun _ => rfl) h) (by simp [slots])
  · exact hin (tells_labelled (fun _ => rfl) h) (by simp [slots])
  · exact hin (tells_labelled (fun _ => rfl) h) (by simp [slots])
  · exact hin (tells_labelled (fun _ => rfl) h) (by simp [slots])
  · exact hin (tells_labelled (fun _ => rfl) h) (by simp [slots])
  · exact hin (tells_tagged (fun _ => rfl) h) (by simp [slots])
  · exact hin (tells_tagged (fun _ => rfl) h) (by simp [slots])
  · exact hin (tells_identity h) (by simp [slots])

/-! ## What is shown -/

/-- The objection is what is seen of the service: in its probe, which calls nobody, and in its place among
the results that are published. -/
structure Shown (c : Config) (p : Platform) (l : Place) (service : String) (o : Objection) :
    Prop where
  present : ∃ q ∈ probes c p, q.key = l.key
  alone : ∀ q ∈ probes c p, q.key = l.key → q.name = l.name ∧
    ∀ tok, q.run tok = ⟨[], .returned 0 tok (l.rejection service o)⟩
  published : ∀ (publish : Publisher Call) (tok : Token) (results : List Node),
    .published results ∈ ((harness c p).runAndPublish publish tok).called →
      results.length = (probes c p).length ∧
        ∀ (i : Nat) (q : Probe Call), (probes c p)[i]? = some q → q.key = l.key →
          results[i]? = some (l.rejection service o)

theorem shown_of_refuses (p : Platform) (hl : l ∈ places) (h : l.Refuses c service o) :
    Shown c p l service o := by
  obtain ⟨s, hs, hkey, hname, hpresent, hrejected⟩ := places_slots p hl h
  have hkeys : ((slots c p).map (·.key)).Nodup := by
    rw [map_key_slots]
    decide
  have hsuits : ∀ q ∈ probes c p, q.key = l.key → Suits s q := fun q hq hq' =>
    (fills_probes c p).suits_of_key hkeys hs hpresent hq (hq'.trans hkey.symm)
  have halone : ∀ q ∈ probes c p, q.key = l.key →
      ∀ tok, q.run tok = ⟨[], .returned 0 tok (l.rejection service o)⟩ := by
    intro q hq hq' tok
    rw [(hsuits q hq hq').rejected _ _ hrejected tok, hkey, hname]
    rfl
  refine ⟨?_, fun q hq hq' => ⟨(hsuits q hq hq').name.trans hname, halone q hq hq'⟩, ?_⟩
  · obtain ⟨q, hq, hsuits⟩ := (fills_probes c p).exists_suits hs hpresent
    exact ⟨q, hq, hsuits.key.trans hkey⟩
  · intro publish tok results hpublished
    obtain ⟨t, later, hrun⟩ := StatusServer.run_of_published hpublished
    have heach := Harness.results_of_runProbes hrun
    refine ⟨heach.length_eq.symm, fun i q hq hq' => ?_⟩
    obtain ⟨hi, hqi⟩ := List.getElem?_eq_some_iff.mp hq
    have hi' : i < results.length := heach.length_eq ▸ hi
    obtain ⟨now, tok', t', tok'', hguarded⟩ := heach.get hi hi'
    have hrunq : (((probes c p).get ⟨i, hi⟩).run tok').ending =
        .returned 0 tok' (l.rejection service o) := by
      rw [List.get_eq_getElem, hqi, halone q (List.mem_of_getElem? hq) hq']
    have hended := (Probe.guarded_atOnce hrunq).symm.trans hguarded
    obtain ⟨-, -, hnode⟩ := Ending.returned.inj hended
    rw [List.getElem?_eq_getElem hi', hnode]
    rfl

/-! ## Two batteries -/

/-- Two configurations that differ in their bindings only, and in each place not even in these, unless both
are refused for the same reason and have the same name. -/
structure Indistinct (c c' : Config) : Prop where
  rest : c' = { c with bindings := c'.bindings }
  alike : ∀ l ∈ places, l.find c = l.find c' ∨
    ∃ service o, l.Refuses c service o ∧ l.Refuses c' service o

/-- In each place the bindings are the same, or the reader rejects both in the same words. -/
theorem Indistinct.agree (h : Indistinct c c') (hl : l ∈ places) {r : Reader}
    (hr : l.reader? c = some r) (hr' : l.reader? c' = some r) :
    l.find c = l.find c' ∨ ∃ b b' e, l.find c = some b ∧ l.find c' = some b' ∧
      r.error? b = some e ∧ r.error? b' = some e := by
  obtain hsame | ⟨service, o, ⟨b, s, hb, hs, hname, ho⟩, ⟨b', s', hb', hs', hname', ho'⟩⟩ :=
    h.alike l hl
  · exact .inl hsame
  · cases hr.symm.trans hs
    cases hr'.symm.trans hs'
    exact .inr ⟨b, b', o.error service, hb, hb', error?_eq_some.mpr ⟨o, ho, by rw [hname]⟩,
      error?_eq_some.mpr ⟨o, ho', by rw [hname']⟩⟩

theorem bound_congr {α : Type} {key name : String} {binding binding' : Option Binding} {r : Reader}
    {read : Binding → Except BindingError α} {build : α → Registration}
    (hread : ∀ b, r.error? b = Reader.errorOf? (read b))
    (h : binding = binding' ∨ ∃ b b' e, binding = some b ∧ binding' = some b' ∧
      r.error? b = some e ∧ r.error? b' = some e) :
    bound key name binding read build = bound key name binding' read build := by
  obtain h | ⟨b, b', e, hb, hb', he, he'⟩ := h
  · rw [h]
  · subst hb hb'
    rw [hread, errorOf?_eq_some] at he he'
    simp only [bound, he, he']

namespace Indistinct

variable {α : Type} {key name : String} {read : Binding → Except BindingError α}
  {build : α → Registration}

theorem labelled {label : String} (h : Indistinct c c') (r : Reader)
    (hread : ∀ b, r.error? b = Reader.errorOf? (read b))
    (hl : Place.labelled key name label r ∈ places) :
    bound key name (c.bindings.withLabel? label) read build =
      bound key name (c'.bindings.withLabel? label) read build :=
  bound_congr hread (h.agree hl rfl rfl)

theorem tagged {tag : String} (h : Indistinct c c') (r : Reader)
    (hread : ∀ b, r.error? b = Reader.errorOf? (read b)) (hl : Place.tagged key name tag r ∈ places) :
    bound key name (c.bindings.withTag? tag) read build =
      bound key name (c'.bindings.withTag? tag) read build :=
  bound_congr hread (h.agree hl rfl rfl)

theorem shares (h : Indistinct c c') (p : Platform) :
    (shares c).flatMap (fun v => share p v.1 v.2.1 v.2.2.1 v.2.2.2) =
      (Registry.shares c').flatMap (fun v => share p v.1 v.2.1 v.2.2.1 v.2.2.2) := by
  have hfile : c'.shareFile = c.shareFile := by rw [h.rest]
  have hshared : share p "shared-volume" "Shared SMB volume" (c.bindings.withLabel? "shared-volume")
        c.shareFile =
      share p "shared-volume" "Shared SMB volume" (c'.bindings.withLabel? "shared-volume")
        c.shareFile := h.labelled .volume (fun _ => rfl) (by simp [places])
  have hnfs : share p "nfs" "NFS" (c.bindings.withTag? "nfs") (some FileShare.nfsFile) =
      share p "nfs" "NFS" (c'.bindings.withTag? "nfs") (some FileShare.nfsFile) :=
    h.tagged .volume (fun _ => rfl) (by simp [places])
  simp only [Registry.shares, List.flatMap_cons, List.flatMap_nil, hfile]
  exact congrArg₂ (· ++ ·) hshared (congrArg₂ (· ++ ·) hnfs rfl)

theorem identity (h : Indistinct c c') (p : Platform) : identity c p = Registry.identity c' p := by
  have hurl : c'.redirectUrl = c.redirectUrl := by rw [h.rest]
  unfold Registry.identity
  rw [hurl]
  cases hc : c.redirectUrl with
  | none => rfl
  | some url =>
    have hr : Place.identity.reader? c = some (.identity url) := by simp [Place.identity, hc]
    have hr' : Place.identity.reader? c' = some (.identity url) := by simp [Place.identity, hurl, hc]
    exact bound_congr (fun _ => rfl) (h.agree (by simp [places]) hr hr')

end Indistinct

theorem registrations_of_indistinct (h : Indistinct c c') : registrations c p = registrations c' p := by
  have hmySql : database c p "p.mysql" "mySQL" "MySQL" Database.Settings.mySql =
      database c' p "p.mysql" "mySQL" "MySQL" Database.Settings.mySql :=
    h.labelled .mySql (fun _ => rfl) (by simp [places])
  have hpostgres : database c p "postgres-db" "postgres-db" "Postgres" Database.Settings.postgres =
      database c' p "postgres-db" "postgres-db" "Postgres" Database.Settings.postgres :=
    h.labelled .postgres (fun _ => rfl) (by simp [places])
  have hbroker : ∀ b ∈ brokers, broker c p b.1 b.2 = broker c' p b.1 b.2 := by
    simp only [brokers, List.forall_mem_cons]
    exact ⟨h.labelled .broker (fun _ => rfl) (by simp [places]),
      h.labelled .broker (fun _ => rfl) (by simp [places]), nofun⟩
  have hcache : ∀ b ∈ caches, cache c p b.1 b.2 = cache c' p b.1 b.2 := by
    simp only [caches, List.forall_mem_cons]
    exact ⟨h.labelled .cache (fun _ => rfl) (by simp [places]),
      h.labelled .cache (fun _ => rfl) (by simp [places]), nofun⟩
  have hstore : objectStore c p = objectStore c' p :=
    h.tagged .objectStore (fun _ => rfl)
      (by simp [places, ObjectStore.key, ObjectStore.name, objectStoreTag])
  have hcluster : cluster c p = cluster c' p := by rw [h.rest]; rfl
  have hpresence : Presence.probe c.siteType c.site =
      (Presence.probe c'.siteType c'.site : Probe Call) := by rw [h.rest]
  unfold registrations
  rw [hpresence, hmySql, List.flatMap_congr hbroker, List.flatMap_congr hcache, hpostgres, hstore,
    h.identity, hcluster]
  exact congrArg (fun rs => _ ++ rs ++ _ ++ _ ++ _) (h.shares p)

/-- What the rest of a rejected binding holds changes nothing of a run. -/
theorem harness_of_indistinct (p : Platform) (h : Indistinct c c') :
    harness c p = harness c' p ∧ publisher c p = publisher c' p := by
  have hlimit : c.probeTimeout = c'.probeTimeout := by rw [h.rest]
  have hendpoint : c.dashboardEndpoint = c'.dashboardEndpoint := by rw [h.rest]
  constructor
  · simp only [harness, probes, registrations_of_indistinct h, hlimit]
  · simp only [publisher, hendpoint]

/-- A reader rejects a binding for the first of its demands that is not met, and its error is made of the
name of the service and that demand. So two bindings of one name that are rejected for the same reason get
the same error, which is all that is seen of them: in each place of the battery the node is made of the
error, and what else the bindings hold leaves no trace in what is called, returned and published. -/
theorem rejection_discreet :
    (∀ (r : Reader) (b : Binding) (e : BindingError),
      r.error? b = some e ↔ ∃ o, Objects b r.demands o ∧ e = o.error b.name) ∧
    (∀ (r : Reader) (b b' : Binding) (o : Objection), b.name = b'.name → Objects b r.demands o →
      Objects b' r.demands o → ∃ e, r.error? b = some e ∧ r.error? b' = some e) ∧
    (∀ (c : Config) (p : Platform), ∀ l ∈ places, ∀ service o, l.Refuses c service o →
      Shown c p l service o) ∧
    ∀ (c c' : Config) (p : Platform), Indistinct c c' →
      harness c p = harness c' p ∧ publisher c p = publisher c' p := by
  refine ⟨fun _ _ _ => error?_eq_some, ?_, ?_, fun _ _ p => harness_of_indistinct p⟩
  · intro r b b' o hname ho ho'
    exact ⟨o.error b.name, error?_eq_some.mpr ⟨o, ho, rfl⟩, error?_eq_some.mpr ⟨o, ho', by rw [hname]⟩⟩
  · intro c p l hl service o h
    exact shown_of_refuses p hl h

/-- Two databases with a secret in the place of the port, which is neither seen nor makes a difference. -/
theorem rejection_discreet_secret :
    let secret := databaseOnly [("hostname", .string "db"), ("port", .string "s3cret"),
      ("password", .string "s3cret")]
    let other := databaseOnly [("hostname", .string "elsewhere"), ("port", .bool true)]
    let l : Place := .labelled "mySQL" "MySQL" "p.mysql" .mySql
    let p := Platform.isolated ⟨[], []⟩ "1700000000" "2024-01-01" "id"
    let o : Objection := .unusable "port" .port
    l ∈ places ∧ l.Refuses secret "mysql" o ∧ l.Refuses other "mysql" o ∧
      Shown secret p l "mysql" o ∧ harness secret p = harness other p ∧
      (o.error "mysql").message = "Credential 'port' of service mysql is not a valid port number" := by
  intro secret other l p o
  have hl : l ∈ places := .head _
  have hrefuses : ∀ (credentials : List (String × Json.Value)) (host : String) (v : Json.Value),
      let b : Binding := ⟨"mysql", "p.mysql", [], credentials, []⟩
      b.credential? "hostname" = some (.string host) → b.credential? "port" = some v →
      ¬ Kind.port.Usable v → l.Refuses (databaseOnly credentials) "mysql" o := by
    intro credentials host v b hhost hport hbad
    refine ⟨b, _, rfl, rfl, rfl, .later ?_ (.here (.unusable hport hbad))⟩
    intro o' hfails
    exact ((fails_credential hhost).mp hfails).1 (.text host)
  have hsecret : l.Refuses secret "mysql" o := by
    refine hrefuses _ "db" (.string "s3cret") rfl rfl fun h => ?_
    cases h with
    | port hs hle =>
      have hport : portOf? (.string "s3cret") = none := by decide
      rw [portOf?_eq_some.mpr ⟨hs, hle⟩] at hport
      cases hport
  have hother : l.Refuses other "mysql" o := by
    refine hrefuses _ "elsewhere" (.bool true) rfl rfl fun h => ?_
    cases h with
    | port hs _ => cases hs
  have hindistinct : Indistinct secret other := by
    refine ⟨rfl, List.forall_mem_cons.mpr ⟨.inr ⟨_, o, hsecret, hother⟩, ?_⟩⟩
    intro l' hl'
    refine .inl ?_
    simp only [List.mem_cons, List.not_mem_nil, or_false] at hl'
    obtain hl' | hl' | hl' | hl' | hl' | hl' | hl' | hl' | hl' := hl' <;> subst hl' <;> rfl
  obtain ⟨-, -, hshown, hsame⟩ := rejection_discreet
  exact ⟨hl, hsecret, hother, hshown secret p l hl "mysql" o hsecret, (hsame _ _ p hindistinct).1, rfl⟩

end Checkup.Registry
