import Checkup.Proofs.Broker.RoundTrip
import Checkup.Proofs.Script.Verdict
import Checkup.Registry

/-!
# The trees of the battery

Whatever the platform replies, the node of each probe that the registry puts into a battery is a built
tree. There is one lemma for each check, which follows its script; the leaves that the broker's listener
reports and the log of the cluster's check have contracts of their own.

Results:
* `listen_promises`: the listener of a broker reports built trees only.
* `Work.Sound` and its rules, for the check of a cluster.
* `builds_probes`: the node of each probe of a battery is a built tree.
-/
namespace Checkup

open Script

/-! ## Probes that contact nobody -/

theorem Presence.builds_probe {ε : Type} (siteType site : Option String) :
    (Presence.probe siteType site : Probe ε).Builds :=
  Probe.builds_deaf _ _ (Timed.promises_pure (.withKey _ (.pass _)))

theorem Misconfiguration.builds_probe {ε : Type} (key name step error : String) :
    (Misconfiguration.probe key name step error : Probe ε).Builds := by
  refine Probe.builds_deaf _ _ (Timed.promises_pure (.aggregate fun leaf hleaf => ?_))
  cases List.mem_singleton.mp hleaf
  exact .fail step error

theorem FileShare.builds_probe {ε : Type} (s : FileShare) (timestamp : String)
    (fs : Files.FileSystem) : (s.probe timestamp fs : Probe ε).Builds := by
  have hlog : (s.run timestamp fs).1.Built := by
    unfold FileShare.run
    cases s.path? with
    | none => exact StepLog.built_empty.record (.fail _ _)
    | some path =>
      dsimp only
      unfold FileShare.exercise
      cases fs.write path (contentAt timestamp) with
      | error e => exact StepLog.built_empty.settle _ _
      | ok fs' => exact (StepLog.built_empty.settle _ _).settle _ _
  exact Probe.builds_deaf _ _ (Timed.promises_pure (hlog.finish s.key s.name))

/-! ## Scripts -/

namespace Database

theorem sound_exercise (d : Dialect) (db : Service) : (exercise d db).Sound := by
  unfold exercise
  refine (sound_step _ _).bind fun _ => ?_
  refine (sound_step _ _).bind fun _ => ?_
  refine (sound_step _ _).bind fun _ => ?_
  refine (sound_step _ _).bind fun _ => ?_
  exact sound_pure ()

theorem builds_probe (key name : String) (d : Dialect) (limit : Span) (db : Service) :
    (probe key name d limit db).Builds := by
  have hscript : (script d limit db).Sound := by
    unfold script
    refine (sound_step _ _).bind fun _ => ?_
    refine (sound_exercise d db).attempt.bind fun _ => ?_
    refine (sound_act _).bind fun _ => ?_
    exact sound_pure ()
  exact Probe.builds_deaf key name (hscript.node key name)

end Database

theorem Cache.builds_probe (key name : String) (s : Settings) (identifier timestamp : String)
    (cache : Service) : (probe key name s identifier timestamp cache).Builds := by
  have hscript : (script s (testKey identifier) timestamp cache).Sound := by
    unfold script
    refine (sound_step _ _).bind fun _ => ?_
    refine (sound_step _ _).bind fun reply => ?_
    refine (sound_step _ _).bind fun _ => ?_
    refine (sound_step _ _).bind fun _ => ?_
    refine (sound_step _ _).attempt.bind fun _ => ?_
    refine (sound_step _ _).bind fun _ => ?_
    exact sound_pure ()
  exact Probe.builds_deaf key name (hscript.node key name)

theorem ObjectStore.builds_probe (date : String) (store : Service) : (probe date store).Builds := by
  have hscript : (script (bodyAt date) store).Sound := by
    unfold script
    refine (sound_step _ _).bind fun _ => ?_
    refine (sound_step _ _).attempt.bind fun _ => ?_
    exact sound_step _ _
  exact Probe.builds_deaf key name (hscript.node key name)

namespace Identity

variable {ε : Type}

theorem sound_creationStep {α : Type} (label : String) (x : Timed ε (Except Fault (Creation α))) :
    (creationStep label x).Sound := by
  intro log hlog
  refine Timed.Promises.bind (Timed.returns_any x) fun outcome _ => Timed.promises_pure ?_
  unfold settleCreation
  split
  · -- What existed already is a passed leaf that shows the conflict.
    exact hlog.record (.withStatusCode _ (.pass label))
  · exact hlog.settle label _

theorem sound_userOf (p : Provider ε) (token : String) (c : Creation User) :
    (userOf p token c).Sound := by
  cases c with
  | created user => exact sound_pure user
  | existed => exact sound_step _ _

theorem sound_exercise (p : Provider ε) (token : String) (user : User) :
    (exercise p token user).Sound := by
  unfold exercise
  refine (sound_step _ _).bind fun groups => ?_
  cases groups.find? (·.displayName == testGroup) with
  | none =>
    refine (sound_fail _ _).bind fun _ => ?_
    refine (sound_step _ _).bind fun _ => ?_
    exact (sound_step _ _).bind fun _ => sound_pure ()
  | some group =>
    refine (sound_creationStep _ _).bind fun _ => ?_
    refine (sound_step _ _).bind fun _ => ?_
    exact (sound_step _ _).bind fun _ => sound_pure ()

theorem builds_probe (p : Provider ε) : (probe p).Builds := by
  have hscript : (script p).Sound := by
    unfold script
    refine (sound_step _ _).bind fun token => ?_
    refine (sound_creationStep _ _).bind fun creation => ?_
    refine (sound_userOf p token creation).bind fun user => ?_
    refine (sound_exercise p token user).attempt.bind fun _ => ?_
    exact sound_step _ _
  exact Probe.builds_deaf key name (hscript.node key name)

end Identity

/-! ## The broker -/

namespace Broker

/-- If the event reports a leaf, that is a built tree. -/
def ListenerEvent.Sound (event : ListenerEvent) : Prop :=
  ∀ leaf, event.leaf? = some leaf → leaf.Built

theorem reported_promises {α : Type} (label : String) {x : Timed ListenerEvent (Except Fault α)}
    (hx : x.Promises ListenerEvent.Sound fun _ => True) :
    (reported label x).run.Promises ListenerEvent.Sound fun _ => True := by
  refine Timed.Promises.bind hx fun outcome _ => ?_
  rw [StepLog.settle_eq]
  have hemit : (Timed.emit (.report (.ofOutcome label outcome))).Promises ListenerEvent.Sound
      fun _ => True := by
    refine Timed.promises_emit fun leaf hleaf => ?_
    cases hleaf
    exact Node.built_ofOutcome label outcome
  refine Timed.Promises.bind (P := fun _ => True) ?_ fun _ _ => Timed.promises_pure trivial
  exact hemit.bind fun _ _ => Timed.promises_pure trivial

theorem sound_call (c : ListenerCall) : (ListenerEvent.call c).Sound := nofun

theorem listen_promises (b : Service) (limit : Span) (expected : String) :
    (listen b limit expected).Promises ListenerEvent.Sound fun _ => True := by
  have hcheck : (checkMessage limit expected <$>
      Timed.within limit (Timed.call (.call .next) (b.next (askedAt b)))).Promises
        ListenerEvent.Sound fun _ => True := by
    rw [Timed.within_call]
    exact Timed.promises_call (sound_call .next)
  unfold listen
  refine Timed.Promises.bind (reported_promises _ (Timed.promises_call (sound_call _))) ?_
  rintro opened -
  cases opened with
  | none => exact Timed.promises_pure trivial
  | some _ =>
    refine Timed.Promises.bind (P := fun _ => True) ?_ fun _ _ =>
      (Timed.promises_call (sound_call _)).bind fun _ _ => Timed.promises_pure trivial
    -- The message is looked at only once the consumer has begun.
    refine Timed.Promises.bind (reported_promises _ (Timed.promises_call (sound_call _))) ?_
    rintro consuming -
    cases consuming with
    | none => exact Timed.promises_pure trivial
    | some _ => exact reported_promises _ hcheck

theorem built_reports (b : Service) (limit : Span) (body : String) :
    ∀ leaf ∈ reports (listen b limit body .never).calls, leaf.Built := by
  intro leaf hleaf
  rw [reports_eq, leavesIn, List.mem_filterMap] at hleaf
  obtain ⟨event, hevent, hleaf⟩ := hleaf
  exact (listen_promises b limit body .never).1 event hevent leaf hleaf

theorem collect_returns (b : Service) (limit : Span) (body : String) (published : Nat)
    {log : StepLog} (hlog : log.Built) :
    (collect b limit body published log).Returns StepLog.Built := by
  have hreported := hlog.append (built_reports b limit body)
  intro tok
  refine ⟨fun _ _ => trivial, fun t tok' log' h => ?_⟩
  unfold collect at h
  dsimp only at h
  cases hend : (listen b limit body .never).ending with
  | returned u tok₂ v =>
    rw [hend] at h
    cases h
    exact hreported
  | panicked u q =>
    rw [hend] at h
    cases h
    exact hreported.record (.fail _ _)
  | never => rw [hend] at h; cases h

theorem sound_exchange (b : Service) (limit : Span) (body : String) :
    (exchange b limit body).Sound := by
  intro log hlog tok
  refine ⟨fun _ _ => trivial, fun t tok' r h => ?_⟩
  cases hpub : b.publish with
  | answers d result =>
    cases result with
    | error e =>
      rw [exchange_refused hpub log tok] at h
      cases h
      exact hlog.record (Node.built_ofFault _ e)
    | ok v =>
      simp only [exchange, OptionT.run, OptionT.mk, call, Timed.call, Timed.await, hpub] at h
      have hcollect := collect_returns b limit body d (hlog.settle "Publish message" (.ok ())) tok
      cases hend : (collect b limit body d (log.settle "Publish message" (.ok ())).2 tok).ending with
      | returned u tok₂ log' =>
        rw [hend] at h
        cases h
        exact hcollect.2 _ _ log' hend
      | panicked u q => rw [hend] at h; cases h
      | never => rw [hend] at h; cases h
  | panics d q =>
    simp only [exchange, OptionT.run, OptionT.mk, call, Timed.call, Timed.await, hpub] at h
    cases h
  | hangs =>
    simp only [exchange, OptionT.run, OptionT.mk, call, Timed.call, Timed.await, hpub] at h
    cases h

theorem sound_exercise (b : Service) (limit : Span) (body : String) :
    (exercise b limit body).Sound := by
  unfold exercise
  refine (sound_step _ _).bind fun _ => ?_
  refine ((sound_step _ _).bind fun _ => sound_exchange b limit body).attempt.bind fun _ => ?_
  exact (sound_act _).bind fun _ => sound_pure ()

theorem builds_probe (key name : String) (s : Settings) (limit : Span) (timestamp : String)
    (b : Service) : (probe key name s limit timestamp b).Builds := by
  have hscript : (script s limit timestamp b).Sound := by
    unfold script
    refine (sound_step _ _).bind fun _ => ?_
    refine (sound_exercise b limit timestamp).attempt.bind fun _ => ?_
    exact (sound_act _).bind fun _ => sound_pure ()
  exact Probe.builds_deaf key name (hscript.node key name)

end Broker

/-! ## The cluster -/

namespace Cluster

variable {α β : Type}

/-- The part of the check leaves a log of built trees if it finds one. -/
def Work.Sound (w : Work α) : Prop := ∀ s, s.log.Built → (w s).Returns fun r => r.2.log.Built

theorem Work.sound_pure (v : α) : Work.Sound (pure v : Work α) :=
  fun _ hs => Timed.promises_pure hs

theorem Work.Sound.bind {w : Work α} {f : α → Work β} (hw : w.Sound) (hf : ∀ v, (f v).Sound) :
    Work.Sound (w >>= f) :=
  fun s hs => Timed.Promises.bind (hw s hs) fun r hr => hf r.1 r.2 hr

theorem Work.sound_lift (x : Timed Call α) : Work.Sound (StateT.lift x : Work α) :=
  fun _ hs => Timed.Promises.bind (Timed.returns_any x) fun _ _ => Timed.promises_pure hs

theorem Work.sound_get : Work.Sound (get : Work Progress) := fun _ hs => Timed.promises_pure hs

theorem Work.sound_step (label : String) (x : Timed Call (Except Fault α)) :
    Work.Sound (step label x) :=
  fun _ hs => Timed.Promises.bind (Timed.returns_any x) fun r _ =>
    Timed.promises_pure (hs.settle label r)

theorem sound_create (svc : Service) (r : Resource) : Work.Sound (create svc r) := by
  unfold create
  refine Work.Sound.bind (fun s hs => Timed.promises_pure hs) fun _ => ?_
  exact (Work.sound_step _ _).bind fun _ => Work.sound_pure _

theorem sound_createAll (svc : Service) (rs : List Resource) : Work.Sound (createAll svc rs) := by
  induction rs with
  | nil => exact Work.sound_pure true
  | cons r rest ih =>
    unfold createAll
    refine (sound_create svc r).bind fun ok => ?_
    cases ok with
    | false => exact Work.sound_pure false
    | true => exact ih

theorem sound_provision (svc : Service) (s : Settings) (random : Nat → Nat) :
    Work.Sound (provision svc s random) := by
  unfold provision
  refine (sound_createAll svc s.resources).bind fun ok => ?_
  cases ok with
  | false => exact Work.sound_pure false
  | true => exact (Work.sound_step _ _).bind fun _ => Work.sound_pure _

theorem sound_testHosts (svc : Service) (s : Settings) (rules : List IngressRule)
    (requested : List String) : Work.Sound (testHosts svc s rules requested) := by
  induction rules generalizing requested with
  | nil => exact Work.sound_pure ()
  | cons rule rest ih =>
    unfold testHosts
    refine (Work.sound_lift _).bind fun cancelled => ?_
    cases cancelled with
    | true => exact Work.sound_pure ()
    | false =>
      refine (Work.sound_lift _).bind fun tested => ?_
      exact (Work.sound_step _ _).bind fun _ => ih tested.2

theorem sound_tearDown (svc : Service) (rs : List Resource) : Work.Sound (tearDown svc rs) := by
  induction rs with
  | nil => exact Work.sound_pure ()
  | cons r rest ih =>
    unfold tearDown
    exact (Work.sound_step _ _).bind fun _ => ih

theorem builds_probe (s : Settings) (svc : Service) (random : Nat → Nat) :
    (probe s svc random).Builds := by
  have hcheck : Work.Sound (check svc s random) := by
    unfold check
    refine (sound_provision svc s random).bind fun ok => ?_
    have hteardown : Work.Sound (get >>= fun progress => tearDown svc progress.teardown) :=
      Work.sound_get.bind fun progress => sound_tearDown svc progress.teardown
    cases ok with
    | false => exact hteardown
    | true => exact (sound_testHosts svc s s.ingresses []).bind fun _ => hteardown
  exact Timed.Promises.bind (hcheck ⟨.empty, []⟩ StepLog.built_empty) fun r hr =>
    Timed.promises_pure (hr.finish key name)

end Cluster

/-! ## The battery -/

namespace Registration

/-- The probe of the registration builds its node, whatever file system it finds. -/
def Builds (r : Registration) : Prop := ∀ fs, (r.probe fs).Builds

theorem builds_ofProbe {p : Probe Call} (h : p.Builds) : (ofProbe p).Builds := fun _ => h

theorem builds_ofShare (s : FileShare) (timestamp : String) : (ofShare s timestamp).Builds :=
  FileShare.builds_probe s timestamp

theorem builds_unusable (key name step error : String) : (unusable key name step error).Builds :=
  builds_ofProbe (Misconfiguration.builds_probe key name step error)

theorem builds_assemble {rs : List Registration} (h : ∀ r ∈ rs, r.Builds) (fs : Files.FileSystem) :
    ∀ p ∈ assemble fs rs, p.Builds := by
  induction rs generalizing fs with
  | nil => exact fun p hp => nomatch hp
  | cons r rest ih =>
    intro p hp
    rcases List.mem_cons.mp hp with rfl | hp
    · exact h r List.mem_cons_self fs
    · exact ih (fun r' hr' => h r' (List.mem_cons_of_mem _ hr')) _ p hp

end Registration

namespace Registry

/-- The registration of a bound service, with its settings or without. -/
theorem builds_bound {α : Type} {key name : String} {binding : Option Binding}
    {read : Binding → Except BindingError α} {build : α → Registration}
    (h : ∀ settings, (build settings).Builds) :
    ∀ r ∈ bound key name binding read build, r.Builds := by
  intro r hr
  unfold bound at hr
  cases binding with
  | none => cases hr
  | some b =>
    dsimp only at hr
    cases hread : read b with
    | ok settings =>
      rw [hread] at hr
      cases List.mem_singleton.mp hr
      exact h settings
    | error e =>
      rw [hread] at hr
      cases List.mem_singleton.mp hr
      exact Registration.builds_unusable _ _ _ _

theorem builds_cluster (c : Config) (p : Platform) : ∀ r ∈ cluster c p, r.Builds := by
  intro r hr
  unfold cluster at hr
  cases hc : c.cluster with
  | none => rw [hc] at hr; cases hr
  | some k =>
    rw [hc] at hr
    dsimp only at hr
    cases hload : Cluster.Kubeconfig.load p.files k.kubeconfig k.clusterNamespace with
    | ok access =>
      rw [hload] at hr
      cases List.mem_singleton.mp hr
      exact Registration.builds_ofProbe ((Cluster.builds_probe _ _ _).mapCalls _)
    | error e =>
      rw [hload] at hr
      cases List.mem_singleton.mp hr
      exact Registration.builds_unusable _ _ _ _

theorem builds_registrations (c : Config) (p : Platform) : ∀ r ∈ registrations c p, r.Builds := by
  have hdatabase : ∀ label key name read, ∀ r ∈ database c p label key name read, r.Builds :=
    fun _ _ _ _ => builds_bound fun _ =>
      Registration.builds_ofProbe ((Database.builds_probe _ _ _ _ _).mapCalls _)
  have hbroker : ∀ label name, ∀ r ∈ broker c p label name, r.Builds :=
    fun _ _ => builds_bound fun _ =>
      Registration.builds_ofProbe ((Broker.builds_probe _ _ _ _ _ _).mapCalls _)
  have hcache : ∀ label name, ∀ r ∈ cache c p label name, r.Builds :=
    fun _ _ => builds_bound fun _ =>
      Registration.builds_ofProbe ((Cache.builds_probe _ _ _ _ _ _).mapCalls _)
  have hshare : ∀ key name binding file, ∀ r ∈ share p key name binding file, r.Builds :=
    fun _ _ _ _ => builds_bound fun _ => Registration.builds_ofShare _ _
  have hstore : ∀ r ∈ objectStore c p, r.Builds :=
    builds_bound fun _ => Registration.builds_ofProbe ((ObjectStore.builds_probe _ _).mapCalls _)
  have hidentity : ∀ r ∈ identity c p, r.Builds := by
    unfold identity
    cases c.redirectUrl with
    | none => exact fun r hr => nomatch hr
    | some url =>
      exact builds_bound fun _ => Registration.builds_ofProbe ((Identity.builds_probe _).mapCalls _)
  intro r hr
  simp only [registrations, List.mem_append, List.mem_flatMap, List.mem_singleton, or_assoc] at hr
  rcases hr with rfl | hr | ⟨b, -, hr⟩ | ⟨b, -, hr⟩ | hr | ⟨volume, -, hr⟩ | hr | hr | hr
  · exact Registration.builds_ofProbe (Presence.builds_probe _ _)
  · exact hdatabase _ _ _ _ r hr
  · exact hbroker _ _ r hr
  · exact hcache _ _ r hr
  · exact hdatabase _ _ _ _ r hr
  · exact hshare _ _ _ _ r hr
  · exact hstore r hr
  · exact hidentity r hr
  · exact builds_cluster c p r hr

/-- The node of each probe of a battery is a built tree. -/
theorem builds_probes (c : Config) (p : Platform) : ∀ q ∈ probes c p, q.Builds :=
  Registration.builds_assemble (builds_registrations c p) p.files

end Registry
end Checkup
