import Checkup.Proofs.Cluster.Manifest
import Checkup.Proofs.Timed.Reaches
import Checkup.Proofs.Wait.Polls
import Checkup.Proofs.Wait.Resolution

/-!
# What one run deploys

The resources whose creation a run attempts are the first ones of the check, so their manifests fit
together; and whatever the run waits for is the deployment among them, with the number of replicas that
its manifest asks for. This is said of every course of a run: calls may fail, panic or hang, and the token
may fire at any time.

Results:
* `createAll_reaches`: the resources that are attempted are the first ones.
* `rollout_promises`, `testHosts_promises` and `tearDown_promises`: what the other parts of a check call.
* `probe_works`: the calls of a whole run.
* `manifests_faithful`: what that means for the documents, with what a manifest tells of its resource.
-/
namespace Checkup.Cluster

/-! ## Contracts of the parts of a check -/

namespace Work

variable {α β : Type} {p : Progress} {B : List Call → Prop} {Q : List Call → β → Progress → Prop}

/-- From a progress on, what the part of the check has called if it does not return, and what if it
does. -/
def Reaches (m : Work α) (p : Progress) (B : List Call → Prop)
    (Q : List Call → α → Progress → Prop) : Prop :=
  (m p).Reaches B fun es v => Q es v.1 v.2

theorem Reaches.mono {m : Work α} {B' : List Call → Prop} {P P' : List Call → α → Progress → Prop}
    (h : Reaches m p B P) (hB : ∀ es, B es → B' es) (hP : ∀ es v p', P es v p' → P' es v p') :
    Reaches m p B' P' :=
  Timed.Reaches.mono h hB fun es v => hP es v.1 v.2

theorem reaches_pure {v : β} (h : Q [] v p) : Reaches (pure v) p B Q :=
  Timed.reaches_pure h

theorem Reaches.bind {m : Work α} {f : α → Work β} {B' : List Call → Prop}
    {P : List Call → α → Progress → Prop} (hm : Reaches m p B' P) (hB : ∀ es, B' es → B es)
    (hf : ∀ es v p', P es v p' →
      Reaches (f v) p' (fun es' => B (es ++ es')) fun es' w p'' => Q (es ++ es') w p'') :
    Reaches (m >>= f) p B Q :=
  Timed.Reaches.bind hm hB fun es v hv => hf es v.1 v.2 hv

theorem reaches_modify (f : Progress → Progress) :
    Reaches (modify f) p B fun es _ p' => es = [] ∧ p' = f p :=
  Timed.reaches_pure ⟨rfl, rfl⟩

/-- Wherever the check stands, each call of the part has a property. -/
def Promises (m : Work α) (P : Call → Prop) : Prop := ∀ p, (m p).Promises P fun _ => True

section
variable {P : Call → Prop}

theorem promises_pure (v : α) : Promises (pure v) P := fun _ => Timed.promises_pure trivial

theorem Promises.bind {m : Work α} {f : α → Work β} (hm : Promises m P) (hf : ∀ v, Promises (f v) P) :
    Promises (m >>= f) P :=
  fun p => Timed.Promises.bind (hm p) fun v _ => hf v.1 v.2

theorem promises_lift {x : Timed Call α} (h : x.Promises P fun _ => True) :
    Promises (StateT.lift x) P :=
  fun _ => Timed.Promises.bind h fun _ _ => Timed.promises_pure trivial

theorem promises_get : Promises get P := fun _ => Timed.promises_pure trivial

end

end Work

section
variable {α : Type} {svc : Service} {s : Settings}

/-- A step leaves the stack alone. -/
theorem step_reaches {label : String} {x : Timed Call (Except Fault α)} {B : List Call → Prop}
    {P : List Call → Except Fault α → Prop} (h : x.Reaches B P) (p : Progress) :
    Work.Reaches (step label x) p B fun es _ p' => p'.teardown = p.teardown ∧ ∃ r, P es r := by
  refine Timed.Reaches.bind h (fun _ => id) fun es r hr => Timed.reaches_pure ?_
  rw [List.append_nil]
  exact ⟨rfl, r, hr⟩

/-- A resource is on the stack before its creation is attempted. -/
theorem create_reaches (r : Resource) (p : Progress) :
    Work.Reaches (create svc r) p (· = [.create r]) fun es _ p' =>
      es = [.create r] ∧ p'.teardown = r :: p.teardown := by
  have hcall : (Timed.call (.create r) (svc.create r)).Reaches (· = [Call.create r]) fun es _ =>
      es = [.create r] :=
    Timed.reaches_call rfl fun _ => rfl
  refine (Work.reaches_modify _).bind (fun _ => id) fun es _ p' h => ?_
  obtain ⟨rfl, rfl⟩ := h
  refine (step_reaches hcall _).bind (fun _ => id) fun es _ p' h => ?_
  obtain ⟨htear, -, rfl⟩ := h
  exact Work.reaches_pure ⟨rfl, htear⟩

/-- Wherever the creation of some resources stops, a first part of them was attempted, and all of them if
none failed. -/
theorem createAll_reaches (rs : List Resource) (p : Progress) :
    Work.Reaches (createAll svc rs) p
      (fun es => ∃ cs, cs <+: rs ∧ cs ≠ [] ∧ es = cs.map .create)
      fun es ok p' => ∃ cs, cs <+: rs ∧ (rs ≠ [] → cs ≠ []) ∧ (ok = true → cs = rs) ∧
        es = cs.map .create ∧ p'.teardown = cs.reverse ++ p.teardown := by
  induction rs generalizing p with
  | nil =>
    exact Work.reaches_pure ⟨[], List.prefix_refl _, fun h => absurd rfl h, fun _ => rfl, rfl, rfl⟩
  | cons r rest ih =>
    have hone : [r] <+: r :: rest := ⟨rest, rfl⟩
    refine (create_reaches r p).bind ?_ fun es ok p' h => ?_
    · intro es hes
      exact ⟨[r], hone, List.cons_ne_nil _ _, hes⟩
    · obtain ⟨rfl, htear⟩ := h
      cases ok with
      | false =>
        exact Work.reaches_pure ⟨[r], hone, fun _ => List.cons_ne_nil _ _, nofun, rfl, htear⟩
      | true =>
        refine (ih p').mono ?_ ?_
        · intro es ⟨cs, hcs, _, hes⟩
          refine ⟨r :: cs, List.cons_prefix_cons.mpr ⟨rfl, hcs⟩, List.cons_ne_nil _ _, ?_⟩
          rw [hes]
          rfl
        · intro es ok p'' ⟨cs, hcs, _, hall, hes, htear'⟩
          subst hes
          refine ⟨r :: cs, List.cons_prefix_cons.mpr ⟨rfl, hcs⟩, fun _ => List.cons_ne_nil _ _,
            fun hok => by rw [hall hok], rfl, ?_⟩
          rw [htear', htear, List.reverse_cons, List.append_assoc, List.singleton_append]

/-- What is called while a host is requested are requests. -/
theorem requestsFrom_promises {P : Call → Prop} (hP : ∀ url, P (.get url)) (url : String)
    (left completed : Nat) (last : String) (requested : List String) :
    (requestsFrom svc s url left completed last requested).Promises P fun _ => True := by
  induction left generalizing completed last requested with
  | zero => exact Timed.promises_pure trivial
  | succ left ih =>
    have hcall : (Timed.call (Call.get url) (svc.status requested url)).Promises P
        fun _ => True := Timed.promises_call (hP url)
    refine hcall.unlessCancelled.bind fun outcome _ => ?_
    split
    · exact Timed.promises_pure trivial
    · exact Timed.promises_pure trivial
    · split
      · exact Timed.promises_pure trivial
      · have hpause : (Timed.sleep s.reachInterval.ticks : Timed Call Unit).Promises P
            fun _ => True := fun _ => ⟨nofun, fun _ _ _ _ => trivial⟩
        refine hpause.unlessCancelled.bind fun slept _ => ?_
        split
        · exact Timed.promises_pure trivial
        · exact ih _ _ _

theorem step_promises {P : Call → Prop} {label : String} {x : Timed Call (Except Fault α)}
    (h : x.Promises P fun _ => True) : Work.Promises (step label x) P :=
  fun _ => Timed.Promises.bind h fun _ _ => Timed.promises_pure trivial

/-- The call is a request or a deletion. -/
def Call.Late : Call → Prop
  | .get _ | .delete _ => True
  | .create _ | .fetch _ => False

theorem testHosts_promises (rules : List IngressRule) (requested : List String) :
    Work.Promises (testHosts svc s rules requested) Call.Late := by
  induction rules generalizing requested with
  | nil => exact Work.promises_pure _
  | cons rule rest ih =>
    have hcancelled : (Timed.isCancelled : Timed Call Bool).Promises Call.Late fun _ => True :=
      fun _ => ⟨nofun, fun _ _ _ _ => trivial⟩
    refine (Work.promises_lift hcancelled).bind fun cancelled => ?_
    split
    · exact Work.promises_pure _
    · have htest : (testConnection svc s rule.host requested).Promises Call.Late fun _ => True :=
        requestsFrom_promises (fun _ => trivial) _ _ _ _ _
      refine (Work.promises_lift htest).bind fun tested => ?_
      refine (step_promises (Timed.promises_pure trivial)).bind fun _ => ?_
      exact ih tested.2

theorem tearDown_promises (rs : List Resource) : Work.Promises (tearDown svc rs) Call.Late := by
  induction rs with
  | nil => exact Work.promises_pure _
  | cons r rest ih =>
    have hcall : (Timed.call (Call.delete r) (svc.delete r)).Promises Call.Late fun _ => True :=
      Timed.promises_call trivial
    exact (step_promises hcall).bind fun _ => ih

/-! ## A whole run -/

/-- The wait of a check resolves to the condition on its deployment, if at all. -/
theorem rollout_resolve {c : Condition} (h : s.rollout.resolve = .ok c) :
    c = .readyReplicas deploymentName replicas := by
  obtain ⟨-, -, hasks⟩ := WaitSpec.resolve_eq_ok.mp h
  cases hasks
  rfl

/-- What a call behind the creation of some resources may be: if it is a fetch, all resources of the check
were created, and it is for the condition on the deployment. -/
def Call.Follows (s : Settings) (cs : List Resource) : Call → Prop
  | .create _ => False
  | .fetch f => cs = s.resources ∧ f = .workload deploymentName ∧
      s.rollout.resolve = .ok (.readyReplicas deploymentName replicas)
  | .delete _ | .get _ => True

/-- These calls are attempts to create the first resources of a check, and others that may follow them. -/
def Works (s : Settings) (es : List Call) : Prop :=
  ∃ cs rest, cs <+: s.resources ∧ cs ≠ [] ∧ es = cs.map .create ++ rest ∧ ∀ e ∈ rest, e.Follows s cs

theorem Works.append {es es' : List Call} (h : Works s es) (hes' : ∀ e ∈ es', e.Late) :
    Works s (es ++ es') := by
  obtain ⟨cs, rest, hcs, hne, hes, hrest⟩ := h
  refine ⟨cs, rest ++ es', hcs, hne, by rw [hes, List.append_assoc], fun e he => ?_⟩
  obtain he | he := List.mem_append.mp he
  · exact hrest e he
  · have hlate := hes' e he
    cases e with
    | create => cases hlate
    | fetch => cases hlate
    | delete => trivial
    | get => trivial

/-- The wait of a check fetches the deployment only, and only if its condition makes sense. -/
theorem rollout_promises (random : Nat → Nat) :
    ((s.rollout.wait svc.states random).mapCalls Call.fetch).Promises (Call.Follows s s.resources)
      fun _ => True := by
  refine Timed.Promises.mapCalls fun tok => ⟨fun f hf => ?_, fun _ _ _ _ => trivial⟩
  unfold WaitSpec.wait WaitSpec.waitOn at hf
  split at hf
  · cases hf
  · rename_i c hc
    have hcondition := rollout_resolve hc
    subst hcondition
    split at hf
    · obtain ⟨call, hcall, hf⟩ := List.mem_map.mp hf
      obtain ⟨k, hk⟩ := List.mem_iff_getElem?.mp hcall
      have hfetch := (Wait.mem_pollFrom hk).1
      exact ⟨rfl, hf.symm.trans hfetch, hc⟩
    · cases hf

theorem waitStep_promises (random : Nat → Nat) :
    Timed.Promises (do
      let outcome ← (s.rollout.wait svc.states random).mapCalls Call.fetch
      return outcome.mapError fun e => Fault.message e.message)
      (Call.Follows s s.resources) fun _ => True :=
  (rollout_promises random).bind fun _ _ => Timed.promises_pure trivial

theorem provision_reaches (random : Nat → Nat) (p : Progress) :
    Work.Reaches (provision svc s random) p (Works s) fun es _ _ => Works s es := by
  refine (createAll_reaches s.resources p).bind ?_ fun es ok p' h => ?_
  · intro es ⟨cs, hcs, hne, hes⟩
    exact ⟨cs, [], hcs, hne, by rw [hes, List.append_nil], nofun⟩
  · obtain ⟨cs, hcs, hne, hall, hes, -⟩ := h
    subst hes
    have hne' : cs ≠ [] := hne (List.cons_ne_nil _ _)
    cases ok with
    | false => exact Work.reaches_pure ⟨cs, [], hcs, hne', rfl, nofun⟩
    | true =>
      have hcs' := hall rfl
      subst hcs'
      have hworks : ∀ es, (∀ e ∈ es, e.Follows s s.resources) →
          Works s (s.resources.map .create ++ es) := fun es hes =>
        ⟨s.resources, es, hcs, hne', rfl, hes⟩
      refine (step_reaches (waitStep_promises random).reaches p').bind hworks fun es v p'' h => ?_
      obtain ⟨-, _, hes, -⟩ := h
      refine Work.reaches_pure ?_
      rw [List.append_nil]
      exact hworks es hes

theorem check_works (random : Nat → Nat) (p : Progress) :
    Work.Reaches (check svc s random) p (Works s) fun es _ _ => Works s es := by
  refine (provision_reaches random p).bind (fun _ => id) fun es ready p' h => ?_
  have hend : Work.Promises (do tearDown svc (← get).teardown) Call.Late :=
    Work.promises_get.bind fun progress => tearDown_promises progress.teardown
  have hrest : ∀ {m : Work Unit}, Work.Promises m Call.Late →
      Work.Reaches m p' (fun es' => Works s (es ++ es')) fun es' _ _ => Works s (es ++ es') :=
    fun hm => (hm p').reaches.mono (fun _ hes' => h.append hes') fun _ _ hes' => h.append hes'.1
  cases ready with
  | false => exact hrest hend
  | true => exact hrest ((testHosts_promises _ _).bind fun _ => hend)

/-- Whatever the cluster and the hosts do, and whenever the token fires, these are the calls of a run. -/
theorem probe_works (svc : Service) (s : Settings) (random : Nat → Nat) (tok : Token) :
    Works s ((probe s svc random).run tok).called := by
  have hrun : (probe s svc random).run.Reaches (Works s) fun es _ => Works s es :=
    Timed.Reaches.bind (check_works random ⟨.empty, []⟩) (fun _ => id) fun es v h =>
      Timed.reaches_pure (by rw [List.append_nil]; exact h)
  exact hrun.called tok

end

/-! ## The documents of a run -/

/-- The resource whose creation a call attempts. -/
def Call.created? : Call → Option Resource
  | .create r => some r
  | _ => none

/-- The resources whose creation a run attempts, and how its documents fit together. -/
structure Deployed (s : Settings) (called : List Call) (rs : List Resource) : Prop where
  created : called.filterMap Call.created? = rs
  /-- The deployment, the service and the ingresses are attempted in this order, up to some point. -/
  inOrder : rs <+: s.resources
  coherent : Coherent (rs.map Resource.manifest)
  /-- The run is to wait for its deployment to have all its replicas. -/
  awaits : Awaits (rs.map Resource.manifest) s.rollout
  /-- Whatever is fetched belongs to this wait, which begins when all resources are created. -/
  fetched : ∀ f, .fetch f ∈ called → rs = s.resources ∧ ∃ d ∈ rs.map Resource.manifest,
    OfKind "Deployment" d ∧ ∃ name n, nameOf d = [.string name] ∧ replicasOf d = [intJson n] ∧
      f = .workload name ∧ s.rollout.resolve = .ok (.readyReplicas name n)

theorem Works.deployed {s : Settings} {es : List Call} (h : Works s es) : ∃ rs, Deployed s es rs := by
  obtain ⟨cs, rest, hcs, hne, hes, hrest⟩ := h
  subst hes
  have hattempts : (cs.map Call.create).filterMap Call.created? = cs := by
    rw [List.filterMap_map]
    exact List.filterMap_some
  have hothers : rest.filterMap Call.created? = [] := by
    refine List.filterMap_eq_nil_iff.mpr fun e he => ?_
    have hfollows := hrest e he
    cases e with
    | create => cases hfollows
    | _ => rfl
  have hawaits := awaits_of_first hcs hne
  refine ⟨cs,
    { created := by rw [List.filterMap_append, hattempts, hothers, List.append_nil]
      inOrder := hcs
      coherent := coherent_of_first hcs
      awaits := hawaits
      fetched := fun f hf => ?_ }⟩
  have hf' : .fetch f ∈ rest := by simpa using hf
  obtain ⟨hall, hf, hresolve⟩ := hrest _ hf'
  obtain ⟨d, hd, hkind, name, n, hname, hn, -, hworkload, hreplicas⟩ := hawaits
  cases hworkload
  cases hreplicas
  exact ⟨hall, d, hd, hkind, _, _, hname, hn, hf, hresolve⟩

/-- A manifest tells everything that there is to a resource, and leaves out what is empty and nothing else.
The documents that a run creates fit together wherever it stops, and what it waits for is the deployment
among them, with as many ready replicas as that asks for. -/
theorem manifests_faithful :
    Function.Injective Resource.manifest ∧
    (∀ (name : String) (rule : IngressRule) (service : String) (port : Int32),
      let document := (Resource.ingress name rule service port).manifest
      (tlsOf document = [] ↔ rule.tlsSecret = "") ∧
        (ingressClassOf document = [] ↔ rule.ingressClass = "")) ∧
    (∀ (name image : String) (n : Int32) (secret : Option String),
      pullSecrets (Resource.deployment name image n secret).manifest = [] ↔ secret = none) ∧
    ∀ (s : Settings) (svc : Service) (random : Nat → Nat) (tok : Token),
      ∃ rs, Deployed s ((probe s svc random).run tok).called rs := by
  refine ⟨manifest_injective, ?_, ?_, fun s svc random tok => (probe_works svc s random tok).deployed⟩
  · intro name rule service port
    simp [tlsOf_ingress, ingressClassOf_ingress]
  · intro name image n secret
    simp [pullSecrets_deployment]

end Checkup.Cluster
