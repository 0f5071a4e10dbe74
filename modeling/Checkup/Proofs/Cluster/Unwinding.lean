import Checkup.Proofs.Cluster.Deployment
import Checkup.Proofs.Cluster.Teardown
import Checkup.Proofs.Harness.Guarded
import Checkup.Proofs.Timed.Exits

/-!
# What a panic leaves behind

The harness catches a panic outside the check, so a call that panics ends the check where it stands: the
stack of resources to delete is lost with it. The check is described here for any cluster, any hosts and
any token; calls may panic, and they may also not come back, in which case the harness does not go on.

Results:
* `createAll_exits`, `provision_exits`, `testHosts_exits` and `tearDown_exits`: what each part of a check
  has called when it is left, by a panic or by returning.
* `probe_unwound`: what a check has created and deleted by the time at which the harness goes on, as the
  structure `Unwound`. A check that returns has deleted everything; one that panics has deleted nothing,
  unless it was a deletion that panicked.
* `teardown_skipped`: so a resource may be left behind.
-/
namespace Checkup.Cluster

/-! ## Contracts of the parts of a check -/

namespace Work

variable {α β : Type} {p : Progress} {B : List Call → Prop} {Q : List Call → β → Progress → Prop}

/-- From a progress on, what the part of the check has called when a panic breaks it off, and what when it
returns. -/
def Exits (m : Work α) (p : Progress) (B : List Call → Prop)
    (Q : List Call → α → Progress → Prop) : Prop :=
  (m p).Exits B fun es v => Q es v.1 v.2

theorem Exits.mono {m : Work α} {B' : List Call → Prop} {P P' : List Call → α → Progress → Prop}
    (h : Exits m p B P) (hB : ∀ es, B es → B' es) (hP : ∀ es v p', P es v p' → P' es v p') :
    Exits m p B' P' :=
  Timed.Exits.mono h hB fun es v => hP es v.1 v.2

theorem exits_pure {v : β} (h : Q [] v p) : Exits (pure v) p B Q :=
  Timed.exits_pure h

theorem Exits.bind {m : Work α} {f : α → Work β} {B' : List Call → Prop}
    {P : List Call → α → Progress → Prop} (hm : Exits m p B' P) (hB : ∀ es, B' es → B es)
    (hf : ∀ es v p', P es v p' →
      Exits (f v) p' (fun es' => B (es ++ es')) fun es' w p'' => Q (es ++ es') w p'') :
    Exits (m >>= f) p B Q :=
  Timed.Exits.bind hm hB fun es v hv => hf es v.1 v.2 hv

/-- Work that is done outside the log and the stack. -/
theorem exits_lift {x : Timed Call α} {P : List Call → α → Prop} (h : x.Exits B P) :
    Exits (StateT.lift x) p B fun es v p' => P es v ∧ p' = p := by
  refine Timed.Exits.bind h (fun _ => id) fun es v hv => Timed.exits_pure ?_
  rw [List.append_nil]
  exact ⟨hv, rfl⟩

theorem exits_get : Exits get p B fun es v p' => es = [] ∧ v = p ∧ p' = p :=
  Timed.exits_pure ⟨rfl, rfl, rfl⟩

end Work

section
variable {α : Type} {svc : Service} {s : Settings}

/-- A step leaves the stack alone. -/
theorem step_exits {label : String} {x : Timed Call (Except Fault α)} {B : List Call → Prop}
    {P : List Call → Except Fault α → Prop} (h : x.Exits B P) (p : Progress) :
    Work.Exits (step label x) p B fun es _ p' => p'.teardown = p.teardown ∧ ∃ r, P es r := by
  refine Timed.Exits.bind h (fun _ => id) fun es r hr => Timed.exits_pure ?_
  rw [List.append_nil]
  exact ⟨rfl, r, hr⟩

/-- Whichever way the creation of some resources is left, a first part of them was attempted. -/
theorem createAll_exits (rs : List Resource) (p : Progress) :
    Work.Exits (createAll svc rs) p
      (fun es => ∃ cs, cs <+: rs ∧ cs ≠ [] ∧ es = cs.map .create)
      fun es _ p' => ∃ cs, cs <+: rs ∧ (rs ≠ [] → cs ≠ []) ∧ es = cs.map .create ∧
        p'.teardown = cs.reverse ++ p.teardown :=
  (createAll_reaches rs p).exits.mono (fun _ => id) fun _ _ ⟨cs, hcs, hne, _, hes, htear⟩ =>
    ⟨cs, hcs, hne, hes, htear⟩

theorem testHosts_exits (rules : List IngressRule) (requested : List String) (p : Progress) :
    Work.Exits (testHosts svc s rules requested) p (fun es => ∀ e ∈ es, e.Quiet)
      fun es _ p' => (∀ e ∈ es, e.Quiet) ∧ p'.teardown = p.teardown := by
  have happend : ∀ es es' : List Call, (∀ e ∈ es, e.Quiet) → (∀ e ∈ es', e.Quiet) →
      ∀ e ∈ es ++ es', e.Quiet :=
    fun es es' h h' e he => (List.mem_append.mp he).elim (h e) (h' e)
  induction rules generalizing requested p with
  | nil => exact Work.exits_pure ⟨nofun, rfl⟩
  | cons rule rest ih =>
    have hcancelled : (Timed.isCancelled : Timed Call Bool).Promises Call.Quiet fun _ => True :=
      fun _ => ⟨nofun, fun _ _ _ _ => trivial⟩
    refine (Work.exits_lift hcancelled.exits).bind (fun _ => id) fun es cancelled p' h => ?_
    obtain ⟨⟨hes, -⟩, rfl⟩ := h
    split
    · exact Work.exits_pure ⟨happend es [] hes nofun, rfl⟩
    · refine (Work.exits_lift (requestsFrom_promises (P := Call.Quiet) (fun _ => rfl) _ _ _ _ _).exits).bind
        (fun es' => happend es es' hes) fun es' tested p'' h => ?_
      obtain ⟨⟨hes', -⟩, rfl⟩ := h
      have hrecord : (pure tested.1 : Timed Call (Except Fault Unit)).Promises Call.Quiet
          fun _ => True := Timed.promises_pure trivial
      refine (step_exits hrecord.exits _).bind
        (fun es'' h => happend es _ hes (happend es' es'' hes' h)) fun es'' _ p''' h => ?_
      obtain ⟨htear, _, hes'', -⟩ := h
      refine (ih tested.2 p''').mono
        (fun fs h => happend es _ hes (happend es' _ hes' (happend es'' fs hes'' h)))
        fun fs _ q h => ⟨happend es _ hes (happend es' _ hes' (happend es'' fs hes'' h.1)), ?_⟩
      exact h.2.trans htear

/-- The wait of a check changes nothing, however it ends. -/
theorem rollout_quiet (random : Nat → Nat) :
    ((s.rollout.wait svc.states random).mapCalls Call.fetch).Promises Call.Quiet fun _ => True :=
  Timed.Promises.mapCalls fun _ => ⟨fun _ _ => rfl, fun _ _ _ _ => trivial⟩

/-- These calls are attempts to create some of the resources of a check, and others that change nothing. -/
def Created (s : Settings) (cs : List Resource) (es : List Call) : Prop :=
  cs <+: s.resources ∧ cs ≠ [] ∧ ∃ fs, es = cs.map .create ++ fs ∧ ∀ e ∈ fs, e.Quiet

theorem Created.append {cs : List Resource} {es gs : List Call} (h : Created s cs es)
    (hgs : ∀ e ∈ gs, e.Quiet) : Created s cs (es ++ gs) := by
  obtain ⟨hcs, hne, fs, rfl, hfs⟩ := h
  refine ⟨hcs, hne, fs ++ gs, List.append_assoc .., fun e he => ?_⟩
  exact (List.mem_append.mp he).elim (hfs e) (hgs e)

theorem provision_exits (random : Nat → Nat) (p : Progress) :
    Work.Exits (provision svc s random) p (fun es => ∃ cs, Created s cs es)
      fun es _ p' => ∃ cs, Created s cs es ∧ p'.teardown = cs.reverse ++ p.teardown := by
  refine (createAll_exits s.resources p).bind ?_ fun es ok p' h => ?_
  · rintro _ ⟨cs, hcs, hne, rfl⟩
    exact ⟨cs, hcs, hne, [], (List.append_nil _).symm, nofun⟩
  · obtain ⟨cs, hcs, hne, rfl, htear⟩ := h
    have hcreated : Created s cs (cs.map .create) :=
      ⟨hcs, hne (List.cons_ne_nil _ _), [], (List.append_nil _).symm, nofun⟩
    split
    · refine (step_exits ((rollout_quiet random).bind (Q := fun _ => True) fun _ _ =>
        Timed.promises_pure trivial).exits p').bind (fun fs hfs => ⟨cs, hcreated.append hfs⟩)
          fun fs v p'' h => ?_
      obtain ⟨htear', _, hfs, -⟩ := h
      refine Work.exits_pure ⟨cs, ?_, htear'.trans htear⟩
      rw [List.append_nil]
      exact hcreated.append hfs
    · exact Work.exits_pure ⟨cs, hcreated.append nofun, htear⟩

/-- Deletions of the first of some resources, of which the last one panics. -/
def Abandoned (svc : Service) (rs ds : List Resource) : Prop :=
  ds <+: rs ∧ ∃ r d q, ds.getLast? = some r ∧ svc.delete r = .panics d q

theorem tearDown_exits (rs : List Resource) (p : Progress) :
    Work.Exits (tearDown svc rs) p (fun es => ∃ ds, Abandoned svc rs ds ∧ es = ds.map .delete)
      fun es _ _ => es = rs.map .delete := by
  induction rs generalizing p with
  | nil => exact Work.exits_pure rfl
  | cons r rest ih =>
    have hcall : (Timed.call (.delete r) (svc.delete r)).Exits
        (fun es => es = [Call.delete r] ∧ ∃ d q, svc.delete r = .panics d q)
        fun es _ => es = [Call.delete r] :=
      Timed.exits_call (fun d q h => ⟨rfl, d, q, h⟩) fun _ _ _ => rfl
    refine (step_exits hcall p).bind ?_ fun es v p' h => ?_
    · rintro _ ⟨rfl, d, q, h⟩
      exact ⟨[r], ⟨⟨rest, rfl⟩, r, d, q, rfl, h⟩, rfl⟩
    · obtain ⟨-, _, rfl⟩ := h
      refine (ih p').mono ?_ fun _ _ _ h => by rw [h]; rfl
      rintro _ ⟨ds, ⟨hds, r', d, q, hlast, hpanics⟩, rfl⟩
      refine ⟨r :: ds, ⟨List.cons_prefix_cons.mpr ⟨rfl, hds⟩, r', d, q, ?_, hpanics⟩, rfl⟩
      rw [List.getLast?_cons, hlast]
      rfl

/-! ## The whole check -/

/-- A whole check, left by either exit: the attempts to create `cs`, other calls, the deletions of `ds`. -/
def Changes (s : Settings) (cs ds : List Resource) (es : List Call) : Prop :=
  ∃ work, Created s cs work ∧ es = work ++ ds.map .delete

theorem check_exits (random : Nat → Nat) (log : StepLog) :
    Work.Exits (check svc s random) ⟨log, []⟩
      (fun es => ∃ cs ds, (ds = [] ∨ Abandoned svc cs.reverse ds) ∧ Changes s cs ds es)
      fun es _ _ => ∃ cs, Changes s cs cs.reverse es := by
  have hlost : ∀ {cs es}, Created s cs es →
      ∃ cs ds, (ds = [] ∨ Abandoned svc cs.reverse ds) ∧ Changes s cs ds es :=
    fun h => ⟨_, [], .inl rfl, _, h, (List.append_nil _).symm⟩
  refine (provision_exits random _).bind (fun es ⟨cs, h⟩ => hlost h) fun es ready p h => ?_
  obtain ⟨cs, hes, htear⟩ := h
  rw [List.append_nil] at htear
  -- The end of the check, behind whatever was called without changing anything more.
  have hend : ∀ (es : List Call) (p : Progress), Created s cs es → p.teardown = cs.reverse →
      Work.Exits (do tearDown svc (← get).teardown) p
        (fun es' => ∃ cs ds, (ds = [] ∨ Abandoned svc cs.reverse ds) ∧ Changes s cs ds (es ++ es'))
        fun es' _ _ => ∃ cs, Changes s cs cs.reverse (es ++ es') := by
    intro es p hes htear
    refine Work.exits_get.bind (fun _ => False.elim) fun es' v p' h => ?_
    obtain ⟨rfl, rfl, rfl⟩ := h
    rw [htear]
    refine (tearDown_exits cs.reverse _).mono ?_ ?_
    · rintro _ ⟨ds, hds, rfl⟩
      exact ⟨cs, ds, .inr hds, es, hes, rfl⟩
    · rintro _ _ _ rfl
      exact ⟨cs, es, hes, rfl⟩
  cases ready with
  | false => exact hend es p hes htear
  | true =>
    refine (testHosts_exits s.ingresses [] p).bind (fun gs hgs => hlost (hes.append hgs))
      fun gs _ p' h => ?_
    refine (hend (es ++ gs) p' (hes.append h.1) (h.2.trans htear)).mono ?_ ?_
    · exact fun es' h => by rwa [← List.append_assoc]
    · exact fun es' _ _ h => by rwa [← List.append_assoc]

theorem probe_exits (random : Nat → Nat) : (probe s svc random).run.Exits
    (fun es => ∃ cs ds, (ds = [] ∨ Abandoned svc cs.reverse ds) ∧ Changes s cs ds es)
    fun es _ => ∃ cs, Changes s cs cs.reverse es :=
  Timed.Exits.bind (check_exits random .empty) (fun _ => id) fun es v h =>
    Timed.exits_pure (by rw [List.append_nil]; exact h)

theorem Changes.filtered {cs ds : List Resource} {es : List Call} (h : Changes s cs ds es) :
    cs <+: s.resources ∧ cs ≠ [] ∧ es.filter Call.isChange = cs.map .create ++ ds.map .delete := by
  obtain ⟨_, ⟨hcs, hne, fs, rfl, hfs⟩, rfl⟩ := h
  exact ⟨hcs, hne, filter_isChange hfs⟩

end

/-- What a check has created and deleted when the harness goes on, with what it has made of the check. -/
structure Unwound (svc : Service) (s : Settings) (ending : Ending Node) (called : List Call)
    (answer : Node) (cs ds : List Resource) : Prop where
  /-- The deployment, the service and the ingresses are attempted in this order, up to some point. -/
  inOrder : cs <+: s.resources
  /-- At least one is attempted. -/
  attempted : cs ≠ []
  /-- The changes are the attempts and then the deletions. -/
  changes : called.filter Call.isChange = cs.map .create ++ ds.map .delete
  /-- A check that returns has deleted all that it attempted to create, the last one first. -/
  returned : ∀ t tok node, ending = .returned t tok node → ds = cs.reverse ∧ answer = node
  /-- A check that panics has deleted nothing, unless it is a deletion that panicked; then the ones behind
  that are left out. -/
  panicked : ∀ t q, ending = .panicked t q → (ds = [] ∨ Abandoned svc cs.reverse ds) ∧
    answer.FailedLeaf key name
  /-- As long as deletions do not panic, every resource is deleted exactly when nothing panics. -/
  complete : (∀ r d q, svc.delete r ≠ .panics d q) →
    ((∀ r, .create r ∈ called → .delete r ∈ called) ↔ ∀ t q, ending ≠ .panicked t q)

theorem mem_of_changes {called : List Call} {cs ds : List Resource}
    (h : called.filter Call.isChange = cs.map .create ++ ds.map .delete) (r : Resource) :
    (.create r ∈ called ↔ r ∈ cs) ∧ (.delete r ∈ called ↔ r ∈ ds) := by
  have hmem : ∀ e : Call, e.isChange = true → (e ∈ called ↔ e ∈ cs.map .create ++ ds.map .delete) :=
    fun e he => by rw [← h, List.mem_filter, and_iff_left he]
  rw [hmem _ rfl, hmem _ rfl]
  simp

/-- A cluster that panics when it is asked to create the service. -/
def panicking : Service where
  create r := if r.name = serviceName then .panics 0 (.text "boom") else .answers 0 (.ok ())
  delete _ := .answers 0 (.ok ())
  states := ⟨fun _ _ => .answers 0 (.ok 2), fun _ _ => .hangs⟩
  status _ _ := .answers 0 (.ok 200)

/-- Whatever the cluster and the hosts do, and whenever the token fires, when the harness goes on behind a
check that has no time limit, the resources are deleted if the check has returned; if it has panicked, they
are left as they are. -/
theorem probe_unwound (svc : Service) (s : Settings) (random : Nat → Nat) (grace : Span) (now : Nat)
    (token : Token) (t : Nat) (token' : Token) (answer : Node)
    (hon : ((probe s svc random).guarded ⟨none, grace⟩ now token).ending = .returned t token' answer) :
    ∃ cs ds, Unwound svc s ((probe s svc random).run token).ending
      ((probe s svc random).guarded ⟨none, grace⟩ now token).called answer cs ds := by
  have hanswer : (probe s svc random).settle token ((probe s svc random).run token).ending =
      .returned t token' answer := hon
  have hcalled : ((probe s svc random).guarded ⟨none, grace⟩ now token).called =
      ((probe s svc random).run token).called := rfl
  rw [hcalled]
  obtain ⟨hpanicked, hreturned⟩ := probe_exits random token
  cases hend : ((probe s svc random).run token).ending with
  | returned u tok node =>
    obtain ⟨cs, h⟩ := hreturned u tok node hend
    obtain ⟨hcs, hne, hes⟩ := h.filtered
    rw [hend] at hanswer
    cases hanswer
    refine ⟨cs, cs.reverse,
      { inOrder := hcs, attempted := hne, changes := hes, panicked := nofun, returned := ?_
        complete := fun _ => ⟨fun _ => nofun, fun _ r hr => ?_⟩ }⟩
    · rintro _ _ _ ⟨⟩
      exact ⟨rfl, rfl⟩
    · have hmem := mem_of_changes hes r
      exact hmem.2.mpr (List.mem_reverse.mpr (hmem.1.mp hr))
  | panicked u q =>
    obtain ⟨cs, ds, hds, h⟩ := hpanicked u q hend
    obtain ⟨hcs, hne, hes⟩ := h.filtered
    rw [hend] at hanswer
    cases hanswer
    refine ⟨cs, ds,
      { inOrder := hcs, attempted := hne, changes := hes, returned := nofun
        panicked := ?_
        complete := fun hdelete => ⟨fun hall => ?_, fun hno => absurd rfl (hno _ q)⟩ }⟩
    · rintro _ _ ⟨⟩
      exact ⟨hds, Probe.panicNode_failedLeaf (p := probe s svc random) _⟩
    -- The first resource was attempted, but there is no deletion that could have panicked.
    · obtain ⟨r, hr⟩ := List.exists_mem_of_ne_nil cs hne
      have hmem := mem_of_changes hes r
      have hdel : r ∈ ds := hmem.2.mp (hall r (hmem.1.mpr hr))
      rcases hds with rfl | ⟨-, r', d, q', -, hpanics⟩
      · cases hdel
      · exact absurd hpanics (hdelete r' d q')
  | never => rw [hend] at hanswer; cases hanswer

theorem probe_unwound_panicking :
    let s := Settings.ofImage "nginx:1.25"
    let p := probe s panicking (randomStream 1)
    let grace := Span.ofSeconds 60
    let answer := p.panicNode (.text "boom")
    (p.guarded ⟨none, grace⟩ 0 (.due 5)).ending = .returned 0 (.due 5) answer ∧
      ∃ cs ds, Unwound panicking s (p.run (.due 5)).ending
        (p.guarded ⟨none, grace⟩ 0 (.due 5)).called answer cs ds :=
  ⟨rfl, probe_unwound panicking (Settings.ofImage "nginx:1.25") (randomStream 1) (Span.ofSeconds 60) 0
    (.due 5) 0 (.due 5) _ rfl⟩

/-- The deployment was created, the harness goes on, and nothing was deleted. -/
theorem teardown_skipped :
    let s := Settings.ofImage "nginx:1.25"
    let c := (probe s panicking (randomStream 1)).guarded Limits.standard 0 .never
    (∃ t token answer, c.ending = .returned t token answer) ∧
      c.called = [.create s.deployment, .create Settings.service] ∧
      ¬ ∀ r, Call.create r ∈ c.called → Call.delete r ∈ c.called := by
  intro s c
  have hcalled : c.called = [.create s.deployment, .create Settings.service] := rfl
  refine ⟨⟨_, _, _, rfl⟩, hcalled, fun h => ?_⟩
  rw [hcalled] at h
  have := h s.deployment (by simp)
  simp at this

end Checkup.Cluster
