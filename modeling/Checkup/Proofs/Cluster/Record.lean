import Mathlib.Data.List.Forall2
import Checkup.Proofs.Cluster.Cancellation
import Checkup.Proofs.Timed.Runs

/-!
# What a check records

A check makes one leaf for each creation, one for the wait, one for each host that is tested, and one for
each deletion, in the order in which these things happen. `Work.Runs` is the contract of a part of a check
that keeps account of all of it: the calls, the clock, the token, and the progress behind it.

The tests of hosts go on whatever becomes of them, and stop with the token. `InTurn` lays them out on the
clock of the whole check: each begins at the tick at which the one before it has ended, with the token
still unfired.

**Assumptions.** As for the parts of a check: creations, deletions and requests are answered and no call
panics (`Service.Settles`), and the clock can show the rollout timeout (`Settings.Representable`).

Results:
* `createAll_runs`, `rollout_runs`, `testHosts_runs` and `tearDown_runs`: the parts of a check.
* `provision_runs` and `check_runs`: the same put together, as the structures `Provisioned` and `Recorded`.
* `probe_recorded`: the node of a whole check and the calls that it goes back to.
-/
namespace Checkup.Cluster

/-! ## Contracts of the parts of a check -/

namespace Work

variable {α β : Type} {m : Work α} {f : α → Work β} {p : Progress} {tok : Token}
  {P : List (Nat × Call) → Nat → Token → α → Progress → Prop}
  {Q : List (Nat × Call) → Nat → Token → β → Progress → Prop}

/-- From a progress on and under a token, the part of a check returns with these calls, at this tick, with
the token as it is seen there, this value and this progress. -/
def Runs (m : Work α) (p : Progress) (tok : Token)
    (Q : List (Nat × Call) → Nat → Token → α → Progress → Prop) : Prop :=
  (m p).Runs tok fun calls t tok' v => Q calls t tok' v.1 v.2

theorem Runs.mono {P' : List (Nat × Call) → Nat → Token → α → Progress → Prop} (h : Runs m p tok P)
    (hpq : ∀ calls t tok' v p', P calls t tok' v p' → P' calls t tok' v p') : Runs m p tok P' :=
  Timed.Runs.mono h fun calls t tok' v => hpq calls t tok' v.1 v.2

theorem runs_pure {v : β} (h : Q [] 0 tok v p) : Runs (pure v) p tok Q :=
  Timed.runs_pure h

theorem Runs.bind (hm : Runs m p tok P)
    (hf : ∀ calls t tok' v p', tok.Sees t tok' → P calls t tok' v p' → Runs (f v) p' tok'
      fun calls' u tok'' w p'' => Q (calls ++ Course.laterCalls t calls') (t + u) tok'' w p'') :
    Runs (m >>= f) p tok Q :=
  Timed.Runs.bind hm fun calls t tok' v hsees hv => hf calls t tok' v.1 v.2 hsees hv

theorem runs_lift {x : Timed Call α} {P : List (Nat × Call) → Nat → Token → α → Prop}
    (h : x.Runs tok P) :
    Runs (StateT.lift x) p tok fun calls t tok' v p' => P calls t tok' v ∧ p' = p :=
  (h.map fun v => (v, p)).mono fun calls t tok' v hv => by
    obtain ⟨w, hw, rfl⟩ := hv
    exact ⟨hw, rfl⟩

theorem runs_modify (f : Progress → Progress) :
    Runs (modify f) p tok fun calls t tok' _ p' => calls = [] ∧ t = 0 ∧ tok' = tok ∧ p' = f p :=
  Timed.runs_pure ⟨rfl, rfl, rfl, rfl⟩

theorem runs_get : Runs get p tok fun calls t tok' v p' =>
    calls = [] ∧ t = 0 ∧ tok' = tok ∧ v = p ∧ p' = p :=
  Timed.runs_pure ⟨rfl, rfl, rfl, rfl, rfl⟩

end Work

theorem Service.Settles.responds {svc : Service} (hsvc : svc.Settles) : svc.Responds where
  create := hsvc.create
  delete := hsvc.delete
  states := hsvc.states
  status requested url d q h := by
    obtain ⟨d', result, h'⟩ := hsvc.status requested url
    rw [h'] at h
    cases h

/-! ## Leaves -/

theorem tells_answered {reply : Reply Unit} {d : Nat} {result : Except Fault Unit}
    (h : reply = .answers d result) (label : String) :
    (Node.ofOutcome label result).Tells label (∃ d, reply = .answers d (.ok ())) := by
  obtain ⟨hname, hchildren, hpassed⟩ := Node.tells_ofOutcome label result
  refine ⟨hname, hchildren, hpassed.trans ?_⟩
  rw [h]
  constructor
  · intro hok
    obtain ⟨v, rfl⟩ := hok
    exact ⟨d, rfl⟩
  · intro hok
    obtain ⟨d', hanswer⟩ := hok
    exact ⟨(), (Reply.answers.inj hanswer).2⟩

/-- The leaf of a creation: it has passed exactly when the call was answered with success. -/
def Service.RecordsCreate (svc : Service) (r : Resource) (leaf : Node) : Prop :=
  leaf.Tells s!"Create {r.text}" (∃ d, svc.create r = .answers d (.ok ()))

/-- The leaf of a deletion, in the same way. -/
def Service.RecordsDelete (svc : Service) (r : Resource) (leaf : Node) : Prop :=
  leaf.Tells s!"Delete {r.text}" (∃ d, svc.delete r = .answers d (.ok ()))

/-! ## Creations and deletions -/

section
variable {α : Type} {svc : Service} {s : Settings} {tok : Token}

theorem Attempts.complete {rs cs : List Resource} {ok : Bool} (h : Attempts svc rs cs ok) :
    ok = true ↔ cs.length = rs.length ∧ ∀ r ∈ cs, svc.Creates r := by
  induction h with
  | done => exact ⟨fun _ => ⟨rfl, nofun⟩, fun _ => rfl⟩
  | @refused r rest href =>
    refine ⟨nofun, fun hall => ?_⟩
    obtain ⟨d, e, hr⟩ := href
    obtain ⟨d', hr'⟩ := hall.2 r List.mem_cons_self
    rw [hr] at hr'
    cases hr'
  | @created r rest cs ok hr _ ih =>
    rw [ih, List.forall_mem_cons, List.length_cons, List.length_cons, Nat.add_right_cancel_iff]
    exact ⟨fun hall => ⟨hall.1, hr, hall.2⟩, fun hall => ⟨hall.1, hall.2.2⟩⟩

/-- A step adds its leaf to the log, and leaves the stack alone. -/
theorem step_runs {label : String} {x : Timed Call (Except Fault α)}
    {P : List (Nat × Call) → Nat → Token → Except Fault α → Prop} (h : x.Runs tok P) (p : Progress) :
    Work.Runs (step label x) p tok fun calls t tok' v p' => ∃ r, P calls t tok' r ∧
      v = r.toOption ∧ p' = ⟨⟨p.log.leaves ++ [Node.ofOutcome label r]⟩, p.teardown⟩ := by
  refine (h.map _).mono fun calls t tok' v hv => ?_
  obtain ⟨r, hr, rfl⟩ := hv
  refine ⟨r, hr, settle_fst .., ?_⟩
  cases r with
  | ok v => rfl
  | error e => rfl

theorem create_runs {r : Resource} {d : Nat} {result : Except Fault Unit}
    (h : svc.create r = .answers d result) (p : Progress) :
    Work.Runs (create svc r) p tok fun calls _ _ ok p' =>
      calls.map Prod.snd = [.create r] ∧ ok = result.toOption.isSome ∧
        p' = ⟨⟨p.log.leaves ++ [Node.ofOutcome s!"Create {r.text}" result]⟩, r :: p.teardown⟩ := by
  refine (Work.runs_modify _).bind fun calls t tok' _ p' _ hp => ?_
  obtain ⟨rfl, rfl, rfl, rfl⟩ := hp
  rw [h]
  refine (step_runs Timed.runs_call _).bind fun calls t tok' v p' _ hv => ?_
  obtain ⟨result, ⟨rfl, -, rfl⟩, rfl, rfl⟩ := hv
  exact Work.runs_pure ⟨rfl, rfl, rfl⟩

theorem createAll_runs (hsvc : svc.Settles) (rs : List Resource) (p : Progress) :
    Work.Runs (createAll svc rs) p tok fun calls _ _ ok p' => ∃ cs leaves,
      Attempts svc rs cs ok ∧ List.Forall₂ svc.RecordsCreate cs leaves ∧
        calls.map Prod.snd = cs.map .create ∧
        p' = ⟨⟨p.log.leaves ++ leaves⟩, cs.reverse ++ p.teardown⟩ := by
  induction rs generalizing p tok with
  | nil =>
    refine Work.runs_pure ⟨[], [], .done, .nil, rfl, ?_⟩
    rw [List.append_nil]
    rfl
  | cons r rest ih =>
    obtain ⟨d, result, hr⟩ := hsvc.create r
    refine (create_runs hr p).bind fun calls t tok' ok p' _ hcreate => ?_
    obtain ⟨hcalls, rfl, rfl⟩ := hcreate
    have hleaf : svc.RecordsCreate r (Node.ofOutcome s!"Create {r.text}" result) :=
      tells_answered hr _
    cases result with
    | error e =>
      refine Work.runs_pure ⟨[r], _, .refused ⟨d, e, hr⟩, .cons hleaf .nil, ?_, rfl⟩
      rw [Course.laterCalls, List.map_nil, List.append_nil]
      exact hcalls
    | ok u =>
      refine (ih _).mono fun calls' u tok'' ok p'' hrest => ?_
      obtain ⟨cs, leaves, hcs, hleaves, hcalls', rfl⟩ := hrest
      refine ⟨r :: cs, _ :: leaves, .created ⟨d, hr⟩ hcs, .cons hleaf hleaves, ?_, ?_⟩
      · rw [List.map_append, hcalls, Course.map_snd_laterCalls, hcalls']
        rfl
      · rw [List.append_assoc, List.reverse_cons, List.append_assoc]
        rfl

theorem tearDown_runs (hsvc : svc.Settles) (rs : List Resource) (p : Progress) :
    Work.Runs (tearDown svc rs) p tok fun calls _ _ _ p' => ∃ leaves,
      List.Forall₂ svc.RecordsDelete rs leaves ∧ calls.map Prod.snd = rs.map .delete ∧
        p'.log.leaves = p.log.leaves ++ leaves := by
  induction rs generalizing p tok with
  | nil => exact Work.runs_pure ⟨[], .nil, rfl, (List.append_nil _).symm⟩
  | cons r rest ih =>
    obtain ⟨d, result, hr⟩ := hsvc.delete r
    have hleaf : svc.RecordsDelete r (Node.ofOutcome s!"Delete {r.text}" result) :=
      tells_answered hr _
    unfold tearDown
    rw [hr]
    refine (step_runs Timed.runs_call p).bind fun calls t tok' v p' _ hv => ?_
    obtain ⟨result, ⟨rfl, -, rfl⟩, -, rfl⟩ := hv
    refine (ih _).mono fun calls' u tok'' _ p'' hrest => ?_
    obtain ⟨leaves, hleaves, hcalls, hlog⟩ := hrest
    refine ⟨_ :: leaves, .cons hleaf hleaves, ?_, ?_⟩
    · rw [List.map_append, Course.map_snd_laterCalls, hcalls]
      rfl
    · rw [hlog, List.append_assoc]
      rfl

end

/-! ## The wait -/

section
variable {svc : Service} {s : Settings} {tok : Token}

/-- The wait makes fetches only, and if it ends with success its token is still unfired. -/
theorem rollout_runs (hsvc : svc.Settles) (hs : s.Representable) (random : Nat → Nat) :
    ((s.rollout.wait svc.states random).mapCalls Call.fetch).Runs tok fun calls _ tok' v =>
      (∃ fs : List Fetch, calls.map Prod.snd = fs.map .fetch) ∧ (∀ report, v = .ok report → tok' ≠ .fired) := by
  obtain ⟨delays, hwait, hr⟩ := hs.rollout svc.states random
  have hends : ((s.rollout.wait svc.states random).mapCalls Call.fetch).Ensures
      fun es _ => ∃ fs : List Fetch, es = fs.map .fetch := by
    rw [hwait]
    refine (s.rollout.waitOn_ensures hsvc.states hr).mapCalls.mono fun es _ h => ?_
    obtain ⟨fs, rfl, -⟩ := h
    exact ⟨fs, rfl⟩
  obtain ⟨t, tok', v, hend, hcalls⟩ := hends tok
  have hsees := (rollout_prompt hsvc.responds hs random).sees hend
  refine ⟨_, t, tok', v, by rw [← hend], hsees, hcalls, fun report hreport => ?_⟩
  have hwaited : (s.rollout.wait svc.states random tok).ending = .returned t tok' v := hend
  rw [hwait, hreport] at hwaited
  exact s.rollout.waitOn_satisfied hsvc.states hr hwaited

/-- The step that waits leaves its leaf, which tells whether the check goes on. -/
theorem waitStep_runs (hsvc : svc.Settles) (hs : s.Representable) (random : Nat → Nat)
    (p : Progress) :
    Work.Runs (step "Wait for deployment" do
      let outcome ← (s.rollout.wait svc.states random).mapCalls Call.fetch
      return outcome.mapError fun e => Fault.message e.message) p tok fun calls _ tok' v p' =>
        ∃ leaf : Node, leaf.name = "Wait for deployment" ∧ leaf.children = [] ∧ leaf.passed = v.isSome ∧
          (∃ fs : List Fetch, calls.map Prod.snd = fs.map .fetch) ∧
          (v.isSome = true → tok' ≠ .fired) ∧ p' = ⟨⟨p.log.leaves ++ [leaf]⟩, p.teardown⟩ := by
  refine (step_runs ((rollout_runs hsvc hs random).map _) p).mono fun calls t tok' v p' h => ?_
  obtain ⟨r, ⟨outcome, ⟨hfetches, hunfired⟩, rfl⟩, rfl, rfl⟩ := h
  obtain ⟨hname, hchildren, hpassed⟩ := Node.ofOutcome_leaf "Wait for deployment"
    (outcome.mapError fun e => Fault.message e.message)
  refine ⟨_, hname, hchildren, hpassed, hfetches, ?_, rfl⟩
  cases outcome with
  | ok report => exact fun _ => hunfired report rfl
  | error e => exact nofun

end

/-! ## The tests of hosts -/

/-- The test of one host: its rule, the tick of the check at which it begins, what it does from there on,
and its leaf. -/
structure HostTest where
  rule : IngressRule
  start : Nat
  course : Course Call Tested
  leaf : Node

/-- The calls of a test, on the clock of the check. -/
def HostTest.calls (h : HostTest) : List (Nat × Call) := Course.laterCalls h.start h.course.calls

/-- The test is what the check does with its rule, under a token that has not fired when it begins; it
takes `d` ticks. -/
structure HostTest.Valid (h : HostTest) (svc : Service) (s : Settings) (token : Token) (d : Nat) :
    Prop where
  unfired : token.firesBefore h.start = false
  course : ∃ requested seen, token.Sees h.start seen ∧
    h.course = testConnection svc s h.rule.host requested seen
  leaf : ∃ tok outcome requested, h.course.ending = .returned d tok (outcome, requested) ∧
    h.leaf = Node.ofOutcome s!"Test connection {h.rule.host}" outcome

/-- Tests of hosts, one behind the other from a tick on up to another one. -/
inductive InTurn (svc : Service) (s : Settings) (token : Token) : Nat → List HostTest → Nat → Prop where
  | done (t : Nat) : InTurn svc s token t [] t
  | next {h : HostTest} {d u : Nat} {hosts : List HostTest} : h.Valid svc s token d →
      InTurn svc s token (h.start + d) hosts u → InTurn svc s token h.start (h :: hosts) u

section
variable {svc : Service} {s : Settings} {tok token : Token} {now : Nat}

theorem testConnection_runs (hsvc : svc.Settles) (host : String) (requested : List String) :
    (testConnection svc s host requested).Runs tok fun calls _ _ _ =>
      ∀ e ∈ calls.map Prod.snd, e.Quiet :=
  (requestsFrom_only hsvc _ _ _ _ _).runs (requestsFrom_prompt hsvc.responds _ _ _ _ _)

/-- The hosts of a prefix of the rules are tested, and it is all of them unless the token fires. -/
theorem testHosts_runs (hsvc : svc.Settles) (rules : List IngressRule) (requested : List String)
    (p : Progress) (hsees : token.Sees now tok) :
    Work.Runs (testHosts svc s rules requested) p tok fun calls t tok' _ p' => ∃ hosts,
      InTurn svc s token now hosts (now + t) ∧ hosts.map HostTest.rule <+: rules ∧
        (hosts.map HostTest.rule = rules ∨ tok' = .fired) ∧ (tok ≠ .fired → rules ≠ [] → hosts ≠ []) ∧
        Course.laterCalls now calls = hosts.flatMap HostTest.calls ∧
        (∀ e ∈ calls.map Prod.snd, e.Quiet) ∧
        p' = ⟨⟨p.log.leaves ++ hosts.map HostTest.leaf⟩, p.teardown⟩ := by
  induction rules generalizing requested p tok now with
  | nil =>
    refine Work.runs_pure ⟨[], .done now, List.prefix_refl _, .inl rfl, nofun, rfl, nofun, ?_⟩
    rw [List.map_nil, List.append_nil]
  | cons rule rest ih =>
    refine (Work.runs_lift Timed.runs_isCancelled).bind fun calls t tok' cancelled p' _ h => ?_
    obtain ⟨⟨rfl, rfl, rfl, rfl⟩, rfl⟩ := h
    by_cases hfired : tok' = .fired
    · subst hfired
      refine Work.runs_pure ⟨[], .done now, List.nil_prefix, .inr rfl, fun h => absurd rfl h, rfl, nofun, ?_⟩
      rw [List.map_nil, List.append_nil]
    · have hno : (tok' == .fired) = false := by simpa using hfired
      rw [hno]
      refine (Work.runs_lift (testConnection_runs hsvc rule.host requested).course).bind
        fun calls d seen tested p₁ hseen h => ?_
      obtain ⟨⟨hcourse, hquiet⟩, rfl⟩ := h
      have hrecord : (Pure.pure tested.1 : Timed Call (Except Fault Unit)).Runs seen
          fun calls t tok' v => calls = [] ∧ t = 0 ∧ tok' = seen ∧ v = tested.1 :=
        Timed.runs_pure ⟨rfl, rfl, rfl, rfl⟩
      refine (step_runs hrecord _).bind fun calls' t tok₁ _ p₂ _ h => ?_
      obtain ⟨outcome, ⟨rfl, rfl, rfl, rfl⟩, -, rfl⟩ := h
      refine (ih tested.2 _ (hsees.trans hseen)).mono fun rest' u tok₂ _ p₃ h => ?_
      obtain ⟨hosts, hinTurn, hprefix, hall, -, hcalls, hquiet', rfl⟩ := h
      let host : HostTest := ⟨rule, now, ⟨calls, .returned d tok₁ tested⟩,
        Node.ofOutcome s!"Test connection {rule.host}" tested.1⟩
      have hvalid : host.Valid svc s token d :=
        { unfired := hsees.unfired hfired
          course := ⟨requested, tok', hsees, hcourse.symm⟩
          leaf := ⟨tok₁, tested.1, tested.2, rfl, rfl⟩ }
      have htime : now + (0 + (d + (0 + u))) = now + d + u := by omega
      refine ⟨host :: hosts, ?_, List.cons_prefix_cons.mpr ⟨rfl, hprefix⟩, ?_, ?_, ?_, ?_, ?_⟩
      · rw [htime]
        exact .next hvalid hinTurn
      · rw [List.map_cons]
        exact hall.imp_left (congrArg (rule :: ·))
      · exact fun _ _ => List.cons_ne_nil _ _
      · have hown : host.calls = Course.laterCalls now calls := rfl
        rw [List.flatMap_cons, hown, ← hcalls]
        simp only [List.nil_append, Course.laterCalls_zero, Course.laterCalls_append,
          Course.laterCalls_laterCalls, Nat.zero_add]
      · intro e he
        simp only [List.nil_append, Course.laterCalls_zero, List.map_append,
          Course.map_snd_laterCalls, List.mem_append] at he
        exact he.elim (hquiet e) (hquiet' e)
      · rw [List.map_cons, List.append_assoc]
        rfl

end

/-! ## Up to the tests -/

/-- What a check records before it tests the hosts: the resources that it attempts to create, the leaves of
these attempts, and the leaf of the wait, if it gets to the wait. -/
structure Provisioned (svc : Service) (s : Settings) (calls : List (Nat × Call)) (cs : List Resource)
    (creations : List Node) (wait : Option Node) : Prop where
  created : List.Forall₂ svc.RecordsCreate cs creations
  called : ∃ fs : List Fetch, calls.map Prod.snd = cs.map .create ++ fs.map .fetch
  /-- The wait begins when everything is created. -/
  waited : wait.isSome = true ↔
    cs.length = s.ingresses.length + 2 ∧ ∀ leaf ∈ creations, leaf.passed = true
  waitLeaf : ∀ leaf, wait = some leaf → leaf.name = "Wait for deployment" ∧ leaf.children = []

section
variable {svc : Service} {s : Settings} {tok : Token}

theorem forall_passed_iff {cs : List Resource} {leaves : List Node}
    (h : List.Forall₂ svc.RecordsCreate cs leaves) :
    (∀ leaf ∈ leaves, leaf.passed = true) ↔ ∀ r ∈ cs, svc.Creates r := by
  induction h with
  | nil => exact ⟨fun _ => nofun, fun _ => nofun⟩
  | cons hleaf _ ih => rw [List.forall_mem_cons, List.forall_mem_cons, ih, hleaf.passed]; rfl

theorem provision_runs (hsvc : svc.Settles) (hs : s.Representable) (random : Nat → Nat) :
    Work.Runs (provision svc s random) ⟨.empty, []⟩ tok fun calls _ tok' ready p' =>
      ∃ cs creations wait, Provisioned svc s calls cs creations wait ∧
        (ready = true ↔ ∃ leaf, wait = some leaf ∧ leaf.passed = true) ∧
        (ready = true → tok' ≠ .fired) ∧ p' = ⟨⟨creations ++ wait.toList⟩, cs.reverse⟩ := by
  refine (createAll_runs hsvc s.resources _).bind fun calls t tok₁ ok p₁ _ h => ?_
  obtain ⟨cs, creations, hcs, hcreations, hcalls, rfl⟩ := h
  have hcomplete : ok = true ↔
      cs.length = s.ingresses.length + 2 ∧ ∀ leaf ∈ creations, leaf.passed = true := by
    have hlength : s.resources.length = s.ingresses.length + 2 := by simp [Settings.resources]
    rw [hcs.complete, forall_passed_iff hcreations, hlength]
  cases ok with
  | false =>
    refine Work.runs_pure ⟨cs, creations, none, ?_, ?_, ?_, ?_⟩
    · exact
        { created := hcreations
          called := ⟨[], by simpa [Course.map_snd_laterCalls] using hcalls⟩
          waited := by
            rw [← hcomplete]
            exact Iff.rfl
          waitLeaf := by
            intro leaf hleaf
            cases hleaf }
    · constructor
      · intro hready
        cases hready
      · intro h
        obtain ⟨leaf, hleaf, -⟩ := h
        cases hleaf
    · intro hready
      cases hready
    · simp [StepLog.empty]
  | true =>
    refine (waitStep_runs hsvc hs random _).bind fun calls' u tok₂ v p₂ _ h => ?_
    obtain ⟨leaf, hname, hchildren, hpassed, ⟨fs, hfs⟩, hunfired, rfl⟩ := h
    refine Work.runs_pure ⟨cs, creations, some leaf, ?_, ?_, hunfired, ?_⟩
    · exact
        { created := hcreations
          called := ⟨fs, by simp [hcalls, hfs, Course.map_snd_laterCalls]⟩
          waited := by
            rw [← hcomplete]
            exact Iff.rfl
          waitLeaf := by
            intro leaf' hleaf
            cases hleaf
            exact ⟨hname, hchildren⟩ }
    · rw [← hpassed]
      constructor
      · intro hpass
        exact ⟨leaf, rfl, hpass⟩
      · intro h
        obtain ⟨leaf', hleaf, hpass⟩ := h
        cases hleaf
        exact hpass
    · simp [StepLog.empty]

end

/-! ## The whole check -/

/-- The parts of what a check records: the resources that it attempts to create with the leaves of these
attempts, the leaf of the wait, the tests of hosts, the leaves of the deletions, and the ticks at which the
tests begin and at which the deletions do. -/
structure Record where
  attempted : List Resource
  creations : List Node
  wait : Option Node
  hosts : List HostTest
  deletions : List Node
  begun : Nat
  finished : Nat

structure Recorded (svc : Service) (s : Settings) (token : Token) (calls : List (Nat × Call))
    (node : Node) (r : Record) : Prop where
  /-- The leaves stand in the order in which things happen. -/
  leaves : node = Node.aggregate key name
    (r.creations ++ r.wait.toList ++ r.hosts.map HostTest.leaf ++ r.deletions)
  /-- So do the calls: the creations, the fetches of the wait, the requests, and the deletions. -/
  course : ∃ (before after : List (Nat × Call)) (fs : List Fetch),
    calls = before ++ r.hosts.flatMap HostTest.calls ++ Course.laterCalls r.finished after ∧
      before.map Prod.snd = r.attempted.map .create ++ fs.map .fetch ∧
      after.map Prod.snd = r.attempted.reverse.map .delete
  /-- All creations and deletions that are called are among those that have a leaf. -/
  changes : (calls.map Prod.snd).filter Call.isChange =
    r.attempted.map .create ++ r.attempted.reverse.map .delete
  created : List.Forall₂ svc.RecordsCreate r.attempted r.creations
  deleted : List.Forall₂ svc.RecordsDelete r.attempted.reverse r.deletions
  waited : r.wait.isSome = true ↔
    r.attempted.length = s.ingresses.length + 2 ∧ ∀ leaf ∈ r.creations, leaf.passed = true
  waitLeaf : ∀ leaf, r.wait = some leaf → leaf.name = "Wait for deployment" ∧ leaf.children = []
  /-- Hosts are tested only behind a wait that passed. -/
  tested : r.hosts ≠ [] → ∃ leaf, r.wait = some leaf ∧ leaf.passed = true
  /-- They are tested one after another, each with the token unfired when its test begins. -/
  inTurn : InTurn svc s token r.begun r.hosts r.finished
  inOrder : r.hosts.map HostTest.rule <+: s.ingresses
  /-- All of them are, unless the token has fired by the tick at which the next one would be due. -/
  all : (∃ leaf, r.wait = some leaf ∧ leaf.passed = true) → r.hosts.map HostTest.rule = s.ingresses ∨
    r.hosts ≠ [] ∧ ∃ a, token.time? = some a ∧ a ≤ r.finished
  passed : node.passed = true ↔ ∀ leaf ∈ node.children, leaf.passed = true

section
variable {svc : Service} {s : Settings} {token tok : Token} {p : Progress}
  {before tests : List (Nat × Call)} {cs : List Resource} {creations : List Node} {wait : Option Node}
  {hosts : List HostTest} {begun finished : Nat}

/-- The end of a check, behind everything else. -/
theorem tearDown_recorded (hsvc : svc.Settles) (hprov : Provisioned svc s before cs creations wait)
    (hlog : p.log.leaves = creations ++ wait.toList ++ hosts.map HostTest.leaf)
    (htear : p.teardown = cs.reverse)
    (htested : hosts ≠ [] → ∃ leaf, wait = some leaf ∧ leaf.passed = true)
    (hinTurn : InTurn svc s token begun hosts finished)
    (hinOrder : hosts.map HostTest.rule <+: s.ingresses)
    (hall : (∃ leaf, wait = some leaf ∧ leaf.passed = true) → hosts.map HostTest.rule = s.ingresses ∨
      hosts ≠ [] ∧ ∃ a, token.time? = some a ∧ a ≤ finished)
    (hquiet : ∀ e ∈ (hosts.flatMap HostTest.calls).map Prod.snd, e.Quiet) :
    Work.Runs (do tearDown svc (← get).teardown) p tok fun calls _ _ _ p' => ∃ r,
      Recorded svc s token
        (before ++ hosts.flatMap HostTest.calls ++ Course.laterCalls finished calls)
        (p'.log.finish key name) r := by
  refine Work.runs_get.bind fun calls t tok₁ v p₁ _ h => ?_
  obtain ⟨rfl, rfl, rfl, rfl, rfl⟩ := h
  rw [htear]
  refine (tearDown_runs hsvc cs.reverse _).mono fun after u tok₂ _ p₂ h => ?_
  obtain ⟨deletions, hdeletions, hafter, hleaves⟩ := h
  obtain ⟨fs, hbefore⟩ := hprov.called
  refine ⟨⟨cs, creations, wait, hosts, deletions, begun, finished⟩, ?_⟩
  rw [List.nil_append, Course.laterCalls_zero]
  exact
    { leaves := by rw [StepLog.finish, hleaves, hlog]
      course := ⟨before, after, fs, rfl, hbefore, hafter⟩
      changes := by
        have hfetches : ∀ e ∈ fs.map Call.fetch ++ (hosts.flatMap HostTest.calls).map Prod.snd,
            e.Quiet := by
          intro e he
          rcases List.mem_append.mp he with he | he
          · obtain ⟨f, -, rfl⟩ := List.mem_map.mp he
            rfl
          · exact hquiet e he
        rw [List.map_append, List.map_append, hbefore, Course.map_snd_laterCalls, hafter,
          List.append_assoc (cs.map Call.create)]
        exact filter_isChange hfetches
      created := hprov.created
      deleted := hdeletions
      waited := hprov.waited
      waitLeaf := hprov.waitLeaf
      tested := htested
      inTurn := hinTurn
      inOrder := hinOrder
      all := hall
      passed := by
        rw [StepLog.finish]
        exact List.all_eq_true }

theorem check_runs (hsvc : svc.Settles) (hs : s.Representable) (random : Nat → Nat) :
    Work.Runs (check svc s random) ⟨.empty, []⟩ token fun calls _ _ _ p' =>
      ∃ r, Recorded svc s token calls (p'.log.finish key name) r := by
  refine (provision_runs hsvc hs random).bind fun before t tok ready p hsees h => ?_
  obtain ⟨cs, creations, wait, hprov, hready, hunfired, rfl⟩ := h
  cases ready with
  | false =>
    have hnot : ¬ ∃ leaf, wait = some leaf ∧ leaf.passed = true := fun h => by
      have := hready.mpr h
      contradiction
    have hnobody : InTurn svc s token t [] t := .done t
    refine (tearDown_recorded hsvc hprov ?_ rfl (fun h => absurd rfl h) hnobody List.nil_prefix
      (fun h => absurd h hnot) nofun).mono fun after u tok₁ _ p₁ h => ?_
    · rw [List.map_nil, List.append_nil]
    · simpa using h
  | true =>
    refine (testHosts_runs hsvc s.ingresses [] _ hsees).bind fun calls u tok₁ _ p₁ hsees₁ h => ?_
    obtain ⟨hosts, hinTurn, hinOrder, hall, hsome, hcalls, hquiet, rfl⟩ := h
    rw [← Course.map_snd_laterCalls t, hcalls] at hquiet
    refine (tearDown_recorded hsvc hprov rfl rfl (fun _ => hready.mp rfl) hinTurn hinOrder (fun _ => ?_)
      hquiet).mono fun after u' tok₂ _ p₂ h => ?_
    · by_cases hrules : hosts.map HostTest.rule = s.ingresses
      · exact .inl hrules
      · have hfired : tok₁ = .fired := hall.resolve_left hrules
        have hne : s.ingresses ≠ [] := by
          intro hnil
          rw [hnil] at hinOrder hrules
          exact hrules (List.prefix_nil.mp hinOrder)
        rw [hfired] at hsees₁
        exact .inr ⟨hsome (hunfired rfl) hne, (hsees.trans hsees₁).fired⟩
    · rw [Course.laterCalls_append, hcalls, Course.laterCalls_laterCalls, ← List.append_assoc]
      exact h

end

/-- Whatever the cluster and the hosts do and whenever the token fires, the node of a check tells what has
happened, leaf by leaf and in order. -/
theorem probe_recorded (svc : Service) (hsvc : svc.Settles) (s : Settings) (hs : s.Representable)
    (random : Nat → Nat) (token : Token) :
    ∃ t token' node r, ((probe s svc random).run token).ending = .returned t token' node ∧
      Recorded svc s token ((probe s svc random).run token).calls node r := by
  have hrun : (probe s svc random).run.Runs token fun calls _ _ node =>
      ∃ r, Recorded svc s token calls node r := by
    refine ((check_runs hsvc hs random).map fun v => v.2.log.finish key name).mono
      fun calls t tok node h => ?_
    obtain ⟨v, hv, rfl⟩ := h
    exact hv
  obtain ⟨calls, t, token', node, hcourse, -, r, hr⟩ := hrun
  exact ⟨t, token', node, r, by rw [hcourse], by rw [hcourse]; exact hr⟩

/-- Two hosts that are down, and a token that fires while the first of them is tested. -/
theorem probe_recorded_down :
    let svc : Service :=
      { create := fun _ => .answers 1 (.ok ())
        delete := fun _ => .answers 2 (.error (.message "gone"))
        states := ⟨fun _ _ => .answers 5 (.ok 2), fun _ _ => .hangs⟩
        status := fun _ _ => .answers 3 (.ok 503) }
    let s : Settings :=
      { Settings.ofImage "smoketest:1" with
        ingresses := [⟨"a.example", "tls", "nginx"⟩, ⟨"b.example", "tls", "nginx"⟩] }
    ∃ t token' node r, ((probe s svc (randomStream 7)).run (.due 300)).ending = .returned t token' node ∧
      Recorded svc s (.due 300) ((probe s svc (randomStream 7)).run (.due 300)).calls node r := by
  intro svc s
  have hsvc : svc.Settles :=
    { create := fun _ => ⟨1, .ok (), rfl⟩
      delete := fun _ => ⟨2, .error (.message "gone"), rfl⟩
      status := fun _ _ => ⟨3, .ok 503, rfl⟩
      states := ⟨fun _ _ _ _ => by simp [svc], fun _ _ _ _ => by simp [svc]⟩ }
  have hs : s.Representable := by
    show fitsClock (Span.ofSeconds 120).ticks (Span.ofSeconds 5) = true
    decide +kernel
  exact probe_recorded svc hsvc s hs (randomStream 7) (.due 300)

end Checkup.Cluster
