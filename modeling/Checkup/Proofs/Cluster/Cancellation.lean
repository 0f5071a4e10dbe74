import Checkup.Proofs.Cluster.Teardown
import Checkup.Proofs.Harness.TimeLimit
import Checkup.Proofs.Script.Contract
import Checkup.Proofs.Wait.Cancellation

/-!
# A check that is cut short

A check whose token fires waits for nothing any more but for what changes the cluster: a creation or a
deletion under way, and the deletions that are left. `Work.Prompt` is the contract of a part of a check
that says so. Since the harness goes on to wait for the check within the grace period, a grace period
that is long enough for these changes leaves nothing behind.

**Assumptions.** No call to the cluster or a host panics, and each creation and deletion is answered
(`Service.Responds`); a fetch or a request may hang. The clock can show the rollout timeout and a pause
behind it (`Settings.Representable`). What the replies are, what is configured, the limits and when the
token fires is open.

Results:
* `createAll_prompt`, `rollout_prompt`, `testHosts_prompt` and `tearDown_prompt`: the parts of a check.
* `check_prompt`: the whole check, in which each attempt to create something is followed by its deletion.
* `probe_cutShort`: a check that is still at work when the harness fires its token, as the structure
  `CutShort`.
-/
namespace Checkup.Cluster

/-- No call panics, and each creation and deletion is answered. Fetches and requests may hang. -/
structure Service.Responds (svc : Service) : Prop where
  create : ∀ r, (svc.create r).Returns
  delete : ∀ r, (svc.delete r).Returns
  status : ∀ requested url d q, svc.status requested url ≠ .panics d q
  states : svc.states.Calm

/-- How long a check waits for a call once it is cancelled: as long as the call takes if it changes
something, and not at all otherwise. -/
def Service.takes (svc : Service) : Call → Nat
  | .create r => (svc.create r).time?.getD 0
  | .delete r => (svc.delete r).time?.getD 0
  | .fetch _ | .get _ => 0

theorem Service.takes_create {svc : Service} {r : Resource} {d : Nat} {result : Except Fault Unit}
    (h : svc.create r = .answers d result) : svc.takes (.create r) = d := by
  rw [takes, h]
  rfl

theorem Service.takes_delete {svc : Service} {r : Resource} {d : Nat} {result : Except Fault Unit}
    (h : svc.delete r = .answers d result) : svc.takes (.delete r) = d := by
  rw [takes, h]
  rfl

/-- The call changes something in the cluster. -/
def Call.Changes (c : Call) : Prop := c.isChange = true

/-! ## Contracts of the parts of a check -/

namespace Work

variable {α β : Type} {svc : Service}

/-- From a progress on, the part of a check heeds its token, and returns with these calls, this value
and this progress if it returns. -/
def Prompt (svc : Service) (m : Work α) (p : Progress) (Q : List Call → α → Progress → Prop) : Prop :=
  (m p).Prompt svc.takes Call.Changes fun es v => Q es v.1 v.2

theorem Prompt.mono {m : Work α} {p : Progress} {P Q : List Call → α → Progress → Prop}
    (h : Prompt svc m p P) (hpq : ∀ es v p', P es v p' → Q es v p') : Prompt svc m p Q :=
  Timed.Prompt.mono h fun es v => hpq es v.1 v.2

theorem prompt_pure {v : α} {p : Progress} {Q : List Call → α → Progress → Prop} (h : Q [] v p) :
    Prompt svc (pure v) p Q :=
  Timed.prompt_pure h

theorem Prompt.bind {m : Work α} {f : α → Work β} {p : Progress}
    {P : List Call → α → Progress → Prop} {Q : List Call → β → Progress → Prop}
    (hm : Prompt svc m p P)
    (hf : ∀ es v p', P es v p' → Prompt svc (f v) p' fun es' w p'' => Q (es ++ es') w p'') :
    Prompt svc (m >>= f) p Q :=
  Timed.Prompt.bind hm fun es v hv => hf es v.1 v.2 hv

theorem prompt_lift {x : Timed Call α} {p : Progress} {P : List Call → α → Prop}
    (h : x.Prompt svc.takes Call.Changes P) :
    Prompt svc (StateT.lift x) p fun es v p' => P es v ∧ p' = p :=
  Timed.Prompt.bind h fun es v hv => Timed.prompt_pure (by rw [List.append_nil]; exact ⟨hv, rfl⟩)

theorem prompt_modify (f : Progress → Progress) (p : Progress) :
    Prompt svc (modify f) p fun es _ p' => es = [] ∧ p' = f p :=
  Timed.prompt_pure ⟨rfl, rfl⟩

theorem prompt_get (p : Progress) :
    Prompt svc get p fun es v p' => es = [] ∧ v = p ∧ p' = p :=
  Timed.prompt_pure ⟨rfl, rfl, rfl⟩

end Work

section
variable {α : Type} {svc : Service} {s : Settings}

/-- A step leaves the stack alone, and a leaf in the log. -/
theorem step_prompt {label : String} {x : Timed Call (Except Fault α)}
    {P : List Call → Except Fault α → Prop} (h : x.Prompt svc.takes Call.Changes P) (p : Progress) :
    Work.Prompt svc (step label x) p fun es v p' =>
      p'.teardown = p.teardown ∧ p'.log.leaves ≠ [] ∧ ∃ r, P es r ∧ v = r.toOption := by
  refine Timed.Prompt.bind h fun es r hr => Timed.prompt_pure ⟨rfl, ?_, r, ?_, settle_fst ..⟩
  · show (p.log.settle label r).2.leaves ≠ []
    rw [StepLog.settle_eq]
    exact List.concat_ne_nil _ _
  · rw [List.append_nil]
    exact hr

theorem create_prompt (hsvc : svc.Responds) (r : Resource) (p : Progress) :
    ∃ d result, svc.create r = .answers d result ∧
      Work.Prompt svc (create svc r) p fun es ok p' =>
        es = [.create r] ∧ p'.teardown = r :: p.teardown ∧ ok = result.toOption.isSome := by
  obtain ⟨d, result, hr⟩ := hsvc.create r
  refine ⟨d, result, hr, ?_⟩
  have hcall : (Timed.call (.create r) (svc.create r)).Prompt svc.takes Call.Changes
      fun es v => es = [.create r] ∧ v = result := by
    rw [hr]
    exact Timed.prompt_call rfl (Service.takes_create hr)
  refine (Work.prompt_modify _ p).bind fun es _ p' hp => ?_
  obtain ⟨rfl, rfl⟩ := hp
  refine (step_prompt hcall _).bind fun es v p' hv => ?_
  obtain ⟨htear, -, result', ⟨rfl, rfl⟩, rfl⟩ := hv
  exact Work.prompt_pure ⟨rfl, htear, rfl⟩

theorem createAll_prompt (hsvc : svc.Responds) (rs : List Resource) (p : Progress) :
    Work.Prompt svc (createAll svc rs) p fun es ok p' =>
      ∃ cs, Attempts svc rs cs ok ∧ es = cs.map .create ∧
        p'.teardown = cs.reverse ++ p.teardown := by
  induction rs generalizing p with
  | nil => exact Work.prompt_pure ⟨[], .done, rfl, rfl⟩
  | cons r rest ih =>
    obtain ⟨d, result, hr, hcreate⟩ := create_prompt hsvc r p
    refine hcreate.bind fun es ok p' h => ?_
    obtain ⟨rfl, htear, rfl⟩ := h
    cases result with
    | error e => exact Work.prompt_pure ⟨[r], .refused ⟨d, e, hr⟩, rfl, htear⟩
    | ok u =>
      refine (ih p').mono fun es ok p'' h => ?_
      obtain ⟨cs, hcs, rfl, htear'⟩ := h
      exact ⟨r :: cs, .created ⟨d, hr⟩ hcs, rfl, by rw [htear', htear]; simp⟩

/-- Each resource is deleted once, whatever the deletions come to, and each deletion leaves its leaf. -/
theorem tearDown_prompt (hsvc : svc.Responds) (rs : List Resource) (p : Progress) :
    Work.Prompt svc (tearDown svc rs) p fun es _ p' =>
      es = rs.map .delete ∧ (rs ≠ [] ∨ p.log.leaves ≠ [] → p'.log.leaves ≠ []) := by
  induction rs generalizing p with
  | nil => exact Work.prompt_pure ⟨rfl, fun h => h.resolve_left (absurd rfl)⟩
  | cons r rest ih =>
    obtain ⟨d, result, hr⟩ := hsvc.delete r
    have hcall : (Timed.call (.delete r) (svc.delete r)).Prompt svc.takes Call.Changes
        fun es v => es = [.delete r] ∧ v = result := by
      rw [hr]
      exact Timed.prompt_call rfl (Service.takes_delete hr)
    refine (step_prompt hcall p).bind fun es v p' h => ?_
    obtain ⟨-, hleaf, result', ⟨rfl, -⟩, -⟩ := h
    refine (ih p').mono fun es _ p'' h => ?_
    exact ⟨by rw [h.1]; rfl, fun _ => h.2 (.inr hleaf)⟩

theorem rollout_prompt (hsvc : svc.Responds) (hs : s.Representable) (random : Nat → Nat) :
    ((s.rollout.wait svc.states random).mapCalls Call.fetch).Prompt svc.takes Call.Changes
      fun es _ => ∀ e ∈ es, e.Quiet := by
  obtain ⟨delays, hwait, hr⟩ := hs.rollout svc.states random
  rw [hwait]
  have hprompt : (s.rollout.waitOn svc.states fun n => .ok (delays n)).Prompt
      (fun f => svc.takes (.fetch f)) (fun f => (Call.fetch f).Changes) fun _ _ => True :=
    s.rollout.waitOn_prompt hsvc.states hr
  refine hprompt.mapCalls.mono fun es _ h => ?_
  obtain ⟨es', rfl, -⟩ := h
  intro e he
  obtain ⟨f, -, rfl⟩ := List.mem_map.mp he
  rfl

/-- The requests to a host are given up with the token, and change nothing. -/
theorem requestsFrom_prompt (hsvc : svc.Responds) (url : String) (left completed : Nat)
    (last : String) (requested : List String) :
    (requestsFrom svc s url left completed last requested).Prompt svc.takes Call.Changes
      fun es _ => ∀ e ∈ es, e.Quiet := by
  induction left generalizing completed last requested with
  | zero => exact Timed.prompt_pure nofun
  | succ left ih =>
    have hcall : (Timed.call (.get url) (svc.status requested url)).unlessCancelled.Prompt svc.takes
        Call.Changes fun es _ => ∀ e ∈ es, e = .get url :=
      Timed.prompt_unlessCancelled_call rfl (hsvc.status requested url)
    refine hcall.bind fun es v hes => ?_
    have hquiet : ∀ e ∈ es, e.Quiet := fun e he => by rw [hes e he]; rfl
    have hdone : ∀ e ∈ es ++ [], e.Quiet := by rw [List.append_nil]; exact hquiet
    split
    · exact Timed.prompt_pure hdone
    · exact Timed.prompt_pure hdone
    · split
      · exact Timed.prompt_pure hdone
      · refine (Timed.prompt_unlessCancelled_sleep _).bind fun es' w hes' => ?_
        subst hes'
        split
        · exact Timed.prompt_pure hdone
        · refine (ih _ _ _).mono fun es'' _ h e he => ?_
          rcases List.mem_append.mp he with he | he
          · exact hquiet e he
          · exact h e he

theorem testHosts_prompt (hsvc : svc.Responds) (rules : List IngressRule) (requested : List String)
    (p : Progress) :
    Work.Prompt svc (testHosts svc s rules requested) p fun es _ p' =>
      (∀ e ∈ es, e.Quiet) ∧ p'.teardown = p.teardown := by
  induction rules generalizing requested p with
  | nil => exact Work.prompt_pure ⟨nofun, rfl⟩
  | cons rule rest ih =>
    refine (Work.prompt_lift Timed.prompt_isCancelled).bind fun es cancelled p' h => ?_
    obtain ⟨rfl, rfl⟩ := h
    split
    · exact Work.prompt_pure ⟨nofun, rfl⟩
    · refine (Work.prompt_lift (requestsFrom_prompt hsvc _ _ _ _ _)).bind fun es tested p' h => ?_
      obtain ⟨hes, rfl⟩ := h
      refine (step_prompt (Timed.prompt_pure (Q := fun es _ => es = []) rfl) _).bind
        fun es' _ p'' h => ?_
      obtain ⟨htear, -, r, rfl, -⟩ := h
      refine (ih tested.2 p'').mono fun es' _ q h => ⟨fun e he => ?_, h.2.trans htear⟩
      rw [List.nil_append, List.nil_append, List.mem_append] at he
      exact he.elim (hes e) (h.1 e)

theorem provision_prompt (hsvc : svc.Responds) (hs : s.Representable) (random : Nat → Nat)
    (p : Progress) :
    Work.Prompt svc (provision svc s random) p fun es _ p' =>
      ∃ cs ok fs, Attempts svc s.resources cs ok ∧ es = cs.map .create ++ fs ∧
        (∀ e ∈ fs, e.Quiet) ∧ p'.teardown = cs.reverse ++ p.teardown := by
  refine (createAll_prompt hsvc s.resources p).bind fun es ok p' h => ?_
  obtain ⟨cs, hcs, rfl, htear⟩ := h
  split
  · have hwait := (rollout_prompt hsvc hs random).bind (Q := fun es _ => ∀ e ∈ es, e.Quiet)
      (f := fun outcome => Pure.pure (outcome.mapError fun e => Fault.message e.message))
      fun es v hes => Timed.prompt_pure (by rw [List.append_nil]; exact hes)
    refine (step_prompt hwait p').bind fun fs v p'' h => ?_
    obtain ⟨htear', -, r, hfs, -⟩ := h
    exact Work.prompt_pure ⟨cs, ok, fs, hcs, by simp, hfs, htear'.trans htear⟩
  · exact Work.prompt_pure ⟨cs, ok, [], hcs, rfl, nofun, htear⟩

end

/-! ## The whole check -/

theorem check_prompt {svc : Service} (hsvc : svc.Responds) {s : Settings} (hs : s.Representable)
    (random : Nat → Nat) (log : StepLog) :
    Work.Prompt svc (check svc s random) ⟨log, []⟩ fun es _ p' =>
      (∃ cs, Balanced svc s es cs) ∧ p'.log.leaves ≠ [] := by
  refine (provision_prompt hsvc hs random _).bind fun es ready p h => ?_
  obtain ⟨cs, ok, fs, hcs, rfl, hfs, htear⟩ := h
  rw [List.append_nil] at htear
  -- The end of the check, behind whatever was called without changing anything.
  have hend : ∀ (gs : List Call) (p : Progress), (∀ e ∈ gs, e.Quiet) → p.teardown = cs.reverse →
      Work.Prompt svc (do tearDown svc (← get).teardown) p fun es _ p' =>
        (∃ cs', Balanced svc s (cs.map .create ++ fs ++ gs ++ es) cs') ∧ p'.log.leaves ≠ [] := by
    intro gs p hgs htear
    refine (Work.prompt_get p).bind fun es v p' h => ?_
    obtain ⟨rfl, rfl, rfl⟩ := h
    refine (tearDown_prompt hsvc _ _).mono fun es _ p'' h => ⟨⟨cs, ?_⟩, h.2 (.inl ?_)⟩
    · have hquiet : ∀ e ∈ fs ++ gs, e.Quiet := fun e he =>
        (List.mem_append.mp he).elim (hfs e) (hgs e)
      have hbalanced := hcs.balanced hquiet
      rwa [h.1, htear, List.nil_append, List.append_assoc (cs.map Call.create)]
    · rw [htear]
      exact List.reverse_ne_nil_iff.mpr (hcs.ne_nil (List.cons_ne_nil _ _))
  cases ready with
  | false => simpa using hend [] p nofun htear
  | true =>
    refine (testHosts_prompt hsvc s.ingresses [] p).bind fun gs _ p' h => ?_
    refine (hend gs p' h.1 (h.2.trans htear)).mono fun es _ p'' h => ?_
    rwa [← List.append_assoc]

theorem probe_prompt {svc : Service} (hsvc : svc.Responds) {s : Settings} (hs : s.Representable)
    (random : Nat → Nat) : (probe s svc random).run.Prompt svc.takes Call.Changes
      fun es node => (∃ cs, Balanced svc s es cs) ∧ node.children ≠ [] := by
  refine Timed.Prompt.bind (check_prompt hsvc hs random .empty) fun es v h => ?_
  exact Timed.prompt_pure (by rw [List.append_nil]; exact h)

/-! ## Within limits -/

/-- A check that is still at work at tick `l`, at which the harness fires its token: `alone` is its course
without a token, `late` the one with the token fired there, `grace` the grace period if it has an end, and
`c` is what the harness makes of it. -/
structure CutShort (svc : Service) (s : Settings) (limit : Span) (grace : Option Nat) (tok : Token)
    (l : Nat) (alone late c : Course Call Node) : Prop where
  /-- No request and no fetch begins any more: behind what was begun by then come changes only. -/
  begun : ∃ before after, c.calls = before ++ after ∧ (∀ e ∈ before, e.1 ≤ l) ∧
    (∀ e ∈ after, e.2.Changes) ∧
    (tok.firesBefore l = false → before = alone.callsUntil l ∧ ∀ e ∈ after, l ≤ e.1)
  /-- None is awaited either: what the check still takes is what is left of the changes. If that is within
  the grace period, the harness waits for it and keeps the steps, and whatever the check attempted to
  create it has deleted by then. -/
  awaited : ∃ node, late.ending = .returned (l + waits svc.takes l late.calls) .fired node ∧
    node.children ≠ [] ∧
    ((∀ g, grace = some g → waits svc.takes l late.calls ≤ g) →
      c = ⟨late.calls, .returned (l + waits svc.takes l late.calls)
        (tok.next (l + waits svc.takes l late.calls))
        (Node.aggregate key name
          (node.children ++ [Node.fail "Time limit" (Probe.overrunMessage limit)]))⟩ ∧
      ∃ cs, Balanced svc s c.called cs)

/-- A check that the harness cuts short waits for nothing but its own creations and deletions, and leaves
nothing behind if the grace period is long enough for these. -/
theorem probe_cutShort (svc : Service) (hsvc : svc.Responds) (s : Settings) (hs : s.Representable)
    (random : Nat → Nat) (limit grace : Span) (now : Nat) (tok : Token) (l : Nat)
    (hl : limit.expiry? now = some l) (hlate : ¬ ((probe s svc random).run tok).EndsBy l) :
    CutShort svc s limit (grace.expiry? (now + l)) tok l ((probe s svc random).run .never)
      ((probe s svc random).run (tok.within l))
      ((probe s svc random).guarded ⟨some limit, grace⟩ now tok) := by
  have hwork : ∀ u, ((probe s svc random).run tok).ending.time? = some u → l < u := by
    intro u hu
    exact Nat.lt_of_not_le fun hul => hlate ⟨u, hu, hul⟩
  obtain ⟨before, after, t, node, hling, ⟨cs, hcs⟩, hchildren⟩ :=
    (probe_prompt hsvc hs random).lingers hwork
  have hbusy : t = l + waits svc.takes l (before ++ after) := hling.busy
  rw [Probe.guarded_of_late hl hlate, hling.course]
  constructor
  · -- The end of the grace period may cut off changes, but nothing that was begun before.
    rcases Probe.settleLate_calls (probe s svc random) limit tok ((grace.expiry? (now + l)).map (l + ·))
      ⟨before ++ after, .returned t .fired node⟩ with hcalls | ⟨m, hm, hcalls⟩
    · exact ⟨before, after, hcalls, hling.begun, hling.changes, hling.uncancelled⟩
    · obtain ⟨g, -, rfl⟩ := Option.map_eq_some_iff.mp hm
      have hbefore : before.filter (·.1 ≤ l + g) = before :=
        List.filter_eq_self.mpr fun e he => decide_eq_true (by have := hling.begun e he; omega)
      refine ⟨before, after.filter (·.1 ≤ l + g), ?_, hling.begun, fun e he => ?_, fun hu => ?_⟩
      · rw [hcalls, Course.callsUntil, List.filter_append, hbefore]
      · exact hling.changes e (List.mem_of_mem_filter he)
      · obtain ⟨halone, hlater⟩ := hling.uncancelled hu
        exact ⟨halone, fun e he => hlater e (List.mem_of_mem_filter he)⟩
  · refine ⟨node, congrArg (Ending.returned · .fired node) hbusy, hchildren, fun hgrace => ?_⟩
    have hin : ∀ m, (grace.expiry? (now + l)).map (l + ·) = some m → t ≤ m := by
      intro m hm
      obtain ⟨g, hg, rfl⟩ := Option.map_eq_some_iff.mp hm
      have hwaits : waits svc.takes l (before ++ after) ≤ g := hgrace g hg
      omega
    rw [Probe.settleLate_returned rfl hin hchildren]
    dsimp only
    rw [← hbusy]
    exact ⟨rfl, cs, hcs⟩

/-- A cluster that is slow to create and never gets ready, behind a host that does not reply: the limit
ends during the last creation, and what is left fits into the grace period. -/
theorem probe_cutShort_creating :
    let svc : Service :=
      { create := fun _ => .answers 40 (.ok ())
        delete := fun _ => .answers 5 (.error (.message "gone"))
        states := ⟨fun _ _ => .hangs, fun _ _ => .hangs⟩
        status := fun _ _ => .hangs }
    let s : Settings :=
      { Settings.ofImage "smoketest:1" with ingresses := [⟨"a.example", "tls", "nginx"⟩] }
    let p := probe s svc (randomStream 7)
    waits svc.takes 100 (p.run (.due 100)).calls = 35 ∧
      CutShort svc s (Span.ofMillis 100) (some 40) .never 100 (p.run .never) (p.run (.due 100))
        (p.guarded ⟨some (Span.ofMillis 100), Span.ofMillis 40⟩ 0 .never) := by
  intro svc s p
  have hsvc : svc.Responds :=
    { create := fun _ => ⟨40, .ok (), rfl⟩
      delete := fun _ => ⟨5, .error (.message "gone"), rfl⟩
      status := fun _ _ => nofun
      states := ⟨nofun, nofun⟩ }
  have hs : s.Representable := by
    show fitsClock (Span.ofSeconds 120).ticks (Span.ofSeconds 5) = true
    decide +kernel
  have hends : (p.run .never).ending.time? = some 120135 := by decide +kernel
  have hlate : ¬ (p.run .never).EndsBy 100 := by
    rintro ⟨t, ht, hle⟩
    rw [hends] at ht
    cases ht
    omega
  have hgrace : (Span.ofMillis 40).expiry? (0 + 100) = some 40 := by decide +kernel
  refine ⟨by decide +kernel, ?_⟩
  have h := probe_cutShort svc hsvc s hs (randomStream 7) (Span.ofMillis 100) (Span.ofMillis 40) 0
    .never 100 (by decide +kernel) hlate
  rwa [hgrace] at h

end Checkup.Cluster
