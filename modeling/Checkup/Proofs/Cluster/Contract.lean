import Checkup.Cluster.Probe
import Checkup.Proofs.Wait.Schedule
import Checkup.Proofs.Wait.Timing

/-!
# The parts of a check

`Work.Ensures` is the contract of a part of a check: from a given progress on it returns, whatever
becomes of the token, with these calls, this value and this progress behind it. The stack of resources to
delete is tied to the calls by it: a creation puts its resource on the stack, nothing else touches the
stack, and the end of the check walks it down.

**Assumptions.** The cluster and the hosts come back from every call but a fetch, and none of their calls
panics (`Service.Settles`); the clock can show the rollout timeout and a pause behind it
(`Settings.Representable`). What the replies are, when the token fires, and what is configured is open.

Results:
* `createAll_ensures`: the resources that are attempted, as the relation `Attempts`, stand on the stack.
* `rollout_only`, `requestsFrom_only` and `testHosts_ensures`: waiting and testing change nothing.
* `tearDown_ensures`: each resource of a list is deleted once, whatever the deletions come to.
-/
namespace Checkup.Cluster

/-- No call to a cluster or a host panics, and all but the fetches come back. -/
structure Service.Settles (svc : Service) : Prop where
  create : ∀ r, ∃ d result, svc.create r = .answers d result
  delete : ∀ r, ∃ d result, svc.delete r = .answers d result
  status : ∀ requested url, ∃ d result, svc.status requested url = .answers d result
  states : svc.states.Calm

/-- The cluster creates a resource when asked to. -/
def Service.Creates (svc : Service) (r : Resource) : Prop := ∃ d, svc.create r = .answers d (.ok ())

/-- The cluster answers the attempt to create a resource with an error. -/
def Service.Refuses (svc : Service) (r : Resource) : Prop :=
  ∃ d e, svc.create r = .answers d (.error e)

/-- The clock can show the end of the rollout timeout, and of a pause of five seconds behind it: it must
be able to show the end even of a pause that the timeout cuts short. -/
def Settings.Representable (s : Settings) : Prop :=
  fitsClock s.rolloutTimeout.ticks (Span.ofSeconds 5) = true

/-- Whether a call creates or deletes something. -/
def Call.isChange : Call → Bool
  | .create _ | .delete _ => true
  | .fetch _ | .get _ => false

/-- The call changes nothing in the cluster. -/
def Call.Quiet (c : Call) : Prop := c.isChange = false

/-- The resources of a list that are attempted: all up to the first that the cluster refuses. The flag
says whether none was refused. -/
inductive Attempts (svc : Service) : List Resource → List Resource → Bool → Prop where
  | done : Attempts svc [] [] true
  | refused {r : Resource} {rest : List Resource} : svc.Refuses r → Attempts svc (r :: rest) [r] false
  | created {r : Resource} {rest cs : List Resource} {ok : Bool} : svc.Creates r →
      Attempts svc rest cs ok → Attempts svc (r :: rest) (r :: cs) ok

namespace Attempts

variable {svc : Service} {rs cs : List Resource} {ok : Bool}

theorem isPrefix (h : Attempts svc rs cs ok) : cs <+: rs := by
  induction h with
  | done => exact List.prefix_refl _
  | refused _ => exact ⟨_, rfl⟩
  | created _ _ ih => exact List.cons_prefix_cons.mpr ⟨rfl, ih⟩

theorem ne_nil (h : Attempts svc rs cs ok) (hrs : rs ≠ []) : cs ≠ [] := by
  cases h with
  | done => exact absurd rfl hrs
  | refused _ => exact List.cons_ne_nil _ _
  | created _ _ => exact List.cons_ne_nil _ _

theorem creates (h : Attempts svc rs cs ok) : ∀ r ∈ cs.dropLast, svc.Creates r := by
  induction h with
  | done => intro r hr; cases hr
  | refused _ => intro r hr; cases hr
  | @created r rest cs ok hr hrest ih =>
    intro q hq
    cases cs with
    | nil => cases hq
    | cons c cs =>
      rw [List.dropLast_cons_cons, List.mem_cons] at hq
      rcases hq with rfl | hq
      · exact hr
      · exact ih q hq

/-- A list that is not attempted to its end was left at a resource that the cluster refused. -/
theorem refuses (h : Attempts svc rs cs ok) (hlen : cs.length ≠ rs.length) :
    ∃ r, cs.getLast? = some r ∧ svc.Refuses r := by
  induction h with
  | done => exact absurd rfl hlen
  | refused hr => exact ⟨_, rfl, hr⟩
  | @created r rest cs ok _ _ ih =>
    obtain ⟨q, hq, href⟩ := ih fun h => hlen (by simp [h])
    refine ⟨q, ?_, href⟩
    rw [List.getLast?_cons, hq]; rfl

end Attempts

/-! ## Contracts of the parts of a check -/

namespace Work

variable {α β : Type}

/-- From a progress on, the part of a check returns with these calls, this value and this progress. -/
def Ensures (m : Work α) (p : Progress) (Q : List Call → α → Progress → Prop) : Prop :=
  (m p).Ensures fun es v => Q es v.1 v.2

theorem Ensures.mono {m : Work α} {p : Progress} {P Q : List Call → α → Progress → Prop}
    (h : Ensures m p P) (hpq : ∀ es v p', P es v p' → Q es v p') : Ensures m p Q :=
  Timed.Ensures.mono h fun es v => hpq es v.1 v.2

theorem ensures_pure {v : α} {p : Progress} {Q : List Call → α → Progress → Prop} (h : Q [] v p) :
    Ensures (pure v) p Q :=
  Timed.ensures_pure h

theorem Ensures.bind {m : Work α} {f : α → Work β} {p : Progress}
    {P : List Call → α → Progress → Prop} {Q : List Call → β → Progress → Prop} (hm : Ensures m p P)
    (hf : ∀ es v p', P es v p' → Ensures (f v) p' fun es' w p'' => Q (es ++ es') w p'') :
    Ensures (m >>= f) p Q :=
  Timed.Ensures.bind hm fun es v hv => hf es v.1 v.2 hv

theorem ensures_lift {x : Timed Call α} {p : Progress} {P : List Call → α → Prop}
    (h : x.Ensures P) : Ensures (StateT.lift x) p fun es v p' => P es v ∧ p' = p :=
  Timed.Ensures.bind h fun es v hv => Timed.ensures_pure (by rw [List.append_nil]; exact ⟨hv, rfl⟩)

theorem ensures_modify (f : Progress → Progress) (p : Progress) :
    Ensures (modify f) p fun es _ p' => es = [] ∧ p' = f p :=
  Timed.ensures_pure ⟨rfl, rfl⟩

theorem ensures_get (p : Progress) :
    Ensures get p fun es v p' => es = [] ∧ v = p ∧ p' = p :=
  Timed.ensures_pure ⟨rfl, rfl, rfl⟩

end Work

section
variable {α : Type} {svc : Service} {s : Settings}

theorem settle_fst (log : StepLog) (label : String) (r : Except Fault α) :
    (log.settle label r).1 = r.toOption := by
  cases r <;> rfl

/-- A step leaves the stack alone. -/
theorem step_ensures {label : String} {x : Timed Call (Except Fault α)}
    {P : List Call → Except Fault α → Prop} (h : x.Ensures P) (p : Progress) :
    Work.Ensures (step label x) p fun es v p' =>
      p'.teardown = p.teardown ∧ ∃ r, P es r ∧ v = r.toOption := by
  refine Timed.Ensures.bind h fun es r hr => Timed.ensures_pure ⟨rfl, r, ?_, settle_fst ..⟩
  rw [List.append_nil]; exact hr

/-- A creation makes its call with the resource on the stack. -/
theorem create_ensures {r : Resource} {d : Nat} {result : Except Fault Unit}
    (h : svc.create r = .answers d result) (p : Progress) :
    Work.Ensures (create svc r) p fun es ok p' =>
      es = [.create r] ∧ p'.teardown = r :: p.teardown ∧ ok = result.toOption.isSome := by
  refine (Work.ensures_modify _ p).bind fun es _ p' hp => ?_
  obtain ⟨rfl, rfl⟩ := hp
  refine (step_ensures (h ▸ Timed.ensures_call) _).bind fun es v p' hv => ?_
  obtain ⟨htear, result, ⟨rfl, rfl⟩, rfl⟩ := hv
  exact Work.ensures_pure ⟨rfl, htear, rfl⟩

theorem createAll_ensures (hsvc : svc.Settles) (rs : List Resource) (p : Progress) :
    Work.Ensures (createAll svc rs) p fun es ok p' =>
      ∃ cs, Attempts svc rs cs ok ∧ es = cs.map .create ∧ p'.teardown = cs.reverse ++ p.teardown := by
  induction rs generalizing p with
  | nil => exact Work.ensures_pure ⟨[], .done, rfl, rfl⟩
  | cons r rest ih =>
    obtain ⟨d, result, hr⟩ := hsvc.create r
    refine (create_ensures hr p).bind fun es ok p' h => ?_
    obtain ⟨rfl, htear, rfl⟩ := h
    cases result with
    | error e =>
      exact Work.ensures_pure ⟨[r], .refused ⟨d, e, hr⟩, rfl, htear⟩
    | ok u =>
      refine (ih p').mono fun es ok p'' h => ?_
      obtain ⟨cs, hcs, rfl, htear'⟩ := h
      exact ⟨r :: cs, .created ⟨d, hr⟩ hcs, rfl, by rw [htear', htear]; simp⟩

theorem tearDown_ensures (hsvc : svc.Settles) (rs : List Resource) (p : Progress) :
    Work.Ensures (tearDown svc rs) p fun es _ _ => es = rs.map .delete := by
  induction rs generalizing p with
  | nil => exact Work.ensures_pure rfl
  | cons r rest ih =>
    obtain ⟨d, result, hr⟩ := hsvc.delete r
    refine (step_ensures (hr ▸ Timed.ensures_call) p).bind fun es v p' h => ?_
    obtain ⟨-, result, ⟨rfl, -⟩, -⟩ := h
    exact (ih p').mono fun es _ _ h => by rw [h]; rfl

/-- The wait of a check follows the usual schedule, whose delays the clock can show. -/
theorem Settings.Representable.rollout (hs : s.Representable) (source : StateSource)
    (random : Nat → Nat) : ∃ delays : Nat → Delay,
      s.rollout.wait source random = s.rollout.waitOn source (fun n => .ok (delays n)) ∧
        s.rollout.Representable delays := by
  obtain ⟨delays, hdelays, hle⟩ := Backoff.schedule_standard random
  refine ⟨delays, ?_, ?_⟩
  · rw [← hdelays]
    rfl
  · exact
      { deadline := fitsClock_of_ticks (fitsClock_mono (Nat.le_refl _) (Nat.zero_le _) hs)
        delays := fun n t ht => fitsClock_mono (Nat.le_of_lt ht) (hle n) hs }

/-- The wait of a check changes nothing. -/
theorem rollout_only (hsvc : svc.Settles) (hs : s.Representable) (random : Nat → Nat) :
    Timed.Only Call.Quiet ((s.rollout.wait svc.states random).mapCalls Call.fetch) := by
  obtain ⟨delays, hwait, hr⟩ := hs.rollout svc.states random
  rw [hwait]
  refine (s.rollout.waitOn_ensures hsvc.states hr).mapCalls.mono fun es _ h => ?_
  obtain ⟨es', rfl, -⟩ := h
  intro e he
  obtain ⟨f, -, rfl⟩ := List.mem_map.mp he
  rfl

/-- The requests to a host change nothing. -/
theorem requestsFrom_only (hsvc : svc.Settles) (url : String) (left completed : Nat)
    (last : String) (requested : List String) :
    Timed.Only Call.Quiet (requestsFrom svc s url left completed last requested) := by
  induction left generalizing completed last requested with
  | zero => exact Timed.only_pure _
  | succ left ih =>
    obtain ⟨d, result, hr⟩ := hsvc.status requested url
    have hcall : Timed.Only Call.Quiet (Timed.call (Call.get url) (svc.status requested url)) :=
      hr ▸ Timed.only_call rfl
    refine hcall.unlessCancelled.bind fun v => ?_
    split
    · exact Timed.only_pure _
    · exact Timed.only_pure _
    · split
      · exact Timed.only_pure _
      · refine (Timed.only_sleep _).unlessCancelled.bind fun v => ?_
        split
        · exact Timed.only_pure _
        · exact ih _ _ _

theorem testHosts_ensures (hsvc : svc.Settles) (rules : List IngressRule) (requested : List String)
    (p : Progress) :
    Work.Ensures (testHosts svc s rules requested) p fun es _ p' =>
      (∀ e ∈ es, e.Quiet) ∧ p'.teardown = p.teardown := by
  induction rules generalizing requested p with
  | nil => exact Work.ensures_pure ⟨nofun, rfl⟩
  | cons rule rest ih =>
    refine (Work.ensures_lift Timed.ensures_isCancelled).bind fun es cancelled p' h => ?_
    obtain ⟨rfl, rfl⟩ := h
    split
    · exact Work.ensures_pure ⟨nofun, rfl⟩
    · refine (Work.ensures_lift (requestsFrom_only hsvc _ _ _ _ _)).bind fun es tested p' h => ?_
      obtain ⟨hes, rfl⟩ := h
      refine (step_ensures (Timed.ensures_pure (Q := fun es _ => es = []) rfl) _).bind
        fun es' _ p'' h => ?_
      obtain ⟨htear, r, rfl, -⟩ := h
      refine (ih tested.2 p'').mono fun es' _ q h => ⟨fun e he => ?_, h.2.trans htear⟩
      rw [List.nil_append, List.nil_append, List.mem_append] at he
      exact he.elim (hes e) (h.1 e)

theorem provision_ensures (hsvc : svc.Settles) (hs : s.Representable) (random : Nat → Nat)
    (p : Progress) :
    Work.Ensures (provision svc s random) p fun es _ p' =>
      ∃ cs ok fs, Attempts svc s.resources cs ok ∧ es = cs.map .create ++ fs ∧
        (∀ e ∈ fs, e.Quiet) ∧ p'.teardown = cs.reverse ++ p.teardown := by
  refine (createAll_ensures hsvc s.resources p).bind fun es ok p' h => ?_
  obtain ⟨cs, hcs, rfl, htear⟩ := h
  split
  · refine (step_ensures ((rollout_only hsvc hs random).bind fun _ => Timed.only_pure _) p').bind
      fun fs v p'' h => ?_
    obtain ⟨htear', r, hfs, -⟩ := h
    exact Work.ensures_pure ⟨cs, ok, fs, hcs, by simp, hfs, htear'.trans htear⟩
  · exact Work.ensures_pure ⟨cs, ok, [], hcs, rfl, nofun, htear⟩

end

end Checkup.Cluster
