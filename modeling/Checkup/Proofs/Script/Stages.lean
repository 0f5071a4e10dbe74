import Checkup.Proofs.Script.Contract

/-!
# Scripts as lists of stages

A script takes one step after another up to the first that fails, and does something more if none did. A
`Stage` is a step as it is seen from outside: its label, its calls, and what it makes of their reply.
`Stage.called` and `Stage.leaves` give the calls and the leaves of a list of stages and of what stands
behind them, and `s.Takes` says of a script that it comes to just that, whatever its log. A `RoundTrip` is
made of stages that write something and of two steps behind them, of which the second is taken in any case.

Results:
* `judged_call` and `within_late`: a step that looks at its reply, and one that waits for it in vain.
* `leaves_eq`, `leaves_append`, `leaves_cut` and `pass_mem_leaves`: the leaves of stages.
* `called_eq`, `called_prefix` and `count_called`: their calls.
* `RoundTrip.Settles.leaves`, `RoundTrip.Settles.count_written` and `RoundTrip.Settles.notMem_unwritten`:
  those of a round trip.
* `takes_pure`, `takes_step`, `Takes.step`, `Takes.check`, `Takes.attempt`, `Takes.act` and `takes_behind`:
  the rules.
* `Takes.node` and `Makes.node`: the nodes of such scripts.
-/
namespace Checkup

/-! ## Replies -/

namespace Reply

variable {α β : Type} {r : Reply α} {limit : Span}

/-- The reply to one who makes a value or an error of whatever comes. -/
def judged (f : Except Fault α → Except Fault β) : Reply α → Reply β
  | answers d result => answers d (f result)
  | panics d p => panics d p
  | hangs => hangs

/-- The reply without its value. -/
def void (r : Reply α) : Reply Unit := r.judged (·.map fun _ => ())

theorem Returns.judged (h : r.Returns) (f : Except Fault α → Except Fault β) : (r.judged f).Returns := by
  obtain ⟨d, result, rfl⟩ := h
  exact ⟨d, f result, rfl⟩

theorem Returns.void (h : r.Returns) : r.void.Returns := h.judged _

/-- One who accepts some values only gets no other. -/
theorem judged_succeeds {f : Except Fault α → Except Fault β} {accepts : α → Prop}
    (hf : ∀ result, (∃ w, f result = .ok w) ↔ ∃ v, result = .ok v ∧ accepts v) :
    (r.judged f).succeeds = true ↔ ∃ d v, r = .answers d (.ok v) ∧ accepts v := by
  rw [succeeds_iff]
  cases r with
  | answers d result =>
    constructor
    · intro h
      obtain ⟨d', w, h⟩ := h
      obtain ⟨v, rfl, hv⟩ := (hf result).mp ⟨w, (answers.inj h).2⟩
      exact ⟨d, v, rfl, hv⟩
    · intro h
      obtain ⟨d', v, h, hv⟩ := h
      obtain ⟨w, hw⟩ := (hf result).mpr ⟨v, (answers.inj h).2, hv⟩
      exact ⟨d, w, congrArg (answers d) hw⟩
  | panics d p => simp [judged]
  | hangs => simp [judged]

theorem unit_succeeds {r : Reply Unit} : r.succeeds = true ↔ ∃ d, r = .answers d (.ok ()) := by
  rw [succeeds_iff]
  constructor
  · intro h
    obtain ⟨d, v, h⟩ := h
    exact ⟨d, h⟩
  · intro h
    obtain ⟨d, h⟩ := h
    exact ⟨d, (), h⟩

/-- A connection that has come within the limit. -/
theorem within_connects {r : Reply Unit} {e : Fault} :
    (r.within limit (·.getD (.error e))).succeeds = true ↔
      ∃ d, r = .answers d (.ok ()) ∧ ∀ l, limit.expiry? 0 = some l → d ≤ l := by
  rw [within_succeeds (e := e) rfl]
  constructor
  · intro h
    obtain ⟨d, result, hr, hlimit, v, rfl⟩ := h
    exact ⟨d, hr, hlimit⟩
  · intro h
    obtain ⟨d, hr, hlimit⟩ := h
    exact ⟨d, .ok (), hr, hlimit, (), rfl⟩

theorem void_succeeds (r : Reply α) : r.void.succeeds = r.succeeds := by
  match r with
  | answers d (.ok v) => rfl
  | answers d (.error e) => rfl
  | panics d p => rfl
  | hangs => rfl

/-- Nothing has come when a limit is over that the clock can show. -/
def Late (r : Reply α) (limit : Span) : Prop :=
  fitsClock 0 limit = true ∧ (r = .hangs ∨ ∃ d result, r = .answers d result ∧ limit.ticks < d)

theorem within_late (h : r.Late limit) (f : Option (Except Fault α) → Except Fault β) :
    r.within limit f = .answers limit.ticks (f none) := by
  obtain ⟨hfits, hlate⟩ := h
  unfold within Span.expiry?
  rw [if_pos hfits]
  rcases hlate with rfl | ⟨d, result, rfl, hd⟩
  · rfl
  · exact if_neg (Nat.not_le.mpr hd)

end Reply

theorem Timed.judged_call {ε α β : Type} (f : Except Fault α → Except Fault β) (e : ε) (r : Reply α) :
    f <$> call e r = call e (r.judged f) := by
  funext tok
  refine (bind_pure_apply _ f tok).trans ?_
  cases r <;> rfl

/-! ## Stages -/

/-- A step of a script: its label, the calls that it makes, and the reply as the step takes it. -/
structure Stage (ε : Type) where
  label : String
  calls : List ε
  reply : Reply Unit

namespace Stage

variable {ε : Type} {s : Stage ε} {stages : List (Stage ε)} {behind : List Node} {calls : List ε}

/-- Whether all stages pass. -/
def passed (stages : List (Stage ε)) : Bool := stages.all (·.reply.succeeds)

/-- The label and the reply of a stage. -/
def told (s : Stage ε) : String × Reply Unit := (s.label, s.reply)

/-- The calls of stages up to the first that fails, and what is called behind them if none does. -/
def called : List (Stage ε) → List ε → List ε
  | [], behind => behind
  | s :: stages, behind => s.calls ++ if s.reply.succeeds then called stages behind else []

/-- The leaves of stages up to the first that fails, and those behind them if none does. -/
def leaves (stages : List (Stage ε)) (behind : List Node) : List Node :=
  trail (stages.map told) ++ if passed stages then behind else []

theorem leaves_nil (behind : List Node) : leaves ([] : List (Stage ε)) behind = behind := rfl

theorem leaves_eq (stages : List (Stage ε)) (behind : List Node) :
    leaves stages behind = leaves stages [] ++ if passed stages then behind else [] := by
  cases h : passed stages <;> simp [leaves, h]

theorem leaves_append (stages stages' : List (Stage ε)) (behind : List Node) :
    leaves (stages ++ stages') behind = leaves stages (leaves stages' behind) := by
  have hpassed : passed (stages ++ stages') = (passed stages && passed stages') := List.all_append
  have hall : (stages.map told).all (·.2.succeeds) = passed stages := List.all_map
  simp only [leaves, hpassed, List.map_append, trail_append, hall]
  cases passed stages <;> simp

theorem leaves_ok {label : String} {es : List ε} {d : Nat} :
    leaves (⟨label, es, .answers d (.ok ())⟩ :: stages) behind = .pass label :: leaves stages behind := by
  simp [leaves, passed, told, trail, Reply.succeeds]

theorem leaves_error {label : String} {es : List ε} {d : Nat} {e : Fault} :
    leaves (⟨label, es, .answers d (.error e)⟩ :: stages) behind = [.ofFault label e] := by
  simp [leaves, passed, told, trail, Reply.succeeds]

theorem leaves_cut (h : ∀ s ∈ stages, s.reply.Returns) :
    Cut (stages.map Stage.label) (leaves stages []) := by
  have hreturns : ∀ step ∈ stages.map told, step.2.Returns := by
    intro step hstep
    obtain ⟨s, hs, rfl⟩ := List.mem_map.mp hstep
    exact h s hs
  have hcut := trail_cut hreturns
  have hleaves : leaves stages [] = trail (stages.map told) := by simp [leaves]
  rw [List.map_map] at hcut
  rw [hleaves]
  exact hcut

theorem mem_leaves {leaf : Node} (h : leaf ∈ leaves stages []) :
    ∃ s ∈ stages, leaf.name = s.label ∧ leaf.passed = s.reply.succeeds := by
  have hleaves : leaves stages [] = trail (stages.map told) := by simp [leaves]
  rw [hleaves] at h
  obtain ⟨step, hstep, hname, hpassed⟩ := mem_trail h
  obtain ⟨s, hs, rfl⟩ := List.mem_map.mp hstep
  exact ⟨s, hs, hname, hpassed⟩

/-- The last stage has passed exactly if all have. -/
theorem pass_mem_leaves (stages : List (Stage ε)) (s : Stage ε)
    (hlabel : ∀ s' ∈ stages, s'.label ≠ s.label) :
    .pass s.label ∈ leaves (stages ++ [s]) [] ↔ passed (stages ++ [s]) = true := by
  have hlabels : ∀ step ∈ stages.map told, step.1 ≠ s.label := by
    intro step hstep
    obtain ⟨s', hs', rfl⟩ := List.mem_map.mp hstep
    exact hlabel s' hs'
  have hpass := pass_mem_trail (stages.map told) (r := s.reply) hlabels
  simpa [leaves, passed, told, Function.comp_def] using hpass

theorem called_eq (stages : List (Stage ε)) (behind : List ε) :
    called stages behind = called stages [] ++ if passed stages then behind else [] := by
  induction stages with
  | nil => rfl
  | cons s stages ih =>
    cases h : s.reply.succeeds with
    | true =>
      simp only [called, h, if_true, passed, List.all_cons, Bool.true_and]
      rw [ih, List.append_assoc]
      rfl
    | false => simp [called, passed, h]

theorem called_prefix (stages : List (Stage ε)) (behind : List ε) :
    called stages behind <+: stages.flatMap Stage.calls ++ behind := by
  induction stages with
  | nil => exact List.prefix_refl _
  | cons s stages ih =>
    rw [called, List.flatMap_cons, List.append_assoc, List.prefix_append_right_inj]
    split
    · exact ih
    · exact List.nil_prefix

/-- What is called by stages alone is called by one of them. -/
theorem mem_called {e : ε} (h : e ∈ called stages []) : e ∈ stages.flatMap Stage.calls := by
  have hprefix := called_prefix stages []
  rw [List.append_nil] at hprefix
  exact hprefix.subset h

/-- A call that no stage makes is made behind them, if at all. -/
theorem count_called [DecidableEq ε] {e : ε} (h : e ∉ stages.flatMap Stage.calls) :
    (called stages calls).count e = if passed stages then calls.count e else 0 := by
  have hnone : e ∉ called stages [] := fun hmem => h (mem_called hmem)
  rw [called_eq, List.count_append, List.count_eq_zero_of_not_mem hnone, Nat.zero_add]
  split
  · rfl
  · exact List.count_nil

theorem called_single : called [s] [] = s.calls := by
  rw [called, called, ite_self, List.append_nil]

/-- A single stage has a single leaf. -/
theorem leaves_single (h : s.reply.Returns) :
    ∃ leaf : Node, leaves [s] [] = [leaf] ∧ leaf.Tells s.label (s.reply.succeeds = true) := by
  obtain ⟨label, es, reply⟩ := s
  obtain ⟨d, result, hreply⟩ := h
  simp only at hreply
  subst hreply
  have htells := Node.tells_ofOutcome label result
  cases result with
  | ok v =>
    refine ⟨.pass label, leaves_ok, htells.name, htells.children, ?_⟩
    exact ⟨fun _ => rfl, fun _ => rfl⟩
  | error e =>
    refine ⟨.ofFault label e, leaves_error, htells.name, htells.children, ?_⟩
    rw [show (Node.ofFault label e).passed = false from (Node.ofFault_leaf label e).2.1]
    exact ⟨nofun, nofun⟩

end Stage

/-! ## Round trips -/

/-- Stages of which the last writes something, and behind them a step that reads it and one that deletes
it. The deletion is taken whatever became of the reading. -/
structure RoundTrip (ε : Type) where
  opening : List (Stage ε)
  write : Stage ε
  read : Stage ε
  delete : Stage ε

namespace RoundTrip

variable {ε : Type} (trip : RoundTrip ε)

/-- The steps up to the writing. -/
def stages : List (Stage ε) := trip.opening ++ [trip.write]

/-- The leaves up to the writing. -/
def front : List Node := Stage.leaves trip.stages []

/-- The leaves behind the writing. -/
def back : List Node :=
  if Stage.passed trip.stages then Stage.leaves [trip.read] [] ++ Stage.leaves [trip.delete] [] else []

def calls : List ε := Stage.called trip.stages (trip.read.calls ++ trip.delete.calls)

/-- Every step has a reply, and the writing a label of its own. -/
structure Settles : Prop where
  stages : ∀ s ∈ trip.stages, s.reply.Returns
  read : trip.read.reply.Returns
  delete : trip.delete.reply.Returns
  label : ∀ s ∈ trip.opening, s.label ≠ trip.write.label

/-- The leaves of a round trip. `same` says that what is read is what was written, `removed` that the
deletion succeeds. -/
structure Leaves (labels : List String) (write read delete : String) (same removed : Prop)
    (front back : List Node) : Prop where
  cut : Cut (labels ++ [write]) front
  /-- What was written is read, and then deleted whatever became of the reading. -/
  written : .pass write ∈ front →
    ∃ r d : Node, back = [r, d] ∧ r.Tells read same ∧ d.Tells delete removed
  unwritten : .pass write ∉ front → back = []

section
variable {trip : RoundTrip ε}

theorem Settles.written_iff (h : trip.Settles) :
    .pass trip.write.label ∈ trip.front ↔ Stage.passed trip.stages = true :=
  Stage.pass_mem_leaves trip.opening trip.write h.label

theorem Settles.leaves (h : trip.Settles) :
    Leaves (trip.opening.map Stage.label) trip.write.label trip.read.label trip.delete.label
      (trip.read.reply.succeeds = true) (trip.delete.reply.succeeds = true) trip.front trip.back := by
  have hcut := Stage.leaves_cut h.stages
  rw [RoundTrip.stages, List.map_append] at hcut
  refine ⟨hcut, fun hpass => ?_, fun hpass => ?_⟩
  · obtain ⟨r, hr, htells⟩ := Stage.leaves_single h.read
    obtain ⟨d, hd, htells'⟩ := Stage.leaves_single h.delete
    rw [back, if_pos (h.written_iff.mp hpass), hr, hd]
    exact ⟨r, d, rfl, htells, htells'⟩
  · exact if_neg fun hall => hpass (h.written_iff.mpr hall)

theorem calls_prefix (trip : RoundTrip ε) :
    trip.calls <+: trip.stages.flatMap Stage.calls ++ (trip.read.calls ++ trip.delete.calls) :=
  Stage.called_prefix _ _

theorem count_calls [DecidableEq ε] {e : ε}
    (he : e ∉ trip.stages.flatMap Stage.calls ++ trip.read.calls) :
    trip.calls.count e = if Stage.passed trip.stages then trip.delete.calls.count e else 0 := by
  rw [List.mem_append, not_or] at he
  obtain ⟨hstages, hread⟩ := he
  rw [calls, Stage.count_called hstages, List.count_append, List.count_eq_zero_of_not_mem hread,
    Nat.zero_add]

/-- A call that only the deletion makes is made as often as that makes it if the writing has passed. -/
theorem Settles.count_written [DecidableEq ε] (h : trip.Settles) {e : ε}
    (he : e ∉ trip.stages.flatMap Stage.calls ++ trip.read.calls)
    (hwritten : .pass trip.write.label ∈ trip.front) : trip.calls.count e = trip.delete.calls.count e := by
  rw [count_calls he, if_pos (h.written_iff.mp hwritten)]

theorem Settles.notMem_unwritten [DecidableEq ε] (h : trip.Settles) {e : ε}
    (he : e ∉ trip.stages.flatMap Stage.calls ++ trip.read.calls)
    (hunwritten : .pass trip.write.label ∉ trip.front) : e ∉ trip.calls := by
  have hcount := count_calls he
  rw [if_neg fun hall => hunwritten (h.written_iff.mpr hall)] at hcount
  exact List.count_eq_zero.mp hcount

end
end RoundTrip

/-! ## The contract -/

namespace Script

variable {ε α β : Type} {s : Script ε α} {f : α → Script ε β} {stages stages' : List (Stage ε)}
  {calls calls' : List ε} {leaves leaves' : List Node}

/-- Whatever its log, the script comes to its end with the calls and the leaves of these stages and of
what stands behind them. -/
def Takes (s : Script ε α) (stages : List (Stage ε)) (calls : List ε) (leaves : List Node) : Prop :=
  ∀ log, s.Ensures log fun es _ log' =>
    es = Stage.called stages calls ∧ log'.leaves = log.leaves ++ Stage.leaves stages leaves

theorem takes_pure (v : α) : (pure v : Script ε α).Takes [] [] [] := by
  intro log
  exact ensures_pure ⟨rfl, (List.append_nil _).symm⟩

/-- A step that makes one call, and what follows it. -/
theorem Takes.step {label : String} {e : ε} {r : Reply α} (hr : r.Returns)
    (hok : ∀ d v, r = .answers d (.ok v) → (f v).Takes stages calls leaves) :
    (Script.step label (Timed.call e r) >>= f).Takes (⟨label, [e], r.void⟩ :: stages) calls leaves := by
  intro log
  refine Ensures.bind_step hr (fun d fault h => ?_) (fun d v h => ?_)
  · rw [h]
    refine ⟨rfl, ?_⟩
    rw [Reply.void, Reply.judged, Except.map, Stage.leaves_error]
    rfl
  · refine (hok d v h (log.record (.pass label))).mono fun es w log' hes => ?_
    obtain ⟨rfl, hleaves⟩ := hes
    rw [h]
    refine ⟨rfl, ?_⟩
    rw [hleaves, Reply.void, Reply.judged, Except.map, Stage.leaves_ok, StepLog.leaves_record,
      List.append_assoc]
    rfl

/-- A step that makes no call, and what follows it. -/
theorem Takes.check {label : String} {result : Except Fault α} {d : Nat} {r : Reply Unit}
    (hr : r = .answers d (result.map fun _ => ()))
    (hok : ∀ v, result = .ok v → (f v).Takes stages calls leaves) :
    (Script.step label (pure result) >>= f).Takes (⟨label, [], r⟩ :: stages) calls leaves := by
  subst hr
  intro log
  have hstep : (Script.step label (pure result : Timed ε (Except Fault α))).Ensures log
      fun es v log' => es = [] ∧ v = result.toOption ∧ log' = log.record (.ofOutcome label result) := by
    unfold Script.Ensures
    rw [step_run]
    exact Timed.ensures_pure ⟨rfl, rfl, rfl⟩
  refine hstep.bind ?_ ?_
  · intro es log' h
    obtain ⟨rfl, hv, rfl⟩ := h
    cases result with
    | ok v => cases hv
    | error e =>
      refine ⟨rfl, ?_⟩
      rw [Except.map, Stage.leaves_error]
      rfl
  · intro es v log' h
    obtain ⟨rfl, hv, rfl⟩ := h
    cases result with
    | ok w =>
      cases hv
      refine (hok v rfl _).mono fun es w log' hes => ?_
      obtain ⟨rfl, hleaves⟩ := hes
      refine ⟨rfl, ?_⟩
      rw [hleaves, Except.map, Stage.leaves_ok, StepLog.leaves_record, List.append_assoc]
      rfl
    | error e => cases hv

theorem takes_step {label : String} {e : ε} {r : Reply α} (hr : r.Returns) :
    (Script.step label (Timed.call e r)).Takes [⟨label, [e], r.void⟩] [] [] := by
  rw [← bind_pure (Script.step label (Timed.call e r))]
  exact Takes.step hr fun d v _ => takes_pure v

/-- A part whose failure does not end the script, and what follows it. -/
theorem Takes.attempt {f : Option α → Script ε β} (hs : s.Takes stages calls leaves)
    (hf : ∀ v, (f v).Takes stages' calls' leaves') :
    (Script.attempt s >>= f).Takes [] (Stage.called stages calls ++ Stage.called stages' calls')
      (Stage.leaves stages leaves ++ Stage.leaves stages' leaves') := by
  intro log
  refine (hs log).bind_attempt fun es v log' hes => ?_
  obtain ⟨rfl, hleaves⟩ := hes
  refine (hf v log').mono fun es' w log'' hes' => ?_
  obtain ⟨rfl, hleaves'⟩ := hes'
  refine ⟨rfl, ?_⟩
  rw [hleaves', hleaves, List.append_assoc, Stage.leaves_nil]

/-- A call that is no step, and what follows it. -/
theorem Takes.act {e : ε} {r : Reply α} {f : Except Fault α → Script ε β} (hr : r.Returns)
    (hf : ∀ v, (f v).Takes [] calls leaves) :
    (Script.act (Timed.call e r) >>= f).Takes [] (e :: calls) leaves := by
  intro log
  refine Ensures.bind_act hr fun v => (hf v log).mono fun es w log' hes => ?_
  obtain ⟨rfl, hleaves⟩ := hes
  exact ⟨rfl, hleaves⟩

/-- The node of a script that no token reaches. -/
theorem Takes.node (h : s.Takes stages calls leaves) (key name : String) :
    (Probe.deaf key name (s.node key name)).run.Ensures fun es node =>
      es = Stage.called stages calls ∧ node = Node.aggregate key name (Stage.leaves stages leaves) := by
  have hscript : s.Ensures .empty fun es _ log =>
      es = Stage.called stages calls ∧ log.leaves = Stage.leaves stages leaves := h .empty
  refine ((hscript.node key name).mono fun es node hnode => ?_).shielded
  obtain ⟨log, ⟨hes, hleaves⟩, rfl⟩ := hnode
  exact ⟨hes, by rw [StepLog.finish, hleaves]⟩

/-- The script makes a round trip. -/
def Makes (s : Script ε α) (trip : RoundTrip ε) : Prop :=
  s.Takes trip.stages (trip.read.calls ++ trip.delete.calls)
    (Stage.leaves [trip.read] [] ++ Stage.leaves [trip.delete] [])

/-- What stands behind the writing of a round trip. -/
theorem takes_behind {read delete : Stage ε} {f : Option α → Script ε β} (hs : s.Takes [read] [] [])
    (hf : ∀ v, (f v).Takes [delete] [] []) :
    (Script.attempt s >>= f).Takes [] (read.calls ++ delete.calls)
      (Stage.leaves [read] [] ++ Stage.leaves [delete] []) := by
  have h := Takes.attempt hs hf
  rw [Stage.called_single, Stage.called_single] at h
  exact h

theorem Makes.node {trip : RoundTrip ε} (h : s.Makes trip) (key name : String) :
    (Probe.deaf key name (s.node key name)).run.Ensures fun es node =>
      es = trip.calls ∧ node = Node.aggregate key name (trip.front ++ trip.back) := by
  have hleaves : trip.front ++ trip.back = Stage.leaves trip.stages
      (Stage.leaves [trip.read] [] ++ Stage.leaves [trip.delete] []) := (Stage.leaves_eq _ _).symm
  rw [hleaves]
  exact Takes.node h key name

end Script
end Checkup
