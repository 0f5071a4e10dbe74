import Checkup.Proofs.Fault.Leaf
import Checkup.Proofs.Timed.Basic
import Checkup.Proofs.Timed.Ensures
import Checkup.Script

/-!
# Contracts of scripts

`s.Ensures log Q` says of a script that it comes to its end from a log on, whatever becomes of its token,
and that `Q` holds of what it has called by then, of its value, if no step failed, and of its log. There
is one rule for each way to build a script.

A step that waits for one reply is told by its label and that reply. `trail` gives the leaves of a list of
such steps, and `Cut` says in which way leaves can follow labels; `UpToFailure` says so of the leaves
themselves, whatever calls they come from. A limit on the time of a call is a matter of its reply too
(`Reply.within`).

Results:
* `within_call` and `connecting_call`: a call with a limit on its time is a call with another reply.
* `ensures_recorded`: the rule for an activity that leaves one leaf.
* `Ensures.bind_recording`: the rule for a call that leaves one leaf and that others follow;
  `Ensures.bind_step`, `Ensures.bind_attempt`, `Ensures.bind_act`, `Ensures.bind_fail` and `Ensures.node`.
* `trail_cut` and `trail_append`: the laws of trails.
-/
namespace Checkup

/-! ## Replies -/

namespace Reply

variable {α β : Type}

/-- The reply comes, with a value or with an error. -/
def Returns (r : Reply α) : Prop := ∃ d result, r = .answers d result

/-- The reply comes with this value. -/
def Yields (r : Reply α) (v : α) : Prop := ∃ d, r = .answers d (.ok v)

/-- The reply comes with an error. -/
def Fails (r : Reply α) : Prop := ∃ d e, r = .answers d (.error e)

theorem Yields.unique {r : Reply α} {v w : α} (hv : r.Yields v) (hw : r.Yields w) : v = w := by
  obtain ⟨d, rfl⟩ := hv
  obtain ⟨d', h⟩ := hw
  cases h
  rfl

theorem Fails.not_yields {r : Reply α} (h : r.Fails) (v : α) : ¬ r.Yields v := by
  obtain ⟨d, e, rfl⟩ := h
  rintro ⟨d', h⟩
  cases h

/-- The reply comes with a value. -/
def succeeds : Reply α → Bool
  | answers _ (.ok _) => true
  | _ => false

/-- The reply as it looks to one who waits for it with a limit on the time, and makes of what has come
by then, if anything has, a value or an error. -/
def within (limit : Span) (f : Option (Except Fault α) → Except Fault β) (r : Reply α) : Reply β :=
  match limit.expiry? 0, r with
  | none, answers d result => answers d (f (some result))
  | none, panics d p => panics d p
  | none, hangs => hangs
  | some l, answers d result => if d ≤ l then answers d (f (some result)) else answers l (f none)
  | some l, panics d p => if d ≤ l then panics d p else answers l (f none)
  | some l, hangs => answers l (f none)

theorem within_returns {limit : Span} {f : Option (Except Fault α) → Except Fault β} {r : Reply α}
    (h : r.Returns ∨ r = .hangs ∧ fitsClock 0 limit = true) : (r.within limit f).Returns := by
  unfold within Span.expiry?
  rcases h with ⟨d, result, rfl⟩ | ⟨rfl, hfits⟩
  · cases fitsClock 0 limit with
    | false => exact ⟨_, _, rfl⟩
    | true =>
      by_cases hd : d ≤ limit.ticks
      · exact ⟨_, _, if_pos hd⟩
      · exact ⟨_, _, if_neg hd⟩
  · rw [if_pos hfits]
    exact ⟨_, _, rfl⟩

theorem succeeds_iff {r : Reply α} : r.succeeds = true ↔ ∃ d v, r = .answers d (.ok v) := by
  match r with
  | answers d (.ok v) => exact ⟨fun _ => ⟨d, v, rfl⟩, fun _ => rfl⟩
  | answers d (.error e) => exact ⟨nofun, nofun⟩
  | panics .. | hangs => exact ⟨nofun, nofun⟩

/-- One who makes an error of a reply that is late gets a value only from one that is not. -/
theorem within_succeeds {limit : Span} {f : Option (Except Fault α) → Except Fault β} {e : Fault}
    (hf : f none = .error e) {r : Reply α} :
    (r.within limit f).succeeds = true ↔
      ∃ d result, r = .answers d result ∧ (∀ l, limit.expiry? 0 = some l → d ≤ l) ∧
        ∃ v, f (some result) = .ok v := by
  unfold within
  cases r with
  | answers d result =>
    have hsame : (answers d (f (some result))).succeeds = true ↔ ∃ v, f (some result) = .ok v := by
      rw [succeeds_iff]
      exact ⟨fun ⟨_, v, h⟩ => ⟨v, (answers.inj h).2⟩, fun ⟨v, h⟩ => ⟨d, v, by rw [h]⟩⟩
    cases limit.expiry? 0 with
    | none =>
      rw [hsame]
      exact ⟨fun h => ⟨d, result, rfl, nofun, h⟩, fun ⟨_, _, hr, _, h⟩ => by cases hr; exact h⟩
    | some l =>
      by_cases hd : d ≤ l
      · simp only [if_pos hd, hsame]
        exact ⟨fun h => ⟨d, result, rfl, fun _ hl => by cases hl; exact hd, h⟩,
          fun ⟨_, _, hr, _, h⟩ => by cases hr; exact h⟩
      · simp only [if_neg hd, hf]
        exact ⟨nofun, fun ⟨_, _, hr, hle, _⟩ => by cases hr; exact absurd (hle l rfl) hd⟩
  | panics d p =>
    refine ⟨fun h => ?_, nofun⟩
    cases hl : limit.expiry? 0 with
    | none => rw [hl] at h; cases h
    | some l => by_cases hd : d ≤ l <;> simp [hl, hd, hf, succeeds] at h
  | hangs =>
    refine ⟨fun h => ?_, nofun⟩
    cases hl : limit.expiry? 0 <;> simp [hl, hf, succeeds] at h

end Reply

namespace Timed

variable {ε α β : Type}

/-- Giving up the wait for a reply does not undo the call. -/
@[simp] theorem cut_called (e : ε) (ending : Ending α) (t : Nat) (tok : Token) (v : β) :
    (⟨[(0, e)], ending⟩ : Course ε α).cut t tok v = ⟨[(0, e)], .returned t tok v⟩ := by
  simp [Course.cut, Course.callsUntil]

theorem within_call (limit : Span) (f : Option (Except Fault α) → Except Fault β) (e : ε)
    (r : Reply α) : f <$> (call e r).within limit = call e (r.within limit f) := by
  funext tok
  refine (bind_pure_apply _ f tok).trans ?_
  cases hfits : fitsClock 0 limit with
  | false => cases r <;> simp [within, call, await, Reply.within, Span.expiry?, hfits, Ending.map]
  | true =>
    cases r with
    | answers d result =>
      by_cases hd : d ≤ limit.ticks <;>
        simp [within, call, await, Reply.within, Span.expiry?, hfits, hd, Ending.map]
    | panics d p =>
      by_cases hd : d ≤ limit.ticks <;>
        simp [within, call, await, Reply.within, Span.expiry?, hfits, hd, Ending.map]
    | hangs => simp [within, call, await, Reply.within, Span.expiry?, hfits, Ending.map]

theorem connecting_call (limit : Span) (late : Fault) (e : ε) (r : Reply α) :
    connecting limit late (call e r) = call e (r.within limit (·.getD (.error late))) := by
  rw [← within_call]
  show (call e r).within limit >>= _ = (call e r).within limit >>= _
  congr 1
  funext outcome
  cases outcome <;> rfl

theorem Ensures.shielded {x : Timed ε α} {P : List ε → α → Prop} (h : x.Ensures P) :
    x.shielded.Ensures P := by
  intro tok
  obtain ⟨t, tok', v, he, hv⟩ := h .never
  exact ⟨t, tok.after t, v, by simp [Timed.shielded, he], hv⟩

end Timed

/-! ## Leaves -/

/-- The leaf of a step. -/
def Node.ofOutcome {α : Type} (label : String) : Except Fault α → Node
  | .ok _ => .pass label
  | .error e => .ofFault label e

theorem StepLog.settle_eq {α : Type} (log : StepLog) (label : String) (r : Except Fault α) :
    log.settle label r = (r.toOption, log.record (.ofOutcome label r)) := by
  cases r <;> rfl

@[simp] theorem StepLog.leaves_record (log : StepLog) (leaf : Node) :
    (log.record leaf).leaves = log.leaves ++ [leaf] := rfl

/-- The leaves of steps that wait for replies: one for each, up to the first that is an error. -/
def trail : List (String × Reply Unit) → List Node
  | [] => []
  | (label, r) :: rest => match r with
    | .answers _ (.ok _) => .pass label :: trail rest
    | .answers _ (.error e) => [.ofFault label e]
    | .panics .. | .hangs => []

/-- Leaves that follow labels: a passed leaf under each, or under each up to one under which a failed leaf
stands as the last of all. -/
inductive Cut : List String → List Node → Prop where
  | done : Cut [] []
  | failed {label : String} {rest : List String} {leaf : Node} : leaf.name = label →
      leaf.passed = false → leaf.children = [] → Cut (label :: rest) [leaf]
  | passed {label : String} {rest : List String} {leaves : List Node} : Cut rest leaves →
      Cut (label :: rest) (.pass label :: leaves)

/-- A leaf under each label in turn, up to one that failed, which is the last of all. Unlike in a `Cut`, a
leaf that passed may show a status code. -/
inductive UpToFailure : List String → List Node → Prop where
  | done : UpToFailure [] []
  | failed {label : String} {rest : List String} {leaf : Node} : leaf.name = label →
      leaf.passed = false → leaf.children = [] → UpToFailure (label :: rest) [leaf]
  | passed {label : String} {rest : List String} {leaf : Node} {leaves : List Node} :
      leaf.name = label → leaf.passed = true → leaf.children = [] → UpToFailure rest leaves →
        UpToFailure (label :: rest) (leaf :: leaves)

/-- Every leaf has passed that another one stands behind. -/
theorem UpToFailure.pairwise {labels : List String} {leaves : List Node} (h : UpToFailure labels leaves) :
    leaves.Pairwise fun leaf _ => leaf.passed = true := by
  induction h with
  | done => exact .nil
  | failed => exact List.pairwise_singleton _ _
  | passed _ hpassed _ _ ih => exact .cons (fun _ _ => hpassed) ih

theorem Cut.length_le {labels : List String} {leaves : List Node} (h : Cut labels leaves) :
    leaves.length ≤ labels.length := by
  induction h with
  | done => exact Nat.le_refl _
  | failed => exact Nat.succ_le_succ (Nat.zero_le _)
  | passed _ ih => exact Nat.succ_le_succ ih

theorem Node.ofFault_leaf (label : String) (e : Fault) :
    (ofFault label e).name = label ∧ (ofFault label e).passed = false ∧
      (ofFault label e).children = [] := by
  rw [ofFault_eq]
  exact ⟨rfl, rfl, rfl⟩

theorem Node.ofOutcome_leaf {α : Type} (label : String) (result : Except Fault α) :
    (ofOutcome label result).name = label ∧ (ofOutcome label result).children = [] ∧
      (ofOutcome label result).passed = result.toOption.isSome := by
  cases result with
  | ok v => exact ⟨rfl, rfl, rfl⟩
  | error e =>
    obtain ⟨hname, hpassed, hchildren⟩ := ofFault_leaf label e
    exact ⟨hname, hchildren, hpassed⟩

/-- The leaf of a step: it has passed exactly if something holds. -/
structure Node.Tells (leaf : Node) (label : String) (holds : Prop) : Prop where
  name : leaf.name = label
  children : leaf.children = []
  passed : leaf.passed = true ↔ holds

theorem Node.tells_ofOutcome {α : Type} (label : String) (result : Except Fault α) :
    (ofOutcome label result).Tells label (∃ v, result = .ok v) := by
  obtain ⟨hname, hchildren, hpassed⟩ := ofOutcome_leaf label result
  refine ⟨hname, hchildren, ?_⟩
  rw [hpassed]
  cases result with
  | ok v => exact ⟨fun _ => ⟨v, rfl⟩, fun _ => rfl⟩
  | error e => exact ⟨nofun, nofun⟩

theorem Node.pass_ne_ofFault (label label' : String) (e : Fault) : pass label ≠ ofFault label' e := by
  intro h
  have hpassed := (ofFault_leaf label' e).2.1
  rw [← h] at hpassed
  cases hpassed

theorem trail_append {steps rest : List (String × Reply Unit)} :
    trail (steps ++ rest) =
      if steps.all (·.2.succeeds) then trail steps ++ trail rest else trail steps := by
  induction steps with
  | nil => rfl
  | cons step steps ih =>
    obtain ⟨label, r⟩ := step
    match r with
    | .answers _ (.ok _) =>
      rw [List.cons_append, trail, ih, List.all_cons, trail]
      exact apply_ite (Node.pass label :: ·) _ _ _
    | .answers _ (.error _) | .panics .. | .hangs => simp [trail, Reply.succeeds]

theorem trail_cut {steps : List (String × Reply Unit)} (h : ∀ step ∈ steps, step.2.Returns) :
    Cut (steps.map Prod.fst) (trail steps) := by
  induction steps with
  | nil => exact .done
  | cons step steps ih =>
    obtain ⟨label, r⟩ := step
    obtain ⟨d, result, hr⟩ := h _ List.mem_cons_self
    simp only at hr
    subst hr
    cases result with
    | ok => exact .passed (ih fun s hs => h s (List.mem_cons_of_mem _ hs))
    | error e =>
      obtain ⟨hname, hpassed, hchildren⟩ := Node.ofFault_leaf label e
      exact .failed hname hpassed hchildren

theorem mem_trail {steps : List (String × Reply Unit)} {leaf : Node} (h : leaf ∈ trail steps) :
    ∃ step ∈ steps, leaf.name = step.1 ∧ leaf.passed = step.2.succeeds := by
  induction steps with
  | nil => cases h
  | cons step steps ih =>
    obtain ⟨label, r⟩ := step
    match r with
    | .answers d (.ok _) =>
      rcases List.mem_cons.mp h with rfl | h
      · exact ⟨_, List.mem_cons_self, rfl, rfl⟩
      · obtain ⟨step, hmem, hleaf⟩ := ih h
        exact ⟨step, List.mem_cons_of_mem _ hmem, hleaf⟩
    | .answers d (.error e) =>
      cases List.mem_singleton.mp h
      obtain ⟨hname, hpassed, -⟩ := Node.ofFault_leaf label e
      exact ⟨_, List.mem_cons_self, hname, hpassed⟩
    | .panics .. | .hangs => cases h

/-- The last step has passed exactly when all have. -/
theorem pass_mem_trail (steps : List (String × Reply Unit)) {label : String} {r : Reply Unit}
    (hlabel : ∀ step ∈ steps, step.1 ≠ label) :
    .pass label ∈ trail (steps ++ [(label, r)]) ↔
      (steps ++ [(label, r)]).all (·.2.succeeds) = true := by
  have hnot : .pass label ∉ trail steps := fun h => by
    obtain ⟨step, hmem, hname, -⟩ := mem_trail h
    exact hlabel step hmem hname.symm
  rw [trail_append, List.all_append]
  by_cases hall : steps.all (·.2.succeeds) = true
  · rw [if_pos hall, hall, List.mem_append, or_iff_right hnot]
    match r with
    | .answers d (.ok _) => simp [trail, Reply.succeeds]
    | .answers d (.error e) =>
      simp [trail, Reply.succeeds, Node.pass_ne_ofFault]
    | .panics .. | .hangs => simp [trail, Reply.succeeds]
  · rw [if_neg hall, iff_false_left hnot, Bool.and_eq_true]
    exact fun h => hall h.1

/-! ## Scripts -/

namespace Script

variable {ε α β : Type} {log : StepLog} {Q : List ε → Option β → StepLog → Prop}

/-- From a log on, the script always comes to its end, with these calls, this value and this log. -/
def Ensures (s : Script ε α) (log : StepLog) (Q : List ε → Option α → StepLog → Prop) : Prop :=
  Timed.Ensures (s.run log) fun es v => Q es v.1 v.2

theorem Ensures.mono {s : Script ε α} {P Q : List ε → Option α → StepLog → Prop} (h : s.Ensures log P)
    (hpq : ∀ es v log', P es v log' → Q es v log') : s.Ensures log Q :=
  Timed.Ensures.mono h fun es v => hpq es v.1 v.2

theorem ensures_pure {v : β} (h : Q [] (some v) log) : (pure v : Script ε β).Ensures log Q :=
  Timed.ensures_pure h

/-- A part that failed ends the script; otherwise its calls stand before those of the rest. -/
theorem Ensures.bind {s : Script ε α} {f : α → Script ε β} {P : List ε → Option α → StepLog → Prop}
    (hs : s.Ensures log P) (hnone : ∀ es log', P es none log' → Q es none log')
    (hsome : ∀ es v log', P es (some v) log' →
      (f v).Ensures log' fun es' w log'' => Q (es ++ es') w log'') : (s >>= f).Ensures log Q := by
  refine Timed.Ensures.bind hs fun es r hr => ?_
  obtain ⟨v, log'⟩ := r
  cases v with
  | none => exact Timed.ensures_pure (by rw [List.append_nil]; exact hnone es log' hr)
  | some v => exact hsome es v log' hr

theorem Ensures.bind_pure {v : α} {f : α → Script ε β} (h : (f v).Ensures log Q) :
    ((pure v : Script ε α) >>= f).Ensures log Q := by
  refine (ensures_pure (Q := fun es w log' => es = [] ∧ w = some v ∧ log' = log)
    ⟨rfl, rfl, rfl⟩).bind ?_ ?_
  · rintro es log' ⟨-, hw, -⟩
    cases hw
  · rintro es w log' ⟨rfl, hw, rfl⟩
    cases hw
    exact h

section
variable {leaf : Except Fault α → Node} {e : ε} {r : Reply α} {s : Script ε α}

/-- A step comes to its end as its activity does, and records the outcome in a way of its own. -/
theorem ensures_recorded {x : Timed ε (Except Fault α)} {P : List ε → Except Fault α → Prop}
    (hs : ∀ log, s.run log = do
      let result ← x
      return (result.toOption, log.record (leaf result)))
    (hx : x.Ensures P) (log : StepLog) :
    s.Ensures log fun es v log' =>
      ∃ result, P es result ∧ v = result.toOption ∧ log' = log.record (leaf result) := by
  unfold Script.Ensures
  rw [hs]
  refine Timed.Ensures.bind hx fun es result hresult => Timed.ensures_pure ?_
  rw [List.append_nil]
  exact ⟨result, hresult, rfl, rfl⟩

/-- A step that waits for a reply, and records its outcome in a way of its own. -/
theorem ensures_recording (hr : r.Returns)
    (hs : ∀ log, s.run log = do
      let result ← Timed.call e r
      return (result.toOption, log.record (leaf result))) :
    s.Ensures log fun es v log' => es = [e] ∧ ∃ d result, r = .answers d result ∧
      v = result.toOption ∧ log' = log.record (leaf result) := by
  obtain ⟨d, result, rfl⟩ := hr
  refine (ensures_recorded hs Timed.ensures_call log).mono ?_
  rintro es v log' ⟨result, ⟨rfl, rfl⟩, hv, hlog⟩
  exact ⟨rfl, d, _, rfl, hv, hlog⟩

/-- Such a step, and what follows if the reply comes with a value. -/
theorem Ensures.bind_recording {f : α → Script ε β} (hr : r.Returns)
    (hs : ∀ log, s.run log = do
      let result ← Timed.call e r
      return (result.toOption, log.record (leaf result)))
    (herror : ∀ d fault, r = .answers d (.error fault) →
      Q [e] none (log.record (leaf (.error fault))))
    (hok : ∀ d v, r = .answers d (.ok v) →
      (f v).Ensures (log.record (leaf (.ok v))) fun es w log' => Q (e :: es) w log') :
    (s >>= f).Ensures log Q := by
  refine (ensures_recording hr hs).bind ?_ ?_
  · rintro es log' ⟨rfl, d, result, rfl, hv, rfl⟩
    cases result with
    | ok v => cases hv
    | error fault => exact herror d fault rfl
  · rintro es v log' ⟨rfl, d, result, rfl, hv, rfl⟩
    cases result with
    | ok w => cases hv; exact hok d v rfl
    | error fault => cases hv

end

theorem step_run (label : String) (x : Timed ε (Except Fault α)) (log : StepLog) :
    (step label x).run log = do
      let result ← x
      return (result.toOption, log.record (.ofOutcome label result)) := by
  show (do return log.settle label (← x)) = _
  simp only [StepLog.settle_eq]

/-- A step that waits for a reply, and what follows if it comes with a value. -/
theorem Ensures.bind_step {label : String} {e : ε} {r : Reply α} {f : α → Script ε β} (hr : r.Returns)
    (herror : ∀ d fault, r = .answers d (.error fault) →
      Q [e] none (log.record (.ofFault label fault)))
    (hok : ∀ d v, r = .answers d (.ok v) →
      (f v).Ensures (log.record (.pass label)) fun es w log' => Q (e :: es) w log') :
    (step label (Timed.call e r) >>= f).Ensures log Q :=
  Ensures.bind_recording hr (step_run label _) herror hok

/-- Nothing follows a failure that is recorded. -/
theorem Ensures.bind_fail {label error : String} {f : α → Script ε β} (h : Q [] none (log.fail label error)) :
    (fail label error >>= f).Ensures log Q :=
  Timed.Ensures.bind (Timed.ensures_pure (Q := fun es r => es = [] ∧ r = (none, log.fail label error))
    ⟨rfl, rfl⟩) fun es r hr => by
      rw [hr.1, hr.2]
      exact Timed.ensures_pure h

/-- A part whose failure does not end the script, and what follows it. -/
theorem Ensures.bind_attempt {s : Script ε α} {f : Option α → Script ε β}
    {P : List ε → Option α → StepLog → Prop} (hs : s.Ensures log P)
    (hf : ∀ es v log', P es v log' → (f v).Ensures log' fun es' w log'' => Q (es ++ es') w log'') :
    (attempt s >>= f).Ensures log Q := by
  have h : (attempt s).Ensures log fun es v log' => ∃ u, v = some u ∧ P es u log' :=
    Timed.Ensures.bind hs fun es r hr =>
      Timed.ensures_pure (by rw [List.append_nil]; exact ⟨r.1, rfl, hr⟩)
  refine h.bind ?_ ?_
  · rintro es log' ⟨u, hu, -⟩
    cases hu
  · rintro es v log' ⟨u, hu, hP⟩
    cases hu
    exact hf es v log' hP

/-- A call that is no step of its own, and what follows it. -/
theorem Ensures.bind_act {e : ε} {r : Reply α} {f : Except Fault α → Script ε β} (hr : r.Returns)
    (hf : ∀ v, (f v).Ensures log fun es w log' => Q (e :: es) w log') :
    (act (Timed.call e r) >>= f).Ensures log Q := by
  obtain ⟨d, result, rfl⟩ := hr
  have h : (act (Timed.call e (.answers d result))).Ensures log fun es v log' =>
      es = [e] ∧ v = some result ∧ log' = log :=
    Timed.Ensures.bind Timed.ensures_call fun es r hr => Timed.ensures_pure (by
      rw [List.append_nil, hr.1, hr.2]; exact ⟨rfl, rfl, rfl⟩)
  refine h.bind ?_ ?_
  · rintro es log' ⟨-, hv, -⟩
    cases hv
  · rintro es v log' ⟨rfl, hv, rfl⟩
    cases hv
    exact hf _

theorem Ensures.node {s : Script ε α} {P : List ε → StepLog → Prop}
    (h : s.Ensures .empty fun es _ log => P es log) (key name : String) :
    (s.node key name).Ensures fun es node => ∃ log, P es log ∧ node = log.finish key name := by
  have hlog : s.log.Ensures P := Timed.Ensures.bind h fun es r hr =>
    Timed.ensures_pure (by rw [List.append_nil]; exact hr)
  exact Timed.Ensures.bind hlog fun es log hP =>
    Timed.ensures_pure (by rw [List.append_nil]; exact ⟨log, hP, rfl⟩)

end Script
end Checkup
