import Checkup.Proofs.Fault.Leaf
import Checkup.Proofs.Script.Contract
import Checkup.Proofs.Text.Blank

/-!
# The log as a record

What each operation on a log leaves behind, and what a log holds after any sequence of them. An operation
is told apart from the log that it is done on: `Operation.Appends` says which leaf it appends, to whatever
log, and in which state it leaves the token. A sequence of operations appends a sequence of such leaves,
with the token handed on from each to the next.

Results:
* `Gives.bind_iff` and `gives_pure_iff`: what an activity returns, part by part.
* `blames_of_shownError`: a failed leaf shows its text, or a stand-in when that is blank.
* `settles_ofOutcome`: the leaf of a step, and the value that the step hands on.
* `perform_gives_iff` and `performAll_gives_iff`: one operation, and all of a sequence.
* `Recorded.split`: the leaves of the first operations of a sequence.
* `performAll_recorded`: all of it for a log that was empty, as the structure `Journal`.
-/
namespace Checkup

/-! ## What an activity returns -/

namespace Timed

variable {ε α β : Type}

/-- Under a token the activity returns a value, with the token as it is then. -/
def Gives (x : Timed ε α) (tok : Token) (v : α) (tok' : Token) : Prop :=
  ∃ t, (x tok).ending = .returned t tok' v

theorem gives_pure_iff {v w : α} {tok tok' : Token} :
    (Pure.pure v : Timed ε α).Gives tok w tok' ↔ w = v ∧ tok' = tok := by
  constructor
  · rintro ⟨t, h⟩
    cases h
    exact ⟨rfl, rfl⟩
  · rintro ⟨rfl, rfl⟩
    exact ⟨0, rfl⟩

theorem Gives.bind_iff {x : Timed ε α} {f : α → Timed ε β} {tok tok'' : Token} {w : β} :
    (x >>= f).Gives tok w tok'' ↔ ∃ v tok', x.Gives tok v tok' ∧ (f v).Gives tok' w tok'' := by
  constructor
  · rintro ⟨t, h⟩
    cases hx : (x tok).ending with
    | returned t' tok' v =>
      rw [bind_returned hx] at h
      exact ⟨v, tok', ⟨t', hx⟩, Course.returned_of_following h⟩
    | panicked t' p =>
      rw [bind_panicked hx] at h
      cases h
    | never =>
      rw [bind_never hx] at h
      cases h
  · rintro ⟨v, tok', ⟨t, hx⟩, t', hf⟩
    refine ⟨t + t', ?_⟩
    rw [bind_returned hx, Course.following, hf]
    rfl

end Timed

namespace StepLog

variable {ε α : Type}

/-! ## The leaves -/

/-- A failed leaf with a label that shows a text as its error, or a stand-in for a text of which trimming
leaves nothing; so the error is never blank. -/
structure Blames (label text : String) (leaf : Node) : Prop where
  name : leaf.name = label
  failed : leaf.passed = false
  childless : leaf.children = []
  error : leaf.error = some (if Text.trim text = "" then "unknown error" else text)
  not_blank : ∃ e, leaf.error = some e ∧ Text.trim e ≠ ""

/-- What a step leaves behind: its value is handed on, if it has one, and the leaf has passed then;
otherwise the leaf shows the messages of the chain of causes, the outermost first. -/
structure Settles (label : String) (outcome : Except Fault α) (value : Option α) (leaf : Node) : Prop where
  value : ∀ v, value = some v ↔ outcome = .ok v
  passed : ∀ v, outcome = .ok v → leaf = Node.pass label
  failed : ∀ fault, outcome = .error fault → Blames label (": ".intercalate fault.messages) leaf

theorem shownError_eq (text : String) :
    shownError text = if Text.trim text = "" then "unknown error" else text := by
  unfold shownError
  simp only [Text.trim_eq_empty]

theorem blames_of_shownError {label text : String} {leaf : Node} (hname : leaf.name = label)
    (hfailed : leaf.passed = false) (hchildless : leaf.children = [])
    (herror : leaf.error = some (shownError text)) : Blames label text leaf where
  name := hname
  failed := hfailed
  childless := hchildless
  error := by rw [herror, shownError_eq]
  not_blank := by
    refine ⟨_, herror, ?_⟩
    rw [shownError_eq]
    split
    · decide +kernel
    · assumption

theorem settles_ofOutcome (label : String) (outcome : Except Fault α) :
    Settles label outcome outcome.toOption (Node.ofOutcome label outcome) := by
  cases outcome with
  | ok v =>
    refine ⟨fun w => ?_, fun _ _ => rfl, nofun⟩
    simp [Except.toOption]
  | error fault =>
    refine ⟨fun w => ?_, nofun, ?_⟩
    · simp [Except.toOption]
    · rintro fault ⟨⟩
      have hleaf := Node.ofFault_eq label fault
      exact blames_of_shownError (by rw [Node.ofOutcome, hleaf]) (by rw [Node.ofOutcome, hleaf])
        (by rw [Node.ofOutcome, hleaf]) (by rw [Node.ofOutcome, hleaf]; rfl)

/-! ## Operations -/

/-- One operation on a log. The steps of a sequence may have values of any types. -/
inductive Operation (ε : Type) : Type 1 where
  | run {α : Type} (label : String) (step : Timed ε (Except Fault α))
  | runSync {α : Type} (label : String) (outcome : Except Fault α)
  | fail (label error : String)
  | record (leaf : Node)

namespace Operation

/-- The leaf that an operation appends to whatever log it is done on, when its token is in one state
before and in another one behind it. -/
def Appends (tok : Token) (leaf : Node) (tok' : Token) : Operation ε → Prop
  | run label step => ∃ outcome value, step.Gives tok outcome tok' ∧ Settles label outcome value leaf ∧
      ∀ log : StepLog, (log.run label step).Gives tok (value, ⟨log.leaves ++ [leaf]⟩) tok'
  | runSync label outcome => tok' = tok ∧ ∃ value, Settles label outcome value leaf ∧
      ∀ log : StepLog, log.settle label outcome = (value, ⟨log.leaves ++ [leaf]⟩)
  | fail label error => tok' = tok ∧ Blames label error leaf ∧
      ∀ log : StepLog, log.fail label error = ⟨log.leaves ++ [leaf]⟩
  | record leaf' => tok' = tok ∧ leaf = leaf'

/-- The operation comes to an end without a panic, whatever becomes of its token. -/
def Completes : Operation ε → Prop
  | run _ step => step.Ensures fun _ _ => True
  | _ => True

end Operation

def perform (log : StepLog) : Operation ε → Timed ε StepLog
  | .run label step => do return (← log.run label step).2
  | .runSync label outcome => pure (log.settle label outcome).2
  | .fail label error => pure (log.fail label error)
  | .record leaf => pure (log.record leaf)

def performAll (log : StepLog) : List (Operation ε) → Timed ε StepLog
  | [] => pure log
  | op :: ops => do performAll (← log.perform op) ops

theorem run_gives_iff {log log' : StepLog} {label : String} {step : Timed ε (Except Fault α)}
    {tok tok' : Token} {value : Option α} :
    (log.run label step).Gives tok (value, log') tok' ↔
      ∃ outcome, step.Gives tok outcome tok' ∧ log.settle label outcome = (value, log') := by
  unfold run
  simp only [Timed.Gives.bind_iff, Timed.gives_pure_iff]
  constructor
  · rintro ⟨outcome, tok₁, hstep, hsettle, rfl⟩
    exact ⟨outcome, hstep, hsettle.symm⟩
  · rintro ⟨outcome, hstep, hsettle⟩
    exact ⟨outcome, tok', hstep, hsettle.symm, rfl⟩

theorem fail_blames (label text : String) : Blames label text (Node.fail label (shownError text)) :=
  blames_of_shownError rfl rfl rfl rfl

/-- What an operation does to a log it does to every log: it appends one leaf. -/
theorem perform_gives_iff {log log' : StepLog} {op : Operation ε} {tok tok' : Token} :
    (log.perform op).Gives tok log' tok' ↔
      ∃ leaf, op.Appends tok leaf tok' ∧ log' = ⟨log.leaves ++ [leaf]⟩ := by
  cases op with
  | run label step =>
    simp only [perform, Timed.Gives.bind_iff, Timed.gives_pure_iff]
    constructor
    · rintro ⟨⟨value, log₁⟩, tok₁, hrun, rfl, rfl⟩
      obtain ⟨outcome, hstep, hsettle⟩ := run_gives_iff.mp hrun
      obtain ⟨rfl, rfl⟩ := Prod.mk.inj ((settle_eq log label outcome).symm.trans hsettle)
      have hevery : ∀ log : StepLog, (log.run label step).Gives tok
          (outcome.toOption, ⟨log.leaves ++ [Node.ofOutcome label outcome]⟩) tok' :=
        fun log => run_gives_iff.mpr ⟨outcome, hstep, settle_eq log label outcome⟩
      exact ⟨_, ⟨outcome, _, hstep, settles_ofOutcome label outcome, hevery⟩, rfl⟩
    · rintro ⟨leaf, ⟨outcome, value, -, -, hrun⟩, rfl⟩
      exact ⟨_, tok', hrun log, rfl, rfl⟩
  | runSync label outcome =>
    rw [perform, Timed.gives_pure_iff]
    constructor
    · rintro ⟨rfl, rfl⟩
      exact ⟨_, ⟨rfl, _, settles_ofOutcome label outcome, fun log' => settle_eq log' label outcome⟩,
        congrArg Prod.snd (settle_eq log label outcome)⟩
    · rintro ⟨leaf, ⟨rfl, value, -, hsettle⟩, rfl⟩
      exact ⟨(congrArg Prod.snd (hsettle log)).symm, rfl⟩
  | fail label error =>
    rw [perform, Timed.gives_pure_iff]
    constructor
    · rintro ⟨rfl, rfl⟩
      exact ⟨_, ⟨rfl, fail_blames label error, fun _ => rfl⟩, rfl⟩
    · rintro ⟨leaf, ⟨rfl, -, hfail⟩, rfl⟩
      exact ⟨(hfail log).symm, rfl⟩
  | record leaf =>
    rw [perform, Timed.gives_pure_iff]
    constructor
    · rintro ⟨rfl, rfl⟩
      exact ⟨leaf, ⟨rfl, rfl⟩, rfl⟩
    · rintro ⟨_, ⟨rfl, rfl⟩, rfl⟩
      exact ⟨rfl, rfl⟩

theorem perform_completes {op : Operation ε} (h : op.Completes) (log : StepLog) :
    (log.perform op).Ensures fun _ _ => True := by
  cases op with
  | run label step =>
    refine Timed.Ensures.bind (P := fun _ _ => True) ?_ fun _ _ _ => Timed.ensures_pure trivial
    exact Timed.Ensures.bind (P := fun _ _ => True) h fun _ _ _ => Timed.ensures_pure trivial
  | runSync label outcome => exact Timed.ensures_pure trivial
  | fail label error => exact Timed.ensures_pure trivial
  | record leaf => exact Timed.ensures_pure trivial

/-! ## Sequences of operations -/

/-- The leaves that a sequence of operations appends, one for each, with the token handed on. -/
inductive Recorded : Token → List (Operation ε) → List Node → Token → Prop where
  | nil {tok : Token} : Recorded tok [] [] tok
  | cons {tok tok' tok'' : Token} {op : Operation ε} {ops : List (Operation ε)} {leaf : Node}
      {leaves : List Node} (head : op.Appends tok leaf tok') (tail : Recorded tok' ops leaves tok'') :
      Recorded tok (op :: ops) (leaf :: leaves) tok''

namespace Recorded

variable {tok tok'' : Token} {ops before after : List (Operation ε)} {leaves : List Node}

theorem length_eq (h : Recorded tok ops leaves tok'') : leaves.length = ops.length := by
  induction h with
  | nil => rfl
  | cons _ _ ih => exact congrArg (· + 1) ih

/-- The leaves of the first operations come first, whatever operations are still to come. -/
theorem split (h : Recorded tok (before ++ after) leaves tok'') :
    ∃ first tok' rest, Recorded tok before first tok' ∧ Recorded tok' after rest tok'' ∧
      leaves = first ++ rest := by
  induction before generalizing tok leaves with
  | nil => exact ⟨[], tok, leaves, .nil, h, rfl⟩
  | cons op before ih =>
    obtain - | ⟨hleaf, hleaves⟩ := h
    obtain ⟨first, tok', rest, hfirst, hrest, rfl⟩ := ih hleaves
    exact ⟨_ :: first, tok', rest, .cons hleaf hfirst, hrest, rfl⟩

end Recorded

/-- A sequence of operations appends its leaves to what a log holds, and does nothing else to it. -/
theorem performAll_gives_iff {log log' : StepLog} {ops : List (Operation ε)} {tok tok'' : Token} :
    (log.performAll ops).Gives tok log' tok'' ↔
      ∃ leaves, Recorded tok ops leaves tok'' ∧ log' = ⟨log.leaves ++ leaves⟩ := by
  induction ops generalizing log tok with
  | nil =>
    rw [performAll, Timed.gives_pure_iff]
    constructor
    · rintro ⟨rfl, rfl⟩
      exact ⟨[], .nil, by rw [List.append_nil]⟩
    · rintro ⟨leaves, ⟨⟩, rfl⟩
      exact ⟨by rw [List.append_nil], rfl⟩
  | cons op ops ih =>
    rw [performAll, Timed.Gives.bind_iff]
    simp only [perform_gives_iff, ih]
    constructor
    · rintro ⟨_, tok', ⟨leaf, hleaf, rfl⟩, leaves, hleaves, rfl⟩
      exact ⟨leaf :: leaves, .cons hleaf hleaves, by rw [List.append_assoc, List.singleton_append]⟩
    · rintro ⟨_, hrecorded, rfl⟩
      obtain - | ⟨hleaf, hleaves⟩ := hrecorded
      exact ⟨_, _, ⟨_, hleaf, rfl⟩, _, hleaves, by rw [List.append_assoc, List.singleton_append]⟩

theorem performAll_completes {ops : List (Operation ε)} (h : ∀ op ∈ ops, op.Completes) (log : StepLog) :
    (log.performAll ops).Ensures fun _ _ => True := by
  induction ops generalizing log with
  | nil => exact Timed.ensures_pure trivial
  | cons op ops ih =>
    obtain ⟨hop, hops⟩ := List.forall_mem_cons.mp h
    exact (perform_completes hop log).bind fun _ log' _ => ih hops log'

/-- What a log holds that was empty before a sequence of operations. -/
structure Journal (ops : List (Operation ε)) (tok tok' : Token) (log : StepLog) : Prop where
  /-- The leaves are those that the operations append, in their order. -/
  recorded : Recorded tok ops log.leaves tok'
  length : log.leaves.length = ops.length
  /-- After the first operations the log held the first leaves, and those have stayed. -/
  kept : ∀ before after, ops = before ++ after → ∃ earlier tok₁,
    (empty.performAll before).Gives tok earlier tok₁ ∧
      earlier.leaves = log.leaves.take before.length
  /-- The node has the leaves as its children, and passes if and only if they all do. -/
  finish : ∀ key name, (log.finish key name).children = log.leaves ∧
    ((log.finish key name).passed = true ↔ ∀ leaf ∈ log.leaves, leaf.passed = true)

/-- A sequence of operations on an empty log completes if the steps do, and the log is then the record of
the operations. -/
theorem performAll_recorded (ops : List (Operation ε)) (tok : Token) :
    ((∀ op ∈ ops, op.Completes) → ∃ log tok', (empty.performAll ops).Gives tok log tok') ∧
      ∀ log tok', (empty.performAll ops).Gives tok log tok' → Journal ops tok tok' log := by
  constructor
  · intro hcomplete
    obtain ⟨t, tok', log, hlog, -⟩ := performAll_completes hcomplete empty tok
    exact ⟨log, tok', t, hlog⟩
  · intro log tok' hgives
    obtain ⟨leaves, hleaves, rfl⟩ := performAll_gives_iff.mp hgives
    refine
      { recorded := hleaves
        length := hleaves.length_eq
        kept := ?_
        finish := fun key name => ⟨rfl, List.all_eq_true⟩ }
    rintro before after rfl
    obtain ⟨first, tok₁, rest, hfirst, -, rfl⟩ := hleaves.split
    refine ⟨⟨first⟩, tok₁, performAll_gives_iff.mpr ⟨first, hfirst, rfl⟩, ?_⟩
    rw [← hfirst.length_eq]
    exact (List.take_left ..).symm

/-- One operation of each kind: a step that passes, a failure with a blank message and a detail, a blank
error, and a leaf. -/
def assorted : List (Operation Unit) :=
  [.run "Connect" (pure (.ok ())), .runSync "Login" (.error (.failure ⟨" ", some "expired", some 401⟩) :
    Except Fault Nat), .fail "Send" "\t", .record (Node.pass "Receive")]

theorem performAll_recorded_assorted :
    (∃ log tok', (empty.performAll assorted).Gives .never log tok') ∧
      Journal assorted .never .never ⟨[Node.pass "Connect",
        ((Node.fail "Login" "unknown error").withErrorDetail "expired").withStatusCode 401,
        Node.fail "Send" "unknown error", Node.pass "Receive"]⟩ := by
  obtain ⟨hcomplete, hjournal⟩ := performAll_recorded assorted .never
  refine ⟨hcomplete ?_, hjournal _ _ ⟨0, ?_⟩⟩
  · simp only [assorted, List.forall_mem_cons, Operation.Completes, List.not_mem_nil, false_implies,
      implies_true, and_true]
    exact Timed.ensures_pure trivial
  · rfl

end StepLog
end Checkup
