import Checkup.Proofs.Harness.Guarded

/-!
# The time limit of a probe

What a limit and a grace period make of a probe. A probe that ends by the end of its limit, in the same
tick at the latest, is not touched by it. Any other finds its token fired there, and from then on the
harness waits for its end or for the end of the grace period, whichever is earlier; the answer tells of
the limit, and nothing that the probe still does can make it a passed one.

Nothing is assumed of the probe, of the lengths of the limit and the grace period, of the tick at which
the probe starts or of the shutdown. The clock may be unable to show the end of a timer; such a timer
never ends (`Span.expiry?`).

Results:
* `guarded_of_endsBy` and `guarded_of_late`: which of the two ways a probe goes.
* `settleLate_overrun`: the second way, as the structure `Overrun`.
* `guarded_timeLimited`: all of it, as the structure `TimeLimited`.
-/
namespace Checkup

/-- The activity returns or panics at a tick or before it. -/
def Course.EndsBy {ε α : Type} (c : Course ε α) (l : Nat) : Prop :=
  ∃ t, c.ending.time? = some t ∧ t ≤ l

namespace Probe

variable {ε : Type}

/-- What comes of a probe that is still at work at tick `l`, at which its limit is over: `late` is its
course with the token fired there, `last` the end of the grace period, if it has one, and `c` is what the
harness makes of it. -/
structure Overrun (p : Probe ε) (limit : Span) (tok : Token) (late : Course ε Node)
    (last : Option Nat) (c : Course ε Node) : Prop where
  /-- It is over when the probe ends or when the grace period does, whichever is earlier. -/
  ends : c.ending.time? = Option.merge min late.ending.time? last
  /-- No panic of the probe gets out. -/
  caught : ∀ t q, c.ending ≠ .panicked t q
  /-- The answer is a failed node, whatever the probe says. -/
  failed : ∀ t tok' node, c.ending = .returned t tok' node → node.passed = false
  /-- What the probe recorded by the end of the grace period is kept, with the limit behind it. -/
  kept : ∀ t tok' node, late.ending = .returned t tok' node → node.children ≠ [] →
    (∀ m, last = some m → t ≤ m) → c.ending = .returned t (tok.next t)
      (Node.aggregate p.key p.name
        (node.children ++ [Node.fail "Time limit" (overrunMessage limit)]))
  /-- If it has not returned any steps by then, the answer is a leaf under its own key and name. -/
  bare : (∀ t tok' node, late.ending = .returned t tok' node → node.children ≠ [] →
      ∃ m, last = some m ∧ m < t) →
    ∀ t tok' node, c.ending = .returned t tok' node → node.FailedLeaf p.key p.name

/-- What a limit and a grace period make of a probe that starts at a tick of a run. -/
structure TimeLimited (p : Probe ε) (limit grace : Span) (now : Nat) (tok : Token) : Prop where
  /-- A probe that ends by the end of its limit is run as without one. -/
  inTime : (∀ l, limit.expiry? now = some l → (p.run tok).EndsBy l) →
    p.guarded ⟨some limit, grace⟩ now tok = p.guarded ⟨none, grace⟩ now tok
  /-- Any other is cancelled at the end of its limit, and given up at the end of its grace period. -/
  overrun : ∀ l, limit.expiry? now = some l → ¬ (p.run tok).EndsBy l →
    p.Overrun limit tok (p.run (tok.within l)) ((grace.expiry? (now + l)).map (l + ·))
      (p.guarded ⟨some limit, grace⟩ now tok)
  /-- In any case there is an answer by the end of the grace period. -/
  bounded : ∀ l g, limit.expiry? now = some l → grace.expiry? (now + l) = some g →
    ∃ t tok' node, (p.guarded ⟨some limit, grace⟩ now tok).ending = .returned t tok' node ∧ t ≤ l + g

variable {p : Probe ε} {limit grace : Span} {now l : Nat} {tok : Token}

/-! ## The two ways of a probe -/

theorem any_time?_le {c : Course ε Node} : c.ending.time?.any (· ≤ l) = true ↔ c.EndsBy l := by
  simp [Course.EndsBy, Option.any_eq_true]

/-- A limit that a probe meets, or that never ends, makes no difference. -/
theorem guarded_of_endsBy (h : ∀ l, limit.expiry? now = some l → (p.run tok).EndsBy l) :
    p.guarded ⟨some limit, grace⟩ now tok = p.guarded ⟨none, grace⟩ now tok := by
  simp only [guarded, Span.ticksFrom_eq]
  by_cases hclock : fitsClock now limit = true
  · have hends := any_time?_le.mpr (h limit.ticks (if_pos hclock))
    rw [hends, Bool.or_true, if_pos rfl]
  · rw [Bool.not_eq_true] at hclock
    rw [hclock, Bool.not_false, Bool.true_or, if_pos rfl]

/-- A probe that is still at work at the end of its limit is settled by its course with the token fired
there. -/
theorem guarded_of_late (hl : limit.expiry? now = some l) (h : ¬ (p.run tok).EndsBy l) :
    p.guarded ⟨some limit, grace⟩ now tok =
      p.settleLate limit tok ((grace.expiry? (now + l)).map (l + ·)) (p.run (tok.within l)) := by
  unfold Span.expiry? at hl ⊢
  split at hl
  case isFalse => cases hl
  case isTrue hclock =>
    cases hl
    have hany := Bool.eq_false_iff.mpr (mt any_time?_le.mp h)
    simp only [guarded, Span.ticksFrom_eq, hclock, hany, Bool.not_true, Bool.or_self,
      Bool.false_eq_true, if_false]
    split <;> rfl

/-! ## Behind the limit -/

theorem lateNode_of_leaf {node : Node} (h : node.children = []) :
    p.lateNode limit node = p.overrunNode limit := by
  simp [lateNode, Node.isLeaf, h]

theorem lateNode_of_children {node : Node} (h : node.children ≠ []) :
    p.lateNode limit node = Node.aggregate p.key p.name
      (node.children ++ [Node.fail "Time limit" (overrunMessage limit)]) := by
  simp [lateNode, Node.isLeaf, h]

/-- The answer for a probe that ended behind its limit. -/
def lateAnswer (p : Probe ε) (limit : Span) : Ending Node → Node
  | .returned _ _ node => p.lateNode limit node
  | _ => p.overrunNode limit

/-- The leaf that tells of the limit fails its node. -/
theorem lateAnswer_failed (e : Ending Node) : (p.lateAnswer limit e).passed = false := by
  cases e with
  | returned t tok node =>
    by_cases h : node.children = []
    · exact congrArg Node.passed (lateNode_of_leaf h)
    · refine (congrArg Node.passed (lateNode_of_children h)).trans ?_
      simp [Node.aggregate, Node.fail]
  | panicked t q => rfl
  | never => rfl

theorem lateAnswer_bare {e : Ending Node}
    (h : ∀ t tok' node, e = .returned t tok' node → node.children = []) :
    p.lateAnswer limit e = p.overrunNode limit := by
  cases e with
  | returned t tok' node => exact lateNode_of_leaf (h t tok' node rfl)
  | panicked t q => rfl
  | never => rfl

variable {late : Course ε Node} {last : Option Nat}

/-- A probe that ends within its grace period. -/
theorem settleLate_ended (p : Probe ε) (limit : Span) (tok : Token) {t : Nat}
    (ht : late.ending.time? = some t) (hin : ∀ m, last = some m → t ≤ m) :
    (p.settleLate limit tok last late).ending =
      .returned t (tok.next t) (p.lateAnswer limit late.ending) := by
  have hall : last.all (t ≤ ·) = true := by simpa [Option.all_eq_true] using hin
  cases he : late.ending with
  | returned u tok' node => rw [he] at ht; cases ht; simp [settleLate, he, hall, lateAnswer]
  | panicked u q => rw [he] at ht; cases ht; simp [settleLate, he, hall, lateAnswer]
  | never => rw [he] at ht; cases ht

/-- A probe that returns within its grace period keeps its calls and its steps. -/
theorem settleLate_returned {t : Nat} {tok' : Token} {node : Node}
    (he : late.ending = .returned t tok' node) (hin : ∀ m, last = some m → t ≤ m)
    (hc : node.children ≠ []) :
    p.settleLate limit tok last late = ⟨late.calls, .returned t (tok.next t)
      (Node.aggregate p.key p.name
        (node.children ++ [Node.fail "Time limit" (overrunMessage limit)]))⟩ := by
  have hall : last.all (t ≤ ·) = true := by simpa [Option.all_eq_true] using hin
  simp only [settleLate, he, hall, if_true, lateNode_of_children hc]

/-- The harness sees the calls of a late probe up to the end of the grace period. -/
theorem settleLate_calls (p : Probe ε) (limit : Span) (tok : Token) (last : Option Nat)
    (late : Course ε Node) :
    (p.settleLate limit tok last late).calls = late.calls ∨
      ∃ m, last = some m ∧ (p.settleLate limit tok last late).calls = late.callsUntil m := by
  unfold settleLate
  cases last with
  | none =>
    left
    cases late.ending <;> rfl
  | some m =>
    cases late.ending with
    | returned t tok' node =>
      dsimp only
      split
      · exact .inl rfl
      · exact .inr ⟨m, rfl, rfl⟩
    | panicked t q =>
      dsimp only
      split
      · exact .inl rfl
      · exact .inr ⟨m, rfl, rfl⟩
    | never => exact .inr ⟨m, rfl, rfl⟩

/-- A probe that is still at work at the end of its grace period. -/
theorem settleLate_givenUp (p : Probe ε) (limit : Span) (tok : Token) {m : Nat}
    (h : ∀ t, late.ending.time? = some t → m < t) :
    (p.settleLate limit tok (some m) late).ending =
      .returned m (tok.next m) (p.overrunNode limit) := by
  cases he : late.ending with
  | returned t tok' node =>
    have := Nat.not_le.mpr (h t (by rw [he]; rfl))
    simp [settleLate, he, this]
  | panicked t q =>
    have := Nat.not_le.mpr (h t (by rw [he]; rfl))
    simp [settleLate, he, this]
  | never => simp [settleLate, he]

/-- A probe that never ends, and whose grace period does not either. -/
theorem settleLate_never (p : Probe ε) (limit : Span) (tok : Token) (h : late.ending = .never) :
    (p.settleLate limit tok none late).ending = .never := by
  simp [settleLate, h]

/-- The ways out of the grace period. -/
theorem inGrace_or (late : Course ε Node) (last : Option Nat) :
    (∃ t, late.ending.time? = some t ∧ ∀ m, last = some m → t ≤ m) ∨
    (∃ m, last = some m ∧ ∀ t, late.ending.time? = some t → m < t) ∨
    late.ending = .never ∧ last = none := by
  cases ht : late.ending.time? with
  | none =>
    cases last with
    | none => cases he : late.ending <;> simp_all [Ending.time?]
    | some m => exact .inr (.inl ⟨m, rfl, nofun⟩)
  | some t =>
    by_cases hin : ∀ m, last = some m → t ≤ m
    · exact .inl ⟨t, rfl, hin⟩
    · obtain ⟨m, rfl, hm⟩ : ∃ m, last = some m ∧ m < t := by simpa using hin
      exact .inr (.inl ⟨m, rfl, fun u hu => by cases hu; exact hm⟩)

theorem settleLate_overrun (p : Probe ε) (limit : Span) (tok : Token) (late : Course ε Node)
    (last : Option Nat) :
    p.Overrun limit tok late last (p.settleLate limit tok last late) := by
  rcases inGrace_or late last with ⟨t, ht, hin⟩ | ⟨m, rfl, hm⟩ | ⟨he, rfl⟩
  case inl =>
    have h := settleLate_ended p limit tok ht hin
    refine
      { ends := ?_
        caught := fun _ _ hq => by rw [h] at hq; cases hq
        failed := fun _ _ _ hn => by rw [h] at hn; cases hn; exact lateAnswer_failed _
        kept := fun u tok' node he hc _ => ?_
        bare := fun hb u tok' node hn => ?_ }
    · rw [h, ht]
      cases last with
      | none => rfl
      | some m => exact congrArg some (Nat.min_eq_left (hin m rfl)).symm
    · rw [he] at ht; cases ht
      rw [h, he]
      exact congrArg _ (lateNode_of_children hc)
    · rw [h] at hn; cases hn
      rw [lateAnswer_bare fun u tok' node he => ?_]
      · exact overrunNode_failedLeaf limit
      · refine Classical.byContradiction fun hc => ?_
        obtain ⟨m, rfl, hm⟩ := hb u tok' node he hc
        rw [he] at ht; cases ht
        exact absurd (hin m rfl) (Nat.not_le.mpr hm)
  case inr.inl =>
    have h := settleLate_givenUp p limit tok hm
    refine
      { ends := ?_
        caught := fun _ _ hq => by rw [h] at hq; cases hq
        failed := fun _ _ _ hn => by rw [h] at hn; cases hn; rfl
        kept := fun u tok' node he _ hin => ?_
        bare := fun _ _ _ _ hn => by rw [h] at hn; cases hn; exact overrunNode_failedLeaf limit }
    · rw [h]
      cases ht : late.ending.time? with
      | none => rfl
      | some t => exact congrArg some (Nat.min_eq_right (Nat.le_of_lt (hm t ht))).symm
    · exact absurd (hin m rfl) (Nat.not_le.mpr (hm u (by rw [he]; rfl)))
  case inr.inr =>
    have h := settleLate_never p limit tok he
    refine
      { ends := by rw [h, he]; rfl
        caught := fun _ _ hq => by rw [h] at hq; cases hq
        failed := fun _ _ _ hn => by rw [h] at hn; cases hn
        kept := fun _ _ _ he' => by rw [he] at he'; cases he'
        bare := fun _ _ _ _ hn => by rw [h] at hn; cases hn }

/-! ## The whole -/

/-- Within a limit, however long, a probe that ends by it is answered for as without one; any other is
cancelled at its end and answered for as a failed one, at the latest when the grace period is over, with
the steps that it recorded by then. -/
theorem guarded_timeLimited (p : Probe ε) (limit grace : Span) (now : Nat) (tok : Token) :
    p.TimeLimited limit grace now tok := by
  have hover : ∀ l, limit.expiry? now = some l → ¬ (p.run tok).EndsBy l →
      p.Overrun limit tok (p.run (tok.within l)) ((grace.expiry? (now + l)).map (l + ·))
        (p.guarded ⟨some limit, grace⟩ now tok) := by
    intro l hl hlate
    rw [guarded_of_late hl hlate]
    exact settleLate_overrun ..
  refine { inTime := guarded_of_endsBy, overrun := hover, bounded := fun l g hl hg => ?_ }
  by_cases hends : (p.run tok).EndsBy l
  · obtain ⟨t, ht, hle⟩ := hends
    rw [guarded_of_endsBy fun l' hl' => by rw [hl] at hl'; cases hl'; exact ⟨t, ht, hle⟩]
    cases he : (p.run tok).ending with
    | returned u tok' node =>
      rw [he] at ht; cases ht
      exact ⟨t, tok.next t, node, congrArg (p.settle tok) he, by omega⟩
    | panicked u q =>
      rw [he] at ht; cases ht
      exact ⟨t, tok.next t, p.panicNode q, congrArg (p.settle tok) he, by omega⟩
    | never => rw [he] at ht; cases ht
  · have ho := hover l hl hends
    have htime := ho.ends
    rw [hg, Option.map_some] at htime
    cases he : (p.guarded ⟨some limit, grace⟩ now tok).ending with
    | returned t tok' node =>
      refine ⟨t, tok', node, rfl, ?_⟩
      rw [he] at htime
      cases hlate : (p.run (tok.within l)).ending.time? with
      | none => rw [hlate] at htime; cases htime; exact Nat.le_refl _
      | some u => rw [hlate] at htime; cases htime; exact Nat.min_le_right ..
    | panicked t q => exact absurd he (ho.caught t q)
    | never =>
      rw [he] at htime
      cases hlate : (p.run (tok.within l)).ending.time? <;> rw [hlate] at htime <;> cases htime

end Probe
end Checkup
