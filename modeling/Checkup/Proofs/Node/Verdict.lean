import Checkup.Proofs.Node.RoundTrip
import Checkup.Proofs.Script.Contract

/-!
# The verdict of a tree

The flag of a group is computed once, when the group is built, and carried along from then on. `Built`
says how trees come about; `Faithful` says that the flags of a tree tell the truth, at every depth.

Results:
* `Built.flag` and `Built.of_occurs`: what a built tree keeps through the builders, and that its subtrees
  are built too.
* `passed_iff_of_groups`: if each group in a tree has the verdict of its children, the tree has the
  verdict of its leaves.
* `Built.faithful`: a built tree is faithful.
-/
namespace Checkup.Node

/-- The trees that can be made of leaves, groups and copies with one more detail. -/
inductive Built : Node → Prop where
  | pass (name : String) : Built (pass name)
  | fail (name error : String) : Built (fail name error)
  | aggregate {key name : String} {children : List Node} :
      (∀ u ∈ children, Built u) → Built (aggregate key name children)
  | withKey {t : Node} (key : String) : Built t → Built (t.withKey key)
  | withErrorDetail {t : Node} (detail : String) : Built t → Built (t.withErrorDetail detail)
  | withStatusCode {t : Node} (code : UInt16) : Built t → Built (t.withStatusCode code)

/-- A node stands somewhere in a tree: at its root or below one of its children. -/
inductive Occurs : Node → Node → Prop where
  | root (t : Node) : Occurs t t
  | inside {s u t : Node} : u ∈ t.children → Occurs s u → Occurs s t

/-- A node stands somewhere in one of several trees. -/
def OccursIn (s : Node) (ts : List Node) : Prop := ∃ t ∈ ts, s.Occurs t

structure Faithful (t : Node) : Prop where
  /-- It is passed exactly when all its leaves are. -/
  flag : t.passed = true ↔ ∀ s : Node, s.Occurs t → s.children = [] → s.passed = true
  /-- Each group in it is passed exactly when all its children are. -/
  groups : ∀ s : Node, s.Occurs t → s.children ≠ [] → s.passed = s.children.all (·.passed)

variable {s t u : Node}

/-! ## What the builders keep -/

theorem Built.of_mem (h : t.Built) (hu : u ∈ t.children) : u.Built := by
  induction h with
  | pass name => cases hu
  | fail name error => cases hu
  | aggregate hchildren _ => exact hchildren u hu
  | withKey key _ ih => exact ih hu
  | withErrorDetail detail _ ih => exact ih hu
  | withStatusCode code _ ih => exact ih hu

theorem Built.of_occurs (h : s.Occurs t) (ht : t.Built) : s.Built := by
  induction h with
  | root => exact ht
  | inside hu _ ih => exact ih (ht.of_mem hu)

/-- The flag of a group is the conjunction of its children's. -/
theorem Built.flag (h : t.Built) (hne : t.children ≠ []) : t.passed = t.children.all (·.passed) := by
  induction h with
  | pass name => exact absurd rfl hne
  | fail name error => exact absurd rfl hne
  | aggregate _ _ => rfl
  | withKey key _ ih => exact ih hne
  | withErrorDetail detail _ ih => exact ih hne
  | withStatusCode code _ ih => exact ih hne

/-- A group without children counts as passed. -/
theorem aggregate_nil_passed (key name : String) : (aggregate key name []).passed = true := rfl

/-! ## From the groups to the leaves -/

theorem occurs_iff : s.Occurs t ↔ s = t ∨ s.OccursIn t.children := by
  constructor
  · intro h
    cases h with
    | root => exact .inl rfl
    | inside hu hs => exact .inr ⟨_, hu, hs⟩
  · rintro (rfl | ⟨u, hu, hs⟩)
    · exact .root s
    · exact .inside hu hs

theorem passed_iff_of_groups
    (h : ∀ s : Node, s.Occurs t → s.children ≠ [] → s.passed = s.children.all (·.passed)) :
    t.passed = true ↔ ∀ s : Node, s.Occurs t → s.children = [] → s.passed = true := by
  induction t using children_induction with
  | h t ih =>
    by_cases hne : t.children = []
    · -- A leaf is the only node of its tree.
      constructor
      · intro ht s hs _
        rcases occurs_iff.mp hs with rfl | ⟨u, hu, -⟩
        · exact ht
        · rw [hne] at hu
          cases hu
      · intro hall
        exact hall t (.root t) hne
    · rw [h t (.root t) hne, List.all_eq_true]
      have hchild : ∀ u ∈ t.children,
          (u.passed = true ↔ ∀ s : Node, s.Occurs u → s.children = [] → s.passed = true) := by
        intro u hu
        exact ih u hu fun s hs => h s (.inside hu hs)
      constructor
      · intro hall s hs hleaf
        rcases occurs_iff.mp hs with rfl | ⟨u, hu, hsu⟩
        · exact absurd hleaf hne
        · exact (hchild u hu).mp (hall u hu) s hsu hleaf
      · intro hall u hu
        exact (hchild u hu).mpr fun s hs => hall s (.inside hu hs)

theorem Built.faithful (h : t.Built) : t.Faithful := by
  have hgroups : ∀ s : Node, s.Occurs t → s.children ≠ [] → s.passed = s.children.all (·.passed) := by
    intro s hs hne
    exact (h.of_occurs hs).flag hne
  exact ⟨passed_iff_of_groups hgroups, hgroups⟩

/-- Trees are all passed exactly when all leaves in them are. -/
theorem all_passed_iff {ts : List Node} (h : ∀ t ∈ ts, t.Faithful) :
    ts.all (·.passed) = true ↔ ∀ s : Node, s.OccursIn ts → s.children = [] → s.passed = true := by
  rw [List.all_eq_true]
  constructor
  · rintro hall s ⟨t, ht, hs⟩ hleaf
    exact (h t ht).flag.mp (hall t ht) s hs hleaf
  · intro hall t ht
    exact (h t ht).flag.mpr fun s hs => hall s ⟨t, ht, hs⟩

/-! ## The leaves of steps -/

theorem built_ofFault (label : String) (e : Fault) : (ofFault label e).Built := by
  unfold ofFault
  cases e.failure? with
  | none => exact .fail label _
  | some f =>
    obtain ⟨message, detail, status⟩ := f
    cases detail <;> cases status <;> unfold withFailure
    case none.none => exact .fail label _
    case none.some code => exact .withStatusCode code (.fail label _)
    case some.none detail => exact .withErrorDetail detail (.fail label _)
    case some.some detail code =>
      exact .withStatusCode code (.withErrorDetail detail (.fail label _))

theorem built_ofOutcome {α : Type} (label : String) (r : Except Fault α) :
    (ofOutcome label r).Built := by
  cases r with
  | ok v => exact .pass label
  | error e => exact built_ofFault label e

end Checkup.Node
