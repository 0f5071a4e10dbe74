import Checkup.Fault

/-!
# The leaf of a fault

A failure stands in a chain either at its end, as the cause of everything before it, or further out, as
the context of another cause. The leaf of a step shows the detail and the status code of a failure at the
end, through any number of contexts. It passes over the failures that are attached as context, although a
reader would take the outermost of them for the one that is meant.

Results:
* `headline_eq_text`: the two ways to show a fault agree.
* `ofFault_eq`: the leaf, field by field.
* `failures_eq`: where the failures of a chain stand.
* `ofFault_lifts`: which failure the leaf shows, as the structure `Lifting`.
* `ofFault_passesOver`: an attached failure that is not shown.
-/
namespace Checkup

namespace Fault

/-- The messages of a failure that stands alone are just its message. -/
theorem headline_eq_text (fault : Fault) : fault.headline = fault.text := by
  unfold headline
  cases hf : fault.failure? with
  | none => rfl
  | some f =>
    dsimp only
    split
    · rename_i hlength
      cases fault with
      | message text => cases hf
      | failure g =>
        cases hf
        simp [text, messages]
      | context text cause => cases cause <;> simp [messages] at hlength
      | contextFailure g cause => cases cause <;> simp [messages] at hlength
    · rfl

/-- All failures in the chain, the outermost first. -/
def failures : Fault → List Failure
  | message _ => []
  | failure f => [f]
  | context _ cause => cause.failures
  | contextFailure f cause => f :: cause.failures

/-- The failures in the chain that are attached as context to another cause, the outermost first. -/
def attached : Fault → List Failure
  | message _ => []
  | failure _ => []
  | context _ cause => cause.attached
  | contextFailure f cause => f :: cause.attached

/-- Behind those that are attached, at most one failure stands in a chain. -/
theorem failures_eq (fault : Fault) : fault.failures = fault.attached ++ fault.failure?.toList := by
  induction fault with
  | message text => rfl
  | failure f => rfl
  | context text cause ih => exact ih
  | contextFailure f cause ih => exact congrArg (f :: ·) ih

end Fault

namespace Node

theorem ofFault_eq (label : String) (fault : Fault) : ofFault label fault =
    ⟨none, label, false, some (shownError fault.text), fault.failure?.bind (·.detail),
      fault.failure?.bind (·.status), []⟩ := by
  unfold ofFault
  rw [Fault.headline_eq_text]
  cases fault.failure? with
  | none => rfl
  | some f =>
    obtain ⟨message, detail, status⟩ := f
    cases detail <;> cases status <;> rfl

/-- The leaf carries the detail and the status code of a failure, as far as it has them, and carries
neither if there is no failure. -/
def Carries (leaf : Node) (f : Option Failure) : Prop :=
  leaf.errorDetail = f.bind (·.detail) ∧ leaf.statusCode = f.bind (·.status)

instance (leaf : Node) (f : Option Failure) : Decidable (leaf.Carries f) :=
  inferInstanceAs (Decidable (_ ∧ _))

structure Lifting (fault : Fault) (leaf : Node) : Prop where
  /-- A failure that is the cause itself is lifted, whatever is attached to it. -/
  cause : ∀ f, fault.failures = fault.attached ++ [f] → leaf.Carries (some f)
  /-- Without one there is nothing to lift, whatever failures are attached. -/
  bare : fault.failures = fault.attached → leaf.Carries none
  /-- There are no other chains. -/
  either : (∃ f, fault.failures = fault.attached ++ [f]) ∨ fault.failures = fault.attached
  /-- So where no failure is attached, the leaf carries the outermost failure, if there is one. -/
  outermost : fault.attached = [] → leaf.Carries fault.failures.head?

/-- The leaf of a fault carries what the failure at the end of the chain says, and nothing of failures that
are attached as context. -/
theorem ofFault_lifts (label : String) (fault : Fault) : Lifting fault (ofFault label fault) := by
  have hleaf : (ofFault label fault).Carries fault.failure? := by
    rw [ofFault_eq]
    exact ⟨rfl, rfl⟩
  have hfailures := fault.failures_eq
  cases hf : fault.failure? with
  | none =>
    rw [hf] at hleaf hfailures
    replace hfailures : fault.failures = fault.attached := by simpa using hfailures
    exact
      { cause := fun f h => by simp [hfailures] at h
        bare := fun _ => hleaf
        either := .inr hfailures
        outermost := fun h => by rwa [hfailures, h] }
  | some f =>
    rw [hf] at hleaf hfailures
    replace hfailures : fault.failures = fault.attached ++ [f] := hfailures
    refine
      { cause := fun g h => ?_
        bare := fun h => by simp [hfailures] at h
        either := .inl ⟨f, hfailures⟩
        outermost := fun h => by rwa [hfailures, h] }
    obtain rfl : f = g := by simpa [hfailures] using h
    exact hleaf

/-- The only failure in the chain says that a token has expired, and the leaf does not carry that. -/
theorem ofFault_passesOver :
    let expired : Failure := ⟨"invalid_token", some "Token expired", some 401⟩
    let fault : Fault := .contextFailure expired (.message "connection reset")
    fault.failures = [expired] ∧ (ofFault "Read" fault).Carries none ∧
      ¬ (ofFault "Read" fault).Carries fault.failures.head? := by
  decide

end Node
end Checkup
