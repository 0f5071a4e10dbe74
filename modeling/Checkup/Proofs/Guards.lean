import Mathlib.Data.List.Perm.Basic

/-!
# Checks one after another

Results:
* `bind_eq_ok` and `bind_eq_error`: a sequence of two checks passes if both do, and fails as the first that
  does.
* `bind_pure_eq_ok`: what is made of the result of a check.
* `exists_eq_ok`: a check that can be seen to pass.
* `ite_error_eq_ok`: a guard passes if its condition does not hold.
* `mapM_eq_some_iff` and `isSome_mapM`: what can fail is done for a list of things if it is done for each
  of them.
* `perm_mapM`: their order makes a difference only to the order of what comes of them.
-/
namespace Checkup

variable {ε α β : Type}

theorem bind_eq_error {x : Except ε α} {f : α → Except ε β} {e : ε} :
    (x >>= f) = .error e ↔ x = .error e ∨ ∃ v, x = .ok v ∧ f v = .error e := by
  cases x with
  | error e' => simp [bind, Except.bind]
  | ok v => simp [bind, Except.bind]

theorem bind_eq_ok {x : Except ε α} {f : α → Except ε β} {w : β} :
    (x >>= f) = .ok w ↔ ∃ v, x = .ok v ∧ f v = .ok w := by
  cases x with
  | error e => simp [bind, Except.bind]
  | ok v => simp [bind, Except.bind]

theorem bind_pure_eq_ok {x : Except ε α} {f : α → β} {w : β} :
    (x >>= fun v => pure (f v)) = .ok w ↔ ∃ v, x = .ok v ∧ w = f v := by
  cases x with
  | error e => simp [bind, Except.bind]
  | ok v => simp [bind, Except.bind, pure, Except.pure, eq_comm]

theorem exists_eq_ok {x : Except ε α} (h : x.toOption.isSome = true) : ∃ v, x = .ok v := by
  cases x with
  | error e => cases h
  | ok v => exact ⟨v, rfl⟩

theorem ite_error_eq_ok {p : Prop} [Decidable p] {e : ε} {x : Except ε α} {v : α} :
    (if p then .error e else x) = .ok v ↔ ¬ p ∧ x = .ok v := by
  by_cases h : p <;> simp [h]

/-! ## Lists -/

theorem mapM_eq_some_iff {f : α → Option β} {as : List α} {bs : List β} :
    as.mapM f = some bs ↔ List.Forall₂ (fun a b => f a = some b) as bs := by
  induction as generalizing bs with
  | nil => simp [eq_comm]
  | cons a as ih =>
    simp only [List.mapM_cons, Option.bind_eq_bind, Option.bind_eq_some_iff, Option.pure_def,
      Option.some.injEq, List.forall₂_cons_left_iff, ih]
    exact ⟨fun ⟨b, hb, bs, hbs, h⟩ => ⟨b, bs, hb, hbs, h.symm⟩,
      fun ⟨b, bs, hb, hbs, h⟩ => ⟨b, hb, bs, hbs, h.symm⟩⟩

theorem isSome_mapM {f : α → Option β} {as : List α} :
    (as.mapM f).isSome ↔ ∀ a ∈ as, (f a).isSome := by
  induction as with
  | nil => simp
  | cons a as ih =>
    rw [List.forall_mem_cons, ← ih, List.mapM_cons]
    cases f a with
    | none => simp
    | some b => cases as.mapM f <;> simp

theorem perm_mapM {f : α → Option β} {as as' : List α} {bs' : List β} (h : as.Perm as')
    (h' : as'.mapM f = some bs') : ∃ bs, as.mapM f = some bs ∧ bs.Perm bs' := by
  obtain ⟨bs, hbs, hperm⟩ := List.perm_comp_forall₂ h (mapM_eq_some_iff.mp h')
  exact ⟨bs, mapM_eq_some_iff.mpr hbs, hperm⟩

end Checkup
