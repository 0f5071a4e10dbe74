import Checkup.Proofs.Guards
import Checkup.Proofs.Numeric.Value
import Checkup.Proofs.Text.Blank
import Checkup.Wait.Waiter

/-!
# Which specs are accepted

What makes a spec well-formed is said here in terms of its fields, and each part of the check is shown to
accept exactly that. A kind without a condition is reported before anything else; every other complaint is
of one form. A spec that is refused is refused before the wait begins, whatever its token is.

Results:
* `validate_eq_ok`: the bounds and the factor of a schedule.
* `requiredName_eq_ok`, `resolveDeployment_eq_ok` and `resolvePod_eq_ok`: the options.
* `Complains.bind`: checks that only complain of options can be made one after another.
* `resolve_eq_ok`, `resolve_complains` and `resolve_eq_unsupported`: the whole check.
* `resolve_screens`: all of it, with the wait behind it, as the structure `Screened`.
-/
namespace Checkup

/-- The only failure of a check is a complaint about an option. -/
def Complains {α : Type} (x : Except WaitError α) : Prop :=
  ∀ e, x = .error e → ∃ problem, e = .invalidOption problem

namespace Complains

variable {α β : Type}

theorem ok (v : α) : Complains (.ok v) := nofun

theorem invalidOption (problem : String) : Complains (α := α) (.error (.invalidOption problem)) := by
  rintro e ⟨⟩
  exact ⟨problem, rfl⟩

theorem bind {x : Except WaitError α} {f : α → Except WaitError β} (hx : Complains x)
    (hf : ∀ v, Complains (f v)) : Complains (x >>= f) := by
  intro e h
  cases x with
  | error e' =>
    cases h
    exact hx e rfl
  | ok v => exact hf v e h

/-- A check that complains under a condition, and goes on otherwise. -/
theorem guarded {c : Prop} [Decidable c] {problem : String} {x : Except WaitError α}
    (hx : Complains x) : Complains (if c then .error (.invalidOption problem) else x) := by
  split
  · exact invalidOption problem
  · exact hx

end Complains

namespace Backoff

/-- Bounds and a factor that give a schedule: the delays are never zero, and do not shrink. -/
structure Sensible (b : Backoff) : Prop where
  min_pos : 0 < b.min.nanos
  min_le_max : b.min ≤ b.max
  factor : ∃ q, b.factor.value? = some q ∧ 1 ≤ q

/-- A factor below zero is below one. -/
theorem Sensible.factor_unsigned {b : Backoff} (h : b.Sensible) : b.factor.Unsigned := by
  obtain ⟨q, hq, hle⟩ := h.factor
  match hb : b.factor with
  | .nan | .infinite _ =>
    rw [hb] at hq
    cases hq
  | .finite false m e => rfl
  | .finite true m e =>
    -- The value of such a factor is not positive.
    rw [hb] at hq
    cases hq
    have := Double.magnitude_nonneg m e
    simp only [if_true, neg_one_mul] at hle
    linarith

/-- A factor is refused exactly when it is not finite or its value is below one. -/
theorem factor_accepted {d : Double} :
    (!d.isFinite || d.lt (.ofNat 1)) = false ↔ ∃ q, d.value? = some q ∧ 1 ≤ q := by
  have hone : (Double.ofNat 1).value? = some 1 := by
    have h : Double.ofNat 1 = .finite false (2 ^ (52 : Nat)) (-52) := by decide +kernel
    rw [h, Double.value?]
    norm_num
  rw [Bool.or_eq_false_iff, Bool.not_eq_false', Double.value?_eq_some]
  constructor
  · rintro ⟨⟨q, hq⟩, hlt⟩
    refine ⟨q, hq, le_of_not_gt fun h => ?_⟩
    rw [(Double.lt_iff_value_lt hq hone).mpr h] at hlt
    cases hlt
  · rintro ⟨q, hq, hle⟩
    refine ⟨⟨q, hq⟩, Bool.eq_false_iff.mpr fun h => ?_⟩
    exact not_lt_of_ge hle ((Double.lt_iff_value_lt hq hone).mp h)

theorem validate_eq_ok {b : Backoff} : b.validate = .ok () ↔ b.Sensible := by
  unfold validate
  split
  · rename_i hmin
    exact ⟨nofun, fun h => absurd hmin (Nat.ne_of_gt h.min_pos)⟩
  · rename_i hmin
    split
    · rename_i hlt
      exact ⟨nofun, fun h => absurd hlt (Nat.not_lt.mpr h.min_le_max)⟩
    · rename_i hlt
      split
      · rename_i hfactor
        refine ⟨nofun, fun h => ?_⟩
        rw [factor_accepted.mpr h.factor] at hfactor
        cases hfactor
      · rename_i hfactor
        exact ⟨fun _ => ⟨Nat.pos_of_ne_zero hmin, Nat.not_lt.mp hlt,
          factor_accepted.mp (Bool.eq_false_iff.mpr hfactor)⟩, fun _ => rfl⟩

theorem validate_complains (b : Backoff) : Complains b.validate :=
  .guarded (.guarded (.guarded (.ok ())))

end Backoff

namespace WaitSpec

variable {s : WaitSpec} {o : WaitOptions} {c : Condition}

/-- What the options of a kind ask for: they name the resource, by a name that is not blank, and its
target, and leave the options of the other kind unset. -/
inductive Asks : ResourceKind → WaitOptions → Condition → Prop where
  | deployment {name : String} {n : Int32} : Text.trim name ≠ "" → 0 ≤ n.toInt →
      Asks .deployment ⟨some n, some name, none, none⟩ (.readyReplicas name n)
  | pod {name : String} {phase : Option PodPhase} : Text.trim name ≠ "" →
      Asks .pod ⟨none, none, some name, phase⟩ (.podPhase name (phase.getD .running))

theorem requiredName_eq_ok {name : Option String} {what n : String} :
    requiredName name what = .ok n ↔ name = some n ∧ Text.trim n ≠ "" := by
  rw [Ne, Text.trim_eq_empty]
  unfold requiredName
  split
  · exact ⟨nofun, nofun⟩
  · rename_i m
    split
    · rename_i hblank
      exact ⟨nofun, fun ⟨h, hn⟩ => absurd (by cases h; exact hblank) hn⟩
    · rename_i hblank
      constructor
      · rintro ⟨⟩
        exact ⟨rfl, hblank⟩
      · rintro ⟨⟨⟩, -⟩
        rfl

theorem requiredName_complains (name : Option String) (what : String) :
    Complains (requiredName name what) := by
  unfold requiredName
  split
  · exact .invalidOption _
  · exact .guarded (.ok _)

/-- The check of the options of a deployment, guard by guard. -/
theorem resolveDeployment_eq (o : WaitOptions) : resolveDeployment o =
    if (o.pod.isSome || o.phase.isSome) = true then
      .error (.invalidOption "pod name and phase do not apply to a deployment wait")
    else requiredName o.workload "target workload name" >>= fun name =>
      match o.replicas with
      | none => .error (.invalidOption "target replica count is required for a deployment wait")
      | some n =>
        if n.toInt < 0 then .error (.invalidOption
          s!"target replica count must not be negative, got {Text.intText n.toInt}")
        else .ok (.readyReplicas name n) := by
  rfl

/-- The check of the options of a pod, guard by guard. -/
theorem resolvePod_eq (o : WaitOptions) : resolvePod o =
    if (o.replicas.isSome || o.workload.isSome) = true then
      .error (.invalidOption "workload name and replica count do not apply to a pod wait")
    else requiredName o.pod "target pod name" >>= fun name =>
      .ok (.podPhase name (o.phase.getD .running)) := by
  rfl

theorem resolveDeployment_eq_ok : resolveDeployment o = .ok c ↔ Asks .deployment o c := by
  rw [resolveDeployment_eq, ite_error_eq_ok, bind_eq_ok]
  constructor
  · rintro ⟨hother, name, hname, htarget⟩
    obtain ⟨hworkload, hblank⟩ := requiredName_eq_ok.mp hname
    obtain ⟨replicas, workload, pod, phase⟩ := o
    cases hworkload
    cases pod <;> cases phase <;> simp at hother
    cases replicas with
    | none => cases htarget
    | some n =>
      obtain ⟨hn, hc⟩ := ite_error_eq_ok.mp htarget
      cases hc
      exact .deployment hblank (Int.not_lt.mp hn)
  · intro h
    cases h with
    | deployment hblank hn =>
      exact ⟨Bool.false_ne_true, _, requiredName_eq_ok.mpr ⟨rfl, hblank⟩,
        ite_error_eq_ok.mpr ⟨Int.not_lt.mpr hn, rfl⟩⟩

theorem resolveDeployment_complains (o : WaitOptions) : Complains (resolveDeployment o) := by
  rw [resolveDeployment_eq]
  refine .guarded (.bind (requiredName_complains _ _) fun name => ?_)
  cases o.replicas with
  | none => exact .invalidOption _
  | some n => exact .guarded (.ok _)

theorem resolvePod_eq_ok : resolvePod o = .ok c ↔ Asks .pod o c := by
  rw [resolvePod_eq, ite_error_eq_ok, bind_eq_ok]
  constructor
  · rintro ⟨hother, name, hname, htarget⟩
    obtain ⟨hpod, hblank⟩ := requiredName_eq_ok.mp hname
    obtain ⟨replicas, workload, pod, phase⟩ := o
    cases hpod
    cases htarget
    cases replicas <;> cases workload <;> simp at hother
    exact .pod hblank
  · intro h
    cases h with
    | pod hblank =>
      exact ⟨Bool.false_ne_true, _, requiredName_eq_ok.mpr ⟨rfl, hblank⟩, rfl⟩

theorem resolvePod_complains (o : WaitOptions) : Complains (resolvePod o) := by
  rw [resolvePod_eq]
  exact .guarded (.bind (requiredName_complains _ _) fun _ => .ok _)

/-! ## The whole check -/

theorem isSupported_eq_false {k : ResourceKind} :
    k.isSupported = false ↔ k ≠ .deployment ∧ k ≠ .pod := by
  cases k <;> simp [ResourceKind.isSupported]

/-- The check of a spec, guard by guard. -/
theorem resolve_eq (s : WaitSpec) : s.resolve =
    if (!s.kind.isSupported) = true then .error (.unsupported s.kind)
    else s.backoff.validate >>= fun _ =>
      if s.deadline.nanos = 0 then .error (.invalidOption "deadline must be greater than zero")
      else match s.kind with
        | .deployment => resolveDeployment s.options
        | .pod => resolvePod s.options
        | kind => .error (.unsupported kind) := by
  rfl

theorem resolve_eq_ok : s.resolve = .ok c ↔
    s.backoff.Sensible ∧ s.deadline.nanos ≠ 0 ∧ Asks s.kind s.options c := by
  rw [resolve_eq, ite_error_eq_ok, bind_eq_ok]
  constructor
  · rintro ⟨-, _, hvalid, hrest⟩
    obtain ⟨hdeadline, hkind⟩ := ite_error_eq_ok.mp hrest
    refine ⟨Backoff.validate_eq_ok.mp hvalid, hdeadline, ?_⟩
    split at hkind
    · rename_i hk
      rw [hk]
      exact resolveDeployment_eq_ok.mp hkind
    · rename_i hk
      rw [hk]
      exact resolvePod_eq_ok.mp hkind
    · cases hkind
  · rintro ⟨hsensible, hdeadline, hasks⟩
    have hvalid := Backoff.validate_eq_ok.mpr hsensible
    cases hk : s.kind with
    | deployment =>
      rw [hk] at hasks
      exact ⟨Bool.false_ne_true, (), hvalid,
        ite_error_eq_ok.mpr ⟨hdeadline, resolveDeployment_eq_ok.mpr hasks⟩⟩
    | pod =>
      rw [hk] at hasks
      exact ⟨Bool.false_ne_true, (), hvalid,
        ite_error_eq_ok.mpr ⟨hdeadline, resolvePod_eq_ok.mpr hasks⟩⟩
    | _ =>
      rw [hk] at hasks
      cases hasks

theorem resolve_of_unsupported (h : s.kind.isSupported = false) :
    s.resolve = .error (.unsupported s.kind) := by
  rw [resolve_eq, h]
  rfl

theorem resolve_complains (h : s.kind.isSupported = true) : Complains s.resolve := by
  rw [resolve_eq, h]
  refine .bind (Backoff.validate_complains _) fun _ => .guarded ?_
  cases hk : s.kind with
  | deployment => exact resolveDeployment_complains _
  | pod => exact resolvePod_complains _
  | _ =>
    rw [hk] at h
    cases h

theorem resolve_eq_unsupported {k : ResourceKind} : s.resolve = .error (.unsupported k) ↔
    k = s.kind ∧ s.kind ≠ .deployment ∧ s.kind ≠ .pod := by
  rw [← isSupported_eq_false]
  cases h : s.kind.isSupported with
  | false =>
    rw [resolve_of_unsupported h, Except.error.injEq, WaitError.unsupported.injEq]
    exact ⟨fun hk => ⟨hk.symm, rfl⟩, fun hk => hk.1.symm⟩
  | true =>
    constructor
    · intro hk
      obtain ⟨problem, hproblem⟩ := resolve_complains h _ hk
      cases hproblem
    · rintro ⟨-, ⟨⟩⟩

/-- A spec that is refused makes no fetch and takes no time, on any schedule and with any token. -/
theorem waitOn_of_error {e : WaitError} (h : s.resolve = .error e) (source : StateSource)
    (delay : Schedule) (token : Token) :
    s.waitOn source delay token = ⟨[], .returned 0 token (.error e)⟩ := by
  simp [waitOn, h]

structure Screened (s : WaitSpec) : Prop where
  /-- A spec is accepted exactly when its schedule makes sense, its deadline is not zero, and its options
  ask for a condition of its kind, which is the one to wait for. -/
  accepted : ∀ c, s.resolve = .ok c ↔
    s.backoff.Sensible ∧ s.deadline.nanos ≠ 0 ∧ Asks s.kind s.options c
  /-- A kind that is not supported is reported exactly when the kind is such, whatever else is wrong. -/
  unsupported : ∀ k, s.resolve = .error (.unsupported k) ↔
    k = s.kind ∧ s.kind ≠ .deployment ∧ s.kind ≠ .pod
  /-- Everything else that is wrong is a complaint about an option. -/
  complaint : s.kind = .deployment ∨ s.kind = .pod → ∀ e, s.resolve = .error e →
    ∃ problem, e = .invalidOption problem
  /-- The wait under a spec that is refused ends at once with that error and without a fetch, whatever the
  source, the schedule and the token are. -/
  refused : ∀ e, s.resolve = .error e → ∀ (source : StateSource) (delay : Schedule) (token : Token),
    s.waitOn source delay token = ⟨[], .returned 0 token (.error e)⟩

/-- Exactly the well-formed specs are accepted, and a spec that is refused polls nothing. -/
theorem resolve_screens (s : WaitSpec) : s.Screened where
  accepted _ := resolve_eq_ok
  unsupported _ := resolve_eq_unsupported
  complaint hk := resolve_complains (by rcases hk with hk | hk <;> rw [hk] <;> rfl)
  refused _ h := waitOn_of_error h

end WaitSpec
end Checkup
