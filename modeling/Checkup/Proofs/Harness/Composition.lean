import Checkup.Proofs.Harness.Guarded
import Checkup.Proofs.Timed.Sequencing
import Mathlib.Data.List.Forall2

/-!
# A battery is the sum of its probes

A run hands nothing from one probe to the next but the time that has passed: the clock, on which the
limits are measured, and the parent token, which comes closer. `runSteady` is the run without the first
of these, and the two agree as long as the clock can show all limits (`runProbes_eq`). The second makes
the run over two batteries the run over the first and then over the other, with the shutdown moved
(`runSteady_append`).

**Assumptions.** The clock can show the limits of each probe at the tick at which it starts
(`Harness.Fits`). Everything else is open: what the probes do, the limits, and when the shutdown comes,
also in a tick in which something else happens.

Results:
* `runProbes_eq` and `runSteady_append`.
* `results_of_runProbes`: each node of a run is what its probe gave within the limits.
* `results_of_run`: each node of a run is what its probe gives alone, as the relation `Results`.
* `run_composes`: all of it for a run over two batteries, as the structure `Composes`.
-/
namespace Checkup.Harness

variable {ε : Type} {limits : Limits} {p : Probe ε} {ps A B : List (Probe ε)} {now : Nat} {tok : Token}

/-- The clock can show the limits of each probe of a run at the tick at which it starts. -/
def Fits (limits : Limits) : (now : Nat) → List (Probe ε) → Token → Prop
  | _, [], _ => True
  | now, p :: ps, tok => limits.FitAt now ∧
    match (p.guarded limits now tok).ending with
    | .returned t tok' _ => Fits limits (now + t) ps tok'
    | _ => True

/-- The run without a clock: each probe is measured from its own start. -/
def runSteady (limits : Limits) : List (Probe ε) → Timed ε (List Node)
  | [] => pure []
  | p :: ps => do
    let node ← p.guarded limits 0
    let nodes ← runSteady limits ps
    return node :: nodes

theorem fits_cons (h : Fits limits now (p :: ps) tok) {t : Nat} {tok' : Token} {node : Node}
    (he : (p.guarded limits 0 tok).ending = .returned t tok' node) :
    Fits limits (now + t) ps tok' := by
  obtain ⟨hfit, hrest⟩ := h
  rw [Probe.guarded_eq hfit, he] at hrest
  exact hrest

theorem Fits.mono {now' : Nat} (hnow : now ≤ now') (h : Fits limits now' ps tok) :
    Fits limits now ps tok := by
  induction ps generalizing now now' tok with
  | nil => trivial
  | cons p ps ih =>
    refine ⟨h.1.mono hnow, ?_⟩
    rw [Probe.guarded_eq (h.1.mono hnow)]
    cases he : (p.guarded limits 0 tok).ending with
    | returned t tok' node => exact ih (Nat.add_le_add_right hnow t) (fits_cons h he)
    | panicked t q => trivial
    | never => trivial

theorem Fits.left (h : Fits limits now (A ++ B) tok) : Fits limits now A tok := by
  induction A generalizing now tok with
  | nil => trivial
  | cons p ps ih =>
    refine ⟨h.1, ?_⟩
    rw [Probe.guarded_eq h.1]
    cases he : (p.guarded limits 0 tok).ending with
    | returned t tok' node => exact ih (fits_cons h he)
    | panicked t q => trivial
    | never => trivial

/-- A run goes on behind its first probe. -/
theorem runProbes_returned {t : Nat} {tok' : Token} {node : Node}
    (h : (p.guarded limits now tok).ending = .returned t tok' node) :
    runProbes limits now (p :: ps) tok =
      Course.following (p.guarded limits now tok).calls t
        ⟨(runProbes limits (now + t) ps tok').calls,
          (runProbes limits (now + t) ps tok').ending.map (node :: ·)⟩ := by
  have hm : (Timed.measured (p.guarded limits now) tok).ending = .returned t tok' (t, node) := by
    simp only [Timed.measured, h]
  refine (Timed.bind_returned (f := fun v => runProbes limits (now + v.1) ps >>= fun nodes =>
    pure (v.2 :: nodes)) hm).trans ?_
  exact congrArg _ (Timed.bind_pure_apply ..)

/-- A probe that never ends leaves the run where it is. -/
theorem runProbes_never (h : (p.guarded limits now tok).ending = .never) :
    runProbes limits now (p :: ps) tok = ⟨(p.guarded limits now tok).calls, .never⟩ := by
  have hm : (Timed.measured (p.guarded limits now) tok).ending = .never := by
    simp only [Timed.measured, h]
  exact Timed.bind_never hm

/-- No run over probes panics. -/
theorem runProbes_ne_panicked (t : Nat) (q : Panic) :
    (runProbes limits now ps tok).ending ≠ .panicked t q := by
  intro h
  induction ps generalizing now tok t q with
  | nil => cases h
  | cons p ps ih =>
    cases he : (p.guarded limits now tok).ending with
    | returned u tok' node =>
      rw [runProbes_returned he] at h
      simp only [Course.following] at h
      cases hrest : (runProbes limits (now + u) ps tok').ending with
      | returned v tok'' nodes => rw [hrest] at h; cases h
      | panicked v q => exact ih v q hrest
      | never => rw [hrest] at h; cases h
    | panicked u q' => exact absurd he (Probe.guarded_ne_panicked u q')
    | never => rw [runProbes_never he] at h; cases h

/-- Each node of a run is what its probe gave within the limits, at some tick of the run. -/
theorem results_of_runProbes {t : Nat} {tok' : Token} {nodes : List Node}
    (h : (runProbes limits now ps tok).ending = .returned t tok' nodes) :
    List.Forall₂ (fun p node => ∃ now tok t tok', (p.guarded limits now tok).ending =
      .returned t tok' node) ps nodes := by
  induction ps generalizing now tok t nodes with
  | nil => cases h; exact .nil
  | cons p ps ih =>
    cases he : (p.guarded limits now tok).ending with
    | panicked u q => exact absurd he (Probe.guarded_ne_panicked u q)
    | never => rw [runProbes_never he] at h; cases h
    | returned u tok₁ node =>
      rw [runProbes_returned he] at h
      simp only [Course.following] at h
      cases hrest : (runProbes limits (now + u) ps tok₁).ending with
      | panicked v q => exact absurd hrest (runProbes_ne_panicked v q)
      | never => rw [hrest] at h; cases h
      | returned v tok₂ rest =>
        rw [hrest] at h
        cases h
        exact .cons ⟨now, tok, u, tok₁, he⟩ (ih hrest)

theorem runSteady_returned {t : Nat} {tok' : Token} {node : Node}
    (h : (p.guarded limits 0 tok).ending = .returned t tok' node) :
    runSteady limits (p :: ps) tok =
      Course.following (p.guarded limits 0 tok).calls t
        ⟨(runSteady limits ps tok').calls, (runSteady limits ps tok').ending.map (node :: ·)⟩ :=
  (Timed.bind_returned h).trans (congrArg _ (Timed.bind_pure_apply ..))

theorem runSteady_never (h : (p.guarded limits 0 tok).ending = .never) :
    runSteady limits (p :: ps) tok = ⟨(p.guarded limits 0 tok).calls, .never⟩ :=
  Timed.bind_never h

/-- As long as the limits fit, the clock makes no difference to a run. -/
theorem runProbes_eq (h : Fits limits now ps tok) :
    runProbes limits now ps tok = runSteady limits ps tok := by
  induction ps generalizing now tok with
  | nil => rfl
  | cons p ps ih =>
    have hp := Probe.guarded_eq (p := p) h.1
    cases he : (p.guarded limits 0 tok).ending with
    | returned t tok' node =>
      rw [runProbes_returned (by rw [hp, he]), runSteady_returned he, ih (fits_cons h he), hp]
    | panicked t q => exact absurd he (Probe.guarded_ne_panicked t q)
    | never => rw [runProbes_never (by rw [hp, he]), runSteady_never he, hp]

/-- What a run that returns has come to: its first probe returned, and so did the rest. -/
theorem runSteady_cons {e : Nat} {tok' : Token} {nodes : List Node}
    (h : (runSteady limits (p :: ps) tok).ending = .returned e tok' nodes) :
    ∃ t u tok₁ node rest, (p.guarded limits 0 tok).ending = .returned t tok₁ node ∧
      (runSteady limits ps tok₁).ending = .returned u tok' rest ∧ e = t + u ∧ nodes = node :: rest := by
  cases he : (p.guarded limits 0 tok).ending with
  | returned t tok₁ node =>
    rw [runSteady_returned he] at h
    cases hrest : (runSteady limits ps tok₁).ending with
    | returned u tok₂ rest =>
      simp only [Course.following, hrest, Ending.map, Ending.later] at h
      cases h
      exact ⟨t, u, tok₁, node, rest, rfl, hrest, rfl, rfl⟩
    | panicked u q => simp [Course.following, hrest, Ending.map, Ending.later] at h
    | never => simp [Course.following, hrest, Ending.map, Ending.later] at h
  | panicked t q => exact absurd he (Probe.guarded_ne_panicked t q)
  | never => rw [runSteady_never he] at h; cases h

/-- A run never panics. -/
theorem runSteady_ne_panicked (t : Nat) (q : Panic) :
    (runSteady limits ps tok).ending ≠ .panicked t q := by
  intro h
  induction ps generalizing tok t q with
  | nil => cases h
  | cons p ps ih =>
    cases he : (p.guarded limits 0 tok).ending with
    | returned u tok' node =>
      rw [runSteady_returned he] at h
      simp only [Course.following] at h
      cases hrest : (runSteady limits ps tok').ending with
      | returned v tok'' nodes => rw [hrest] at h; cases h
      | panicked v q => exact ih v q hrest
      | never => rw [hrest] at h; cases h
    | panicked u q' => exact absurd he (Probe.guarded_ne_panicked u q')
    | never => rw [runSteady_never he] at h; cases h

/-- The token behind a run is the one before it, looked at later. -/
theorem runSteady_token (htok : tok.next 0 = tok) {t : Nat} {tok' : Token} {nodes : List Node}
    (h : (runSteady limits ps tok).ending = .returned t tok' nodes) : tok' = tok.next t := by
  induction ps generalizing tok t nodes with
  | nil => cases h; exact htok.symm
  | cons p ps ih =>
    obtain ⟨t, u, tok₁, node, rest, he, hrest, rfl, rfl⟩ := runSteady_cons h
    have htok₁ := Probe.guarded_token he
    have hnext : tok₁.next 0 = tok₁ := by rw [htok₁, Token.next_next, Nat.add_zero]
    rw [ih hnext hrest, htok₁, Token.next_next]

theorem Fits.right (h : Fits limits now (A ++ B) tok) {t : Nat} {tok' : Token} {nodes : List Node}
    (he : (runSteady limits A tok).ending = .returned t tok' nodes) :
    Fits limits (now + t) B tok' := by
  induction A generalizing now tok t nodes with
  | nil => cases he; exact h
  | cons p ps ih =>
    obtain ⟨t, u, tok₁, node, rest, hp, hrest, rfl, rfl⟩ := runSteady_cons he
    rw [← Nat.add_assoc]
    exact ih (fits_cons h hp) hrest

theorem runSteady_append (limits : Limits) (A B : List (Probe ε)) :
    runSteady limits (A ++ B) = do
      let as ← runSteady limits A
      let bs ← runSteady limits B
      return as ++ bs := by
  induction A with
  | nil => simp [runSteady]
  | cons p ps ih => simp [runSteady, ih]

/-- The clock is long enough for a run if it can show the limits at the end of it. -/
theorem fits_of_time {t : Nat} (hfit : limits.FitAt (now + t))
    (h : (runSteady limits ps tok).ending.time? = some t) : Fits limits now ps tok := by
  induction ps generalizing now tok t with
  | nil => trivial
  | cons p ps ih =>
    have hnow := hfit.mono (Nat.le_add_right now t)
    refine ⟨hnow, ?_⟩
    rw [Probe.guarded_eq hnow]
    cases he : (runSteady limits (p :: ps) tok).ending with
    | returned e tok' nodes =>
      obtain ⟨u, v, tok₁, node, rest, hp, hrest, rfl, rfl⟩ := runSteady_cons he
      rw [he] at h; cases h
      rw [hp]
      exact ih (by rwa [Nat.add_assoc]) (by rw [hrest]; rfl)
    | panicked e q => exact absurd he (runSteady_ne_panicked e q)
    | never => rw [he] at h; cases h

/-! ## Runs with a shutdown -/

/-- A run of probes within limits, with a shutdown at some tick or none. -/
def runUntil (limits : Limits) (ps : List (Probe ε)) (shutdown : Option Nat) : Course ε (List Node) :=
  (Harness.mk ps limits).run (.ofTime shutdown)

variable {shutdown : Option Nat}

theorem next_zero_ofTime (c : Option Nat) : (Token.ofTime c).next 0 = Token.ofTime c := by
  rw [Token.ofTime_next]
  cases c <;> rfl

theorem runUntil_eq (h : Fits limits 0 ps (.ofTime shutdown)) :
    runUntil limits ps shutdown = runSteady limits ps (.ofTime shutdown) :=
  runProbes_eq h

/-- The probe alone, with a shutdown at some tick or none, gives this node in so many ticks. That is the node
that it returns, if it does so in time; if it panics or is abandoned, it is a failed leaf under its own key and
name. -/
structure Gives (limits : Limits) (p : Probe ε) (shutdown : Option Nat) (t : Nat) (node : Node) :
    Prop where
  alone : ∃ tok, (runUntil limits [p] shutdown).ending = .returned t tok [node]
  timely : ∀ u tok own, (p.run (.ofTime shutdown)).ending = .returned u tok own →
    (∀ limit, limits.probeTimeout = some limit → u ≤ limit.ticks) → t = u ∧ node = own
  failed : p.Panics limits (.ofTime shutdown) ∨ p.Abandoned limits (.ofTime shutdown) →
    node.FailedLeaf p.key p.name

/-- Probes give nodes one after another, each with the shutdown as much nearer as those before it took. -/
inductive Results (limits : Limits) : Option Nat → List (Probe ε) → List Node → Nat → Prop where
  | done {c : Option Nat} : Results limits c [] [] 0
  | next {c : Option Nat} {p : Probe ε} {ps : List (Probe ε)} {node : Node} {nodes : List Node}
      {t u : Nat} : Gives limits p c t node → Results limits (c.map (· - t)) ps nodes u →
      Results limits c (p :: ps) (node :: nodes) (t + u)

theorem gives_of_guarded (hfit : limits.FitAt 0) {t : Nat} {tok' : Token} {node : Node}
    (h : (p.guarded limits 0 (.ofTime shutdown)).ending = .returned t tok' node) :
    Gives limits p shutdown t node where
  alone := by
    refine ⟨tok', ?_⟩
    rw [runUntil, run, runProbes_returned h]
    rfl
  timely u tok own hown hin := by
    rw [Probe.guarded_inTime (by rw [hown]; rfl) hin, hown] at h
    cases h
    exact ⟨rfl, rfl⟩
  failed := fun hp => by
    obtain ⟨t', tok'', node', he, hleaf⟩ := Probe.guarded_failed hfit hp
    rw [h] at he; cases he
    exact hleaf

theorem results_of_run (hfit : Fits limits now ps (.ofTime shutdown)) {t : Nat} {tok' : Token}
    {nodes : List Node} (h : (runSteady limits ps (.ofTime shutdown)).ending = .returned t tok' nodes) :
    Results limits shutdown ps nodes t := by
  induction ps generalizing now shutdown t nodes with
  | nil => cases h; exact .done
  | cons p ps ih =>
    obtain ⟨t, u, tok₁, node, rest, hp, hrest, rfl, rfl⟩ := runSteady_cons h
    have hfit' := fits_cons hfit hp
    rw [Probe.guarded_token hp, Token.ofTime_next] at hrest hfit'
    exact .next (gives_of_guarded (hfit.1.mono (Nat.zero_le _)) hp) (ih hfit' hrest)

theorem Results.length_eq {nodes : List Node} {t : Nat} (h : Results limits shutdown ps nodes t) :
    nodes.length = ps.length := by
  induction h with
  | done => rfl
  | next _ _ ih => simp [ih]

structure Composes (limits : Limits) (A B : List (Probe ε)) (shutdown : Option Nat) : Prop where
  /-- It is the run over the first and then the run over the second, which finds the shutdown nearer by
  the time that the first took. -/
  ended : ∀ t tok as, (runUntil limits A shutdown).ending = .returned t tok as →
    runUntil limits (A ++ B) shutdown =
      Course.following (runUntil limits A shutdown).calls t
        ⟨(runUntil limits B (shutdown.map (· - t))).calls,
          (runUntil limits B (shutdown.map (· - t))).ending.map (as ++ ·)⟩
  /-- If the first never ends, neither do both. -/
  stuck : (runUntil limits A shutdown).ending = .never →
    runUntil limits (A ++ B) shutdown = ⟨(runUntil limits A shutdown).calls, .never⟩
  /-- There is no other end of the first. -/
  unharmed : ∀ t q, (runUntil limits A shutdown).ending ≠ .panicked t q
  /-- There is one node for each probe, in their order, and it is what the probe gives alone. -/
  results : ∀ t tok nodes, (runUntil limits (A ++ B) shutdown).ending = .returned t tok nodes →
    nodes.length = (A ++ B).length ∧ Results limits shutdown (A ++ B) nodes t
  /-- Other probes in the place of the first ones change nothing for the second, as long as these find the
  shutdown at the same tick. -/
  isolated : ∀ A' : List (Probe ε), Fits limits 0 (A' ++ B) (.ofTime shutdown) →
    ∀ t tok as t' tok' as', (runUntil limits A shutdown).ending = .returned t tok as →
    (runUntil limits A' shutdown).ending = .returned t' tok' as' →
    shutdown.map (· - t) = shutdown.map (· - t') →
    ∀ u tok'' bs, (runUntil limits (A ++ B) shutdown).ending = .returned (t + u) tok'' (as ++ bs) →
      (runUntil limits (A' ++ B) shutdown).ending = .returned (t' + u) tok'' (as' ++ bs)

theorem runUntil_append (h : Fits limits 0 (A ++ B) (.ofTime shutdown)) {t : Nat} {tok' : Token}
    {as : List Node} (he : (runUntil limits A shutdown).ending = .returned t tok' as) :
    runUntil limits (A ++ B) shutdown =
      Course.following (runUntil limits A shutdown).calls t
        ⟨(runUntil limits B (shutdown.map (· - t))).calls,
          (runUntil limits B (shutdown.map (· - t))).ending.map (as ++ ·)⟩ := by
  rw [runUntil_eq h.left] at he ⊢
  obtain rfl := (runSteady_token (next_zero_ofTime _) he).trans (Token.ofTime_next ..)
  have hB := h.right he
  rw [runUntil_eq h, runUntil_eq (hB.mono (Nat.zero_le _)), runSteady_append,
    Timed.bind_returned he, Timed.bind_pure_apply]

/-- A run over two batteries is the run over the first and then the run over the second, with the
shutdown as much nearer as the first took. So it gives one node for each probe in their order, no probe
changes the node of another, and one that panics or is abandoned is a failed leaf. -/
theorem run_composes (limits : Limits) (A B : List (Probe ε)) (shutdown : Option Nat)
    (hfit : Fits limits 0 (A ++ B) (.ofTime shutdown)) : Composes limits A B shutdown where
  ended := fun t tok as h => runUntil_append hfit h
  stuck := by
    intro h
    rw [runUntil_eq hfit.left] at h ⊢
    rw [runUntil_eq hfit, runSteady_append, Timed.bind_never h]
  unharmed := by
    intro t q
    rw [runUntil_eq hfit.left]
    exact runSteady_ne_panicked t q
  results := by
    intro t tok nodes h
    rw [runUntil_eq hfit] at h
    have hresults := results_of_run hfit h
    exact ⟨hresults.length_eq, hresults⟩
  isolated := by
    intro A' hfit' t tok as t' tok' as' hA hA' hmap u tok'' bs h
    rw [runUntil_append hfit hA] at h
    rw [runUntil_append hfit' hA', ← hmap]
    cases hB : (runUntil limits B (shutdown.map (· - t))).ending with
    | returned v tokB bs' =>
      simp only [Course.following, hB, Ending.map, Ending.later, Ending.returned.injEq,
        List.append_cancel_left_eq] at h ⊢
      obtain ⟨hu, rfl, rfl⟩ := h
      exact ⟨by omega, rfl, rfl⟩
    | panicked v q => simp [Course.following, hB, Ending.map, Ending.later] at h
    | never => simp [Course.following, hB, Ending.map, Ending.later] at h

/-- A probe that panics, one that hangs and has to be abandoned, and one that passes, with a shutdown in
the grace period of the second. -/
theorem run_composes_abandoned :
    Composes ⟨some (Span.ofMillis 100), Span.ofMillis 20⟩
      [(⟨"p-rabbitmq", "RabbitMQ", Timed.panic (.text "boom")⟩ : Probe Unit),
        ⟨"sso", "SSO", fun _ => ⟨[(7, ())], .never⟩⟩]
      [⟨"nfs", "NFS", do Timed.sleep 5; return Node.aggregate "nfs" "NFS" []⟩]
      (some 110) := by
  refine run_composes ⟨some (Span.ofMillis 100), Span.ofMillis 20⟩ _ _ (some 110) ?_
  refine fits_of_time (t := 125) ?_ (by decide +kernel)
  intro limit hlimit
  cases hlimit
  decide +kernel

end Checkup.Harness
