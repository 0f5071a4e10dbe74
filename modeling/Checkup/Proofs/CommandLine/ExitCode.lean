import Checkup.CommandLine.Program
import Checkup.Proofs.Harness.Verdict
import Checkup.Proofs.Registry.Verdict
import Checkup.Proofs.StatusServer.Serve

/-!
# The exit code

A run of the battery that is made from the command line prints its results and exits with a code. Between
a leaf and that code stand the flags of the groups above it, the harness, the publication and the server.
None of them loses a failure.

**Assumptions.** The command line can be understood, asks for a run, and makes a valid configuration. The
platform is any: services may reply anything, panic or hang, and so may the dashboard.

Results:
* `runOnce_reports`: a run is reported unless the battery never comes to its end.
* `lists_reportText`: what is printed lists the results and nothing else.
* `no_failure_lost`: from the leaves of a tree to the exit code.
-/
namespace Checkup

open Http in
/-- The dashboard is given up after a while. -/
theorem Dashboard.ends_publisher (web : Transport) (endpoint : String) (results : List Node) :
    (Dashboard.publisher web publishTimeout endpoint results).Ends := by
  unfold Dashboard.publisher
  cases request endpoint results with
  | error e => exact Timed.ends_pure _
  | ok r =>
    have hsend : (send web publishTimeout r).Ends := by
      unfold send inTime
      refine (Timed.ends_within _ (by decide +kernel)).bind fun outcome => ?_
      cases outcome <;> exact Timed.ends_pure _
    refine hsend.bind fun response => ?_
    cases response <;> exact Timed.ends_pure _

theorem Registry.ends_publisher (c : Config) (p : Platform) (results : List Node) :
    (publisher c p results).Ends := by
  unfold publisher
  cases c.dashboardEndpoint with
  | none => exact Timed.ends_pure _
  | some endpoint => exact (Dashboard.ends_publisher p.web endpoint results).mapCalls _

namespace CommandLine

section
variable {c : Config} {p : Platform}

theorem runOnce_ended {t : Nat} {results : List Node}
    (h : StatusServer.ended ((Registry.harness c p).runAndPublish (Registry.publisher c p)
      .never).ending = some (t, results)) : runOnce c p = .report results := by
  simp only [runOnce, StatusServer.ofHarness, h]

theorem runOnce_never
    (h : ((Registry.harness c p).runAndPublish (Registry.publisher c p) .never).ending = .never) :
    runOnce c p = .stuck := by
  simp only [runOnce, StatusServer.ofHarness, h, StatusServer.ended]

end

/-- The results are those of the run of the battery that the configuration asks for: what the battery gives, or
one failed leaf if the publication breaks off. -/
def Gathers (c : Config) (p : Platform) (results : List Node) : Prop :=
  let h := Registry.harness c p
  let publish := Registry.publisher c p
  StatusServer.Complete h publish .never (h.runAndPublish publish .never) results

/-- The results are those of the run, or the battery never comes to its end. -/
theorem runOnce_reports (c : Config) (p : Platform) :
    (∃ results, runOnce c p = .report results ∧ Gathers c p results ∧ ∀ t ∈ results, t.Built) ∨
      runOnce c p = .stuck ∧ ((Registry.harness c p).run .never).ending = .never := by
  by_cases hnever : ((Registry.harness c p).run .never).ending = .never
  · right
    have hpublished : ((Registry.harness c p).runAndPublish (Registry.publisher c p) .never).ending
        = .never := by
      unfold Harness.runAndPublish
      rw [Timed.bind_never (x := (Registry.harness c p).run.mapCalls RunEvent.call) hnever]
    exact ⟨runOnce_never hpublished, hnever⟩
  · left
    have hpublish : ∀ nodes later, (Registry.publisher c p nodes later).ending ≠ .never :=
      Registry.ends_publisher c p
    obtain ⟨results, hcomplete⟩ := StatusServer.runAndPublish_complete hnever hpublish
    obtain ⟨t, hended⟩ := hcomplete.ended
    exact ⟨results, runOnce_ended hended, hcomplete,
      StatusServer.built_of_ended (Registry.builds_probes c p) _ hended⟩

/-- What the program does tells of every leaf of its results: they are printed, and the printed text lists
them and nothing else; their flags tell the truth; and the exit code is 0 exactly when no leaf in them is a
failed one. -/
structure Outcome.TellsOf (o : Outcome) (results : List Node) : Prop where
  printed : o.stdout = Outcome.reportText results
  listed : ∀ us, Node.Lists o.stdout us ↔ us = results
  faithful : ∀ t ∈ results, t.Faithful
  exit : o.exitCode = 0 ↔ ¬ ∃ s : Node, s.OccursIn results ∧ s.children = [] ∧ s.passed = false

theorem lists_reportText {results us : List Node} :
    Node.Lists (Outcome.reportText results) us ↔ us = results :=
  Node.lists_prettyText (g := ['\n']) (by simp [Json.Gap, Json.isGap])

theorem tellsOf_report {results : List Node} (h : ∀ t ∈ results, t.Built) :
    (Outcome.report results).TellsOf results where
  printed := rfl
  listed _ := lists_reportText
  faithful t ht := (h t ht).faithful
  exit := by
    have hcode : (Outcome.report results).exitCode = 0 ↔ results.all (·.passed) = true := by
      show (if Outcome.allPassed results then 0 else 1) = 0 ↔ Outcome.allPassed results = true
      cases Outcome.allPassed results <;> decide
    rw [hcode, Node.all_passed_iff fun t ht => (h t ht).faithful]
    constructor
    · rintro hall ⟨s, hs, hleaf, hfailed⟩
      rw [hall s hs hleaf] at hfailed
      cases hfailed
    · intro hnone s hs hleaf
      refine Bool.eq_true_of_not_eq_false fun hfailed => ?_
      exact hnone ⟨s, hs, hleaf, hfailed⟩

/-- No failure is lost between a leaf and the exit code. The flags of a built tree tell the truth at every
depth; a battery of probes that return such trees, panic or overrun gives nothing else, whatever becomes
of the publication; and a run from the command line exits with 0 exactly when nothing that it prints has
a failed leaf. -/
theorem no_failure_lost {ε : Type} (h : Harness ε) (hprobes : ∀ p ∈ h.probes, p.Builds)
    (args : List String) (environment : String → Option String) (options : Options) (config : Config)
    (hread : read args environment = .ok (options, .run))
    (hconfig : Config.ofOptions options = .ok config) :
    (∀ t : Node, t.Built → t.Faithful) ∧
    (∀ key name, (Node.aggregate key name []).passed = true) ∧
    (∀ tok t tok' results, (h.run tok).ending = .returned t tok' results →
      ∀ r ∈ results, r.Faithful) ∧
    (∀ publish tok t answer, StatusServer.ended (h.runAndPublish publish tok).ending = some (t, answer) →
      (Outcome.report answer).TellsOf answer) ∧
    ∀ p : Platform,
      (∃ results, execute args environment p = .report results ∧ Gathers config p results ∧
        (execute args environment p).TellsOf results) ∨
      execute args environment p = .stuck ∧
        ((Registry.harness config p).run .never).ending = .never := by
  refine ⟨fun t ht => ht.faithful, Node.aggregate_nil_passed, ?_, ?_, ?_⟩
  · intro tok t tok' results hend r hr
    exact ((Harness.run_builds hprobes tok).2 t tok' results hend r hr).faithful
  · intro publish tok t answer hended
    exact tellsOf_report (StatusServer.built_of_ended hprobes publish hended)
  · intro p
    have hexecute : execute args environment p = runOnce config p := by
      simp only [execute, hread, hconfig, obey]
    rw [hexecute]
    rcases runOnce_reports config p with ⟨results, hreport, hgathers, hbuilt⟩ | hstuck
    · rw [hreport]
      exact .inl ⟨results, rfl, hgathers, tellsOf_report hbuilt⟩
    · exact .inr hstuck

/-- A battery with a failed leaf two levels deep, a panic, and a probe that overruns its limit. -/
def mixed : Harness Unit where
  probes := [
    ⟨"db", "Database", pure (Node.aggregate "db" "Database" [
      .aggregate "rows" "Rows" [.pass "Insert", (Node.fail "Select" "gone").withStatusCode 404],
      .pass "Close"])⟩,
    ⟨"sso", "SSO", Timed.panic (.text "boom")⟩,
    ⟨"nfs", "NFS", do Timed.sleep 110; return Node.aggregate "nfs" "NFS" [.pass "Write"]⟩]
  limits := ⟨some (Span.ofMillis 100), Span.ofMillis 20⟩

theorem mixed_builds : ∀ p ∈ mixed.probes, p.Builds := by
  intro p hp
  simp only [mixed, List.mem_cons, List.not_mem_nil, or_false] at hp
  rcases hp with rfl | rfl | rfl
  · refine Timed.promises_pure (.aggregate fun u hu => ?_)
    simp only [List.mem_cons, List.not_mem_nil, or_false] at hu
    rcases hu with rfl | rfl
    · refine .aggregate fun v hv => ?_
      simp only [List.mem_cons, List.not_mem_nil, or_false] at hv
      rcases hv with rfl | rfl
      · exact .pass _
      · exact .withStatusCode _ (.fail _ _)
    · exact .pass _
  · exact fun _ => ⟨fun _ _ => trivial, nofun⟩
  · refine Timed.Promises.bind (Timed.returns_any _) fun _ _ => Timed.promises_pure ?_
    refine .aggregate fun u hu => ?_
    cases List.mem_singleton.mp hu
    exact .pass _

/-- The mixed battery, and a run from the command line without any binding. -/
theorem no_failure_lost_mixed :
    (∃ t tok' results, (mixed.run .never).ending = .returned t tok' results ∧
      results.map (·.passed) = [false, false, false] ∧ ∀ r ∈ results, r.Faithful) ∧
    ∃ options config, read ["run"] (fun _ => none) = .ok (options, .run) ∧
      Config.ofOptions options = .ok config ∧
      ∀ p : Platform,
        (∃ results, execute ["run"] (fun _ => none) p = .report results ∧ Gathers config p results ∧
          (execute ["run"] (fun _ => none) p).TellsOf results) ∨
        execute ["run"] (fun _ => none) p = .stuck ∧
          ((Registry.harness config p).run .never).ending = .never := by
  have hread : read ["run"] (fun _ => none) = .ok (Options.ofReading ⟨[], none⟩, .run) := rfl
  obtain ⟨config, hconfig⟩ : ∃ config, Config.ofOptions (Options.ofReading ⟨[], none⟩) = .ok config :=
    ⟨_, rfl⟩
  obtain ⟨t, tok', results, hend, hpassed⟩ : ∃ t tok' results,
      (mixed.run .never).ending = .returned t tok' results ∧
        results.map (·.passed) = [false, false, false] :=
    ⟨_, _, _, by with_unfolding_all rfl, rfl⟩
  obtain ⟨-, -, hruns, -, hexit⟩ :=
    no_failure_lost mixed mixed_builds ["run"] (fun _ => none) _ config hread hconfig
  exact ⟨⟨t, tok', results, hend, hpassed, hruns _ _ _ _ hend⟩, _, config, hread, hconfig, hexit⟩

end CommandLine
end Checkup
