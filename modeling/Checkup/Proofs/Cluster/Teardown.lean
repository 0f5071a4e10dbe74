import Mathlib.Data.List.Nodup
import Checkup.Proofs.Cluster.Contract
import Checkup.Proofs.Text.Decimal

/-!
# What a check creates, it deletes

The contracts of the parts of a check, put together. That each resource is deleted once rests on the
names: no two resources of a check are the same, since no two have the same name.

Results:
* `names_nodup`: no two resources of a check have the same name.
* `probe_balanced`: the calls of a whole check, as the structure `Balanced`.
-/
namespace Checkup.Cluster

/-! ## The names -/

theorem ingressName_inj {i j : Nat} (h : ingressName i = ingressName j) : i = j :=
  Text.natText_inj ((String.append_right_inj _).mp h)

theorem length_ingressName (i : Nat) : 18 ≤ (ingressName i).length := by
  have h : (ingressName i).length = "smoketest-ingress-".length + (Text.natText i).length :=
    String.length_append ..
  have : "smoketest-ingress-".length = 18 := by decide
  omega

theorem ne_ingressName {name : String} (h : name.length < 18) (i : Nat) : name ≠ ingressName i := by
  intro he
  have := length_ingressName i
  rw [← he] at this
  omega

/-- The names of the ingresses are those of their positions, whatever the rules are. -/
theorem names_resources (s : Settings) : s.resources.map Resource.name =
    deploymentName :: serviceName :: (List.range' 0 s.ingresses.length).map ingressName := by
  rw [← List.zipIdx_map_snd 0 s.ingresses, List.map_map]
  simp [Settings.resources, Settings.deployment, Settings.service, Settings.ingress, Resource.name,
    Function.comp_def]

theorem names_nodup (s : Settings) : (s.resources.map Resource.name).Nodup := by
  rw [names_resources, List.nodup_cons, List.nodup_cons]
  refine ⟨?_, ?_, List.Nodup.map (fun _ _ h => ingressName_inj h) List.nodup_range'⟩
  · intro h
    rcases List.mem_cons.mp h with h | h
    · exact absurd h (by decide)
    · obtain ⟨i, -, hi⟩ := List.mem_map.mp h
      exact ne_ingressName (by decide) i hi.symm
  · intro h
    obtain ⟨i, -, hi⟩ := List.mem_map.mp h
    exact ne_ingressName (by decide) i hi.symm

/-! ## The whole check -/

structure Balanced (svc : Service) (s : Settings) (called : List Call) (cs : List Resource) :
    Prop where
  /-- The deployment, the service and the ingresses are attempted in this order, up to some point. -/
  inOrder : cs <+: s.resources
  /-- At least one is attempted. -/
  attempted : cs ≠ []
  /-- All but the last of the attempted are created. -/
  created : ∀ r ∈ cs.dropLast, svc.Creates r
  /-- The last is refused, unless everything was attempted. -/
  refused : cs.length ≠ s.ingresses.length + 2 → ∃ r, cs.getLast? = some r ∧ svc.Refuses r
  /-- The attempted resources have different names. -/
  named : (cs.map Resource.name).Nodup
  /-- The changes are the attempts and then the deletions, in the opposite order. -/
  changes : called.filter Call.isChange = cs.map .create ++ cs.reverse.map .delete
  /-- Whatever was attempted is deleted once. -/
  once : ∀ r ∈ cs, called.count (.delete r) = 1
  /-- Nothing but deletions comes behind the first deletion. -/
  deletionsLast : ∃ work, called = work ++ cs.reverse.map .delete ∧ ∀ r, Call.delete r ∉ work

/-- What changes the cluster, among attempts, calls that change nothing, and deletions. -/
theorem filter_isChange {cs ds : List Resource} {es : List Call} (h : ∀ e ∈ es, e.Quiet) :
    (cs.map Call.create ++ es ++ ds.map Call.delete).filter Call.isChange =
      cs.map .create ++ ds.map .delete := by
  have hcreate : (cs.map Call.create).filter Call.isChange = cs.map .create :=
    List.filter_eq_self.mpr fun e he => by obtain ⟨r, -, rfl⟩ := List.mem_map.mp he; rfl
  have hdelete : (ds.map Call.delete).filter Call.isChange = ds.map .delete :=
    List.filter_eq_self.mpr fun e he => by obtain ⟨r, -, rfl⟩ := List.mem_map.mp he; rfl
  have hquiet : es.filter Call.isChange = [] :=
    List.filter_eq_nil_iff.mpr fun e he => by rw [h e he]; exact Bool.false_ne_true
  rw [List.filter_append, List.filter_append, hcreate, hdelete, hquiet, List.append_nil]

theorem delete_not_mem {cs : List Resource} {es : List Call} (h : ∀ e ∈ es, e.Quiet) (r : Resource) :
    Call.delete r ∉ cs.map .create ++ es := by
  intro hmem
  rcases List.mem_append.mp hmem with hmem | hmem
  · obtain ⟨_, -, hc⟩ := List.mem_map.mp hmem
    cases hc
  · exact absurd (h _ hmem) (by simp [Call.Quiet, Call.isChange])

theorem Attempts.balanced {svc : Service} {s : Settings} {cs : List Resource} {ok : Bool}
    (h : Attempts svc s.resources cs ok) {es : List Call} (hes : ∀ e ∈ es, e.Quiet) :
    Balanced svc s (cs.map .create ++ es ++ cs.reverse.map .delete) cs := by
  have hnamed : (cs.map Resource.name).Nodup :=
    (names_nodup s).sublist (h.isPrefix.sublist.map _)
  refine
    { inOrder := h.isPrefix
      attempted := h.ne_nil (List.cons_ne_nil _ _)
      created := h.creates
      refused := fun hlen => h.refuses (by simpa [Settings.resources] using hlen)
      named := hnamed
      changes := filter_isChange hes
      once := ?once
      deletionsLast := ⟨_, rfl, delete_not_mem hes⟩ }
  case once =>
    intro r hr
    have hnodup : (cs.reverse.map Call.delete).Nodup :=
      (List.nodup_reverse.mpr (List.Nodup.of_map _ hnamed)).map fun _ _ h => Call.delete.inj h
    rw [List.count_append, List.count_eq_zero_of_not_mem (delete_not_mem hes r), Nat.zero_add]
    exact List.count_eq_one_of_mem hnodup
      (List.mem_map_of_mem (List.mem_reverse.mpr hr))

theorem check_ensures {svc : Service} (hsvc : svc.Settles) {s : Settings} (hs : s.Representable)
    (random : Nat → Nat) (log : StepLog) :
    Work.Ensures (check svc s random) ⟨log, []⟩ fun es _ _ => ∃ cs, Balanced svc s es cs := by
  refine (provision_ensures hsvc hs random _).bind fun es ready p h => ?_
  obtain ⟨cs, ok, fs, hcs, rfl, hfs, htear⟩ := h
  rw [List.append_nil] at htear
  -- The end of the check, behind whatever was called without changing anything.
  have hend : ∀ (gs : List Call) (p : Progress), (∀ e ∈ gs, e.Quiet) → p.teardown = cs.reverse →
      Work.Ensures (do tearDown svc (← get).teardown) p fun es _ _ =>
        ∃ cs', Balanced svc s (cs.map .create ++ fs ++ gs ++ es) cs' := by
    intro gs p hgs htear
    refine (Work.ensures_get p).bind fun es v p' h => ?_
    obtain ⟨rfl, rfl, rfl⟩ := h
    refine (tearDown_ensures hsvc _ _).mono fun es _ _ h => ⟨cs, ?_⟩
    have hquiet : ∀ e ∈ fs ++ gs, e.Quiet := fun e he =>
      (List.mem_append.mp he).elim (hfs e) (hgs e)
    have hbalanced := hcs.balanced hquiet
    rwa [h, htear, List.nil_append, List.append_assoc (cs.map Call.create)]
  cases ready with
  | false => simpa using hend [] p nofun htear
  | true =>
    refine (testHosts_ensures hsvc s.ingresses [] p).bind fun gs _ p' h => ?_
    exact (hend gs p' h.1 (h.2.trans htear)).mono fun es _ _ h => by
      rwa [← List.append_assoc]

/-- Whatever goes wrong and whenever the token fires, a check ends, and what it attempted to create it
has deleted by then: each resource once, in the opposite order, and after everything else. -/
theorem probe_balanced (svc : Service) (hsvc : svc.Settles) (s : Settings) (hs : s.Representable)
    (random : Nat → Nat) (token : Token) :
    ∃ t token' node cs, ((probe s svc random).run token).ending = .returned t token' node ∧
      Balanced svc s ((probe s svc random).run token).called cs := by
  have hrun : (probe s svc random).run.Ensures fun es _ => ∃ cs, Balanced svc s es cs := by
    refine Timed.Ensures.bind (check_ensures hsvc hs random .empty) fun es v h => ?_
    exact Timed.ensures_pure (by rw [List.append_nil]; exact h)
  obtain ⟨t, token', node, he, cs, hcs⟩ := hrun token
  exact ⟨t, token', node, cs, he, hcs⟩

/-- A cluster whose deployment never gets ready and whose deletions all fail, cancelled after 300 ticks. -/
theorem probe_balanced_cancelled :
    let svc : Service :=
      { create := fun _ => .answers 1 (.ok ())
        delete := fun _ => .answers 2 (.error (.message "gone"))
        states := ⟨fun _ _ => .hangs, fun _ _ => .hangs⟩
        status := fun _ _ => .answers 3 (.ok 200) }
    let s : Settings :=
      { Settings.ofImage "smoketest:1" with ingresses := [⟨"a.example", "tls", "nginx"⟩] }
    ∃ t token' node cs, ((probe s svc (randomStream 7)).run (.due 300)).ending = .returned t token' node ∧
      Balanced svc s ((probe s svc (randomStream 7)).run (.due 300)).called cs := by
  intro svc s
  have hsvc : svc.Settles :=
    { create := fun _ => ⟨1, .ok (), rfl⟩
      delete := fun _ => ⟨2, .error (.message "gone"), rfl⟩
      status := fun _ _ => ⟨3, .ok 200, rfl⟩
      states := ⟨fun _ _ _ _ => by simp [svc], fun _ _ _ _ => by simp [svc]⟩ }
  have hs : s.Representable := by
    show fitsClock (Span.ofSeconds 120).ticks (Span.ofSeconds 5) = true
    decide +kernel
  exact probe_balanced svc hsvc s hs (randomStream 7) (.due 300)

end Checkup.Cluster
