import Mathlib.Algebra.Order.BigOperators.Group.Finset
import Mathlib.Logic.Relation
import Checkup.StatusServer

/-!
# The lock of the runs

The run for a request is a task of its own, and all these tasks share one lock. A task takes its place in
the queue of the lock when its request arrives, does the run while it has the lock, and gives the lock
back at the end of the run, also if that is a panic. The client only waits for what the task gives; it may
go away at any time. `Site.Step` says what can happen next, to any of the tasks and clients, so a run of it
is one of the ways in which the requests can interleave.

**Assumptions.** The `n` runs are given, each by its course, and each ends. Nothing is said of the times:
a request arrives at any point of a run, and its client leaves at any point behind that.

Results:
* `Step.stage`: the tasks get the lock in the order of the requests, one at a time.
* `Step.left_lt`: every step brings the whole nearer to its end.
* `serialized`: what holds at any time, as the structure `Serialized`.
-/
namespace Checkup.StatusServer

variable {ε : Type}

inductive Phase (ε : Type) where
  | waiting
  | running (ahead : List (RunEvent ε))
  | over

inductive Client where
  | asking
  | gone
  | answered (nodes : List Node)

/-- The tasks and clients of the requests, which are numbered in the order of their arrival, the lock,
and what the runs have done so far. -/
structure Site (ε : Type) where
  arrived : Nat
  phase : Nat → Phase ε
  client : Nat → Client
  held : Bool
  queue : List Nat
  log : List (Nat × RunEvent ε)

namespace Site

/-- Before the first request. -/
def start : Site ε := ⟨0, fun _ => .waiting, fun _ => .asking, false, [], []⟩

/-- What the server can do next, where request `i` leads to the run `runs i`. -/
inductive ServerStep (runs : Nat → Course (RunEvent ε) (List Node)) : Site ε → Site ε → Prop where
  /-- The first task in the queue takes the lock. -/
  | acquire {x : Site ε} {i : Nat} {rest : List Nat} : x.held = false → x.queue = i :: rest →
      ServerStep runs x { x with
        held := true, queue := rest, phase := Function.update x.phase i (.running (runs i).called) }
  /-- A run goes on. -/
  | act {x : Site ε} {i : Nat} {e : RunEvent ε} {rest : List (RunEvent ε)} :
      x.phase i = .running (e :: rest) →
      ServerStep runs x { x with
        phase := Function.update x.phase i (.running rest), log := x.log ++ [(i, e)] }
  /-- A run ends, and the lock is given back. -/
  | release {x : Site ε} {i : Nat} : x.phase i = .running [] → (ended (runs i).ending).isSome →
      ServerStep runs x { x with held := false, phase := Function.update x.phase i .over }
  /-- A client that is still there gets the results of its run. -/
  | answer {x : Site ε} {i t : Nat} {nodes : List Node} : x.phase i = .over → x.client i = .asking →
      ended (runs i).ending = some (t, nodes) →
      ServerStep runs x { x with client := Function.update x.client i (.answered nodes) }

/-- What can happen next, with `n` requests in all. -/
inductive Step (runs : Nat → Course (RunEvent ε) (List Node)) (n : Nat) : Site ε → Site ε → Prop where
  | server {x y : Site ε} : ServerStep runs x y → Step runs n x y
  /-- A request arrives, and its task takes its place in the queue. -/
  | arrive {x : Site ε} : x.arrived < n →
      Step runs n x { x with arrived := x.arrived + 1, queue := x.queue ++ [x.arrived] }
  /-- A client goes away. -/
  | leave {x : Site ε} {i : Nat} : i < x.arrived → x.client i = .asking →
      Step runs n x { x with client := Function.update x.client i .gone }

variable {runs : Nat → Course (RunEvent ε) (List Node)} {n : Nat} {x y : Site ε}

/-- What the first runs do, one after another. -/
def logOf (runs : Nat → Course (RunEvent ε) (List Node)) (m : Nat) : List (Nat × RunEvent ε) :=
  (List.range m).flatMap fun i => (runs i).called.map (i, ·)

theorem logOf_succ (m : Nat) : logOf runs (m + 1) = logOf runs m ++ (runs m).called.map (m, ·) := by
  simp [logOf, List.range_succ]

/-- How the tasks stand when the first `m` of them are over and the next one is at `current`. -/
def phases (m : Nat) (current : Phase ε) (i : Nat) : Phase ε :=
  if i < m then .over else if i = m then current else .waiting

inductive Stage (runs : Nat → Course (RunEvent ε) (List Node)) (x : Site ε) : Prop where
  /-- The first `m` are over, and nobody has the lock. -/
  | free (m : Nat) : x.held = false → x.phase = phases m .waiting → m ≤ x.arrived →
      x.queue = List.range' m (x.arrived - m) → x.log = logOf runs m → Stage runs x
  /-- The first `m` are over, and the next one has the lock. -/
  | busy (m : Nat) (past ahead : List (RunEvent ε)) : x.held = true →
      x.phase = phases m (.running ahead) → m < x.arrived →
      x.queue = List.range' (m + 1) (x.arrived - (m + 1)) → (runs m).called = past ++ ahead →
      x.log = logOf runs m ++ past.map (m, ·) → Stage runs x

structure Inv (runs : Nat → Course (RunEvent ε) (List Node)) (n : Nat) (x : Site ε) : Prop where
  arrived_le : x.arrived ≤ n
  stage : Stage runs x
  answered : ∀ i nodes, x.client i = .answered nodes →
    x.phase i = .over ∧ ∃ t, ended (runs i).ending = some (t, nodes)

theorem phases_over {m i : Nat} {current : Phase ε} (h : current ≠ .over) :
    phases m current i = .over ↔ i < m := by
  unfold phases
  split
  · simp [*]
  · split
    · simp [*]
    · simp [*]

theorem phases_running {m i : Nat} {current : Phase ε} {ahead : List (RunEvent ε)}
    (h : phases m current i = .running ahead) : i = m ∧ current = .running ahead := by
  unfold phases at h
  split at h
  · cases h
  · split at h
    · exact ⟨‹_›, h⟩
    · cases h

/-- The task that has the lock goes on. -/
theorem update_phases (m : Nat) (current next : Phase ε) :
    Function.update (phases m current) m next = phases m next := by
  funext i
  by_cases hi : i = m
  · subst hi; simp [phases]
  · simp [phases, hi]

/-- When its run is over, the next task is the first that is not. -/
theorem phases_succ (m : Nat) : phases m .over = phases (m + 1) (.waiting : Phase ε) := by
  funext i
  rcases Nat.lt_trichotomy i m with hi | rfl | hi
  · simp [phases, hi, Nat.lt_succ_of_lt hi]
  · simp [phases]
  · simp [phases, show ¬ i < m by omega, show i ≠ m by omega, show ¬ i < m + 1 by omega]

theorem range'_arrive {m a : Nat} (h : m ≤ a) :
    List.range' m (a - m) ++ [a] = List.range' m (a + 1 - m) := by
  rw [Nat.succ_sub h, List.range'_1_concat, Nat.add_sub_cancel' h]

theorem inv_start : (start : Site ε).Inv runs n where
  arrived_le := Nat.zero_le n
  stage := .free 0 rfl (by funext i; simp [start, phases]) (Nat.le_refl 0) rfl rfl
  answered := nofun

/-- What the clients do makes no difference to the runs. -/
theorem Stage.of_client (hx : x.Stage runs) (client : Nat → Client) :
    Stage runs { x with client := client } := by
  rcases hx with ⟨m, hheld, hphase, hm, hall, hlog⟩ |
    ⟨m, past, ahead, hheld, hphase, hm, hall, hcalled, hlog⟩
  · exact .free m hheld hphase hm hall hlog
  · exact .busy m past ahead hheld hphase hm hall hcalled hlog

theorem ServerStep.stage (h : ServerStep runs x y) (hx : x.Stage runs) : y.Stage runs := by
  cases h with
  | @acquire i rest hheld hqueue =>
    rcases hx with ⟨m, -, hphase, hm, hall, hlog⟩ | ⟨m, past, ahead, hheld', -⟩
    · -- The head of the queue is the first task that is not over.
      obtain ⟨rfl, hpos, rfl⟩ := List.range'_eq_cons_iff.mp (hall.symm.trans hqueue)
      refine .busy m [] (runs m).called rfl ?_ (Nat.lt_of_sub_pos hpos) ?_ rfl ?_
      · rw [hphase]; exact update_phases ..
      · simp only [Nat.sub_sub]
      · rw [hlog, List.map_nil, List.append_nil]
    · rw [hheld] at hheld'; cases hheld'
  | @act i e rest hrun =>
    rcases hx with ⟨m, hheld, hphase, -⟩ | ⟨m, past, ahead, hheld, hphase, hm, hall, hcalled, hlog⟩
    · rw [hphase] at hrun
      cases (phases_running hrun).2
    · rw [hphase] at hrun
      obtain ⟨rfl, hahead⟩ := phases_running hrun
      cases hahead
      refine .busy i (past ++ [e]) rest hheld ?_ hm hall ?_ ?_
      · rw [hphase]; exact update_phases ..
      · rw [hcalled, List.append_assoc]; rfl
      · rw [hlog, List.map_append, List.append_assoc]; rfl
  | @release i hrun _ =>
    rcases hx with ⟨m, hheld, hphase, -⟩ | ⟨m, past, ahead, hheld, hphase, hm, hall, hcalled, hlog⟩
    · rw [hphase] at hrun
      cases (phases_running hrun).2
    · rw [hphase] at hrun
      obtain ⟨rfl, hahead⟩ := phases_running hrun
      cases hahead
      refine .free (i + 1) rfl ?_ hm hall ?_
      · rw [hphase, update_phases]; exact phases_succ i
      · rw [hlog, logOf_succ, hcalled, List.append_nil]
  | answer => exact hx.of_client _

theorem Step.stage (h : Step runs n x y) (hx : x.Stage runs) : y.Stage runs := by
  cases h with
  | server h => exact h.stage hx
  | arrive =>
    rcases hx with ⟨m, hheld, hphase, hm, hall, hlog⟩ |
      ⟨m, past, ahead, hheld, hphase, hm, hall, hcalled, hlog⟩
    · exact .free m hheld hphase (Nat.le_succ_of_le hm) (by rw [hall]; exact range'_arrive hm) hlog
    · exact .busy m past ahead hheld hphase (Nat.lt_succ_of_lt hm)
        (by rw [hall]; exact range'_arrive hm) hcalled hlog
  | leave => exact hx.of_client _

theorem Stage.waiting_of_queue (hx : x.Stage runs) {i : Nat} {rest : List Nat}
    (hqueue : x.queue = i :: rest) : x.phase i = .waiting := by
  rcases hx with ⟨m, -, hphase, -, hall, -⟩ | ⟨m, past, ahead, -, hphase, -, hall, -⟩
  · obtain ⟨rfl, -⟩ := List.range'_eq_cons_iff.mp (hall.symm.trans hqueue)
    simp [hphase, phases]
  · obtain ⟨rfl, -⟩ := List.range'_eq_cons_iff.mp (hall.symm.trans hqueue)
    simp [hphase, phases]

/-- A task that is over stays so. -/
theorem Step.over (h : Step runs n x y) (hx : x.Stage runs) {i : Nat} (hi : x.phase i = .over) :
    y.phase i = .over := by
  have hother : ∀ j current, x.phase j ≠ .over → Function.update x.phase j current i = .over :=
    fun j current hj => by
      rw [Function.update_of_ne fun hij => hj (by rw [← hij, hi])]
      exact hi
  cases h with
  | server h =>
    cases h with
    | acquire _ hqueue => exact hother _ _ (by rw [hx.waiting_of_queue hqueue]; nofun)
    | act hrun => exact hother _ _ (by rw [hrun]; nofun)
    | release hrun _ => exact hother _ _ (by rw [hrun]; nofun)
    | answer => exact hi
  | arrive => exact hi
  | leave => exact hi

theorem Step.inv (h : Step runs n x y) (hx : x.Inv runs n) : y.Inv runs n where
  arrived_le := by
    cases h with
    | server h => cases h <;> exact hx.arrived_le
    | arrive hlt => exact hlt
    | leave => exact hx.arrived_le
  stage := h.stage hx.stage
  answered := by
    intro i nodes hi
    -- Whoever has an answer had it before this step, unless this step gives it.
    have hbefore : x.client i = .answered nodes →
        y.phase i = .over ∧ ∃ t, ended (runs i).ending = some (t, nodes) := fun hold =>
      have ⟨hover, hended⟩ := hx.answered i nodes hold
      ⟨h.over hx.stage hover, hended⟩
    cases h with
    | server h =>
      cases h with
      | acquire | act | release => exact hbefore hi
      | @answer j t nodes' hover _ hended =>
        by_cases hij : i = j
        · subst hij
          simp only [Function.update_self, Client.answered.injEq] at hi
          exact ⟨hover, t, hi ▸ hended⟩
        · exact hbefore (by simpa only [Function.update_of_ne hij] using hi)
    | arrive => exact hbefore hi
    | @leave j =>
      by_cases hij : i = j
      · subst hij
        simp only [Function.update_self, reduceCtorEq] at hi
      · exact hbefore (by simpa only [Function.update_of_ne hij] using hi)

/-- What can be reached from the start. -/
def Reachable (runs : Nat → Course (RunEvent ε) (List Node)) (n : Nat) (x : Site ε) : Prop :=
  Relation.ReflTransGen (Step runs n) start x

theorem Reachable.inv (h : Reachable runs n x) : x.Inv runs n := by
  induction h with
  | refl => exact inv_start
  | tail _ hstep ih => exact hstep.inv ih

/-! ## What was done -/

theorem logOf_le {m k : Nat} (h : m ≤ k) : logOf runs m <+: logOf runs k := by
  obtain ⟨d, rfl⟩ := Nat.exists_eq_add_of_le h
  rw [logOf, logOf, List.range_add, List.flatMap_append]
  exact List.prefix_append _ _

theorem Inv.log_prefix (hx : x.Inv runs n) : x.log <+: logOf runs n := by
  rcases hx.stage with ⟨m, -, -, hm, -, hlog⟩ | ⟨m, past, ahead, -, -, hm, -, hcalled, hlog⟩
  · rw [hlog]
    exact logOf_le (Nat.le_trans hm hx.arrived_le)
  · have hlast : x.log <+: logOf runs (m + 1) := by
      rw [hlog, logOf_succ, hcalled, List.map_append]
      exact (List.prefix_append_right_inj _).mpr (List.prefix_append _ _)
    exact hlast.trans (logOf_le (Nat.le_trans hm hx.arrived_le))

/-- The log holds all of a run that is over, behind the runs before it. -/
theorem Inv.log_over (hx : x.Inv runs n) {i : Nat} (hi : x.phase i = .over) :
    logOf runs (i + 1) <+: x.log := by
  rcases hx.stage with ⟨m, -, hphase, -, -, hlog⟩ | ⟨m, past, ahead, -, hphase, -, -, -, hlog⟩
  · rw [hphase, phases_over (by nofun)] at hi
    exact hlog ▸ logOf_le hi
  · rw [hphase, phases_over (by nofun)] at hi
    exact hlog ▸ (logOf_le hi).trans (List.prefix_append _ _)

theorem Inv.exclusive (hx : x.Inv runs n) {i j : Nat} {a b : List (RunEvent ε)}
    (hi : x.phase i = .running a) (hj : x.phase j = .running b) : i = j := by
  rcases hx.stage with ⟨m, -, hphase, -⟩ | ⟨m, past, ahead, -, hphase, -⟩
  · rw [hphase] at hi hj
    exact (phases_running hi).1.trans (phases_running hj).1.symm
  · rw [hphase] at hi hj
    exact (phases_running hi).1.trans (phases_running hj).1.symm

/-! ## Progress -/

theorem Stage.lt_arrived (hx : x.Stage runs) {i : Nat} (hi : x.phase i ≠ .waiting) : i < x.arrived := by
  rcases hx with ⟨m, -, hphase, hm, -⟩ | ⟨m, past, ahead, -, hphase, hm, -⟩
  · rw [hphase, phases] at hi
    split at hi
    · omega
    · split at hi <;> exact absurd rfl hi
  · rw [hphase, phases] at hi
    split at hi
    · omega
    · split at hi
      · omega
      · exact absurd rfl hi

theorem Stage.queued_lt (hx : x.Stage runs) {i : Nat} {rest : List Nat} (hqueue : x.queue = i :: rest) :
    i < x.arrived := by
  rcases hx with ⟨m, -, -, -, hall, -⟩ | ⟨m, past, ahead, -, -, -, hall, -⟩
  · obtain ⟨rfl, hpos, -⟩ := List.range'_eq_cons_iff.mp (hall.symm.trans hqueue)
    omega
  · obtain ⟨rfl, hpos, -⟩ := List.range'_eq_cons_iff.mp (hall.symm.trans hqueue)
    omega

/-- Nothing is left for the server to do: nobody has the lock or waits for it, and no client waits for a
run that is over. -/
def AtRest (x : Site ε) : Prop :=
  x.held = false ∧ x.queue = [] ∧ ∀ i, x.phase i = .over → x.client i ≠ .asking

/-- Until it is at rest the server can go on, whatever the clients do. -/
theorem Inv.rest_or_step (hx : x.Inv runs n) (hends : ∀ i < n, (ended (runs i).ending).isSome) :
    x.AtRest ∨ ∃ y, ServerStep runs x y := by
  rcases hx.stage with ⟨m, hheld, -⟩ | ⟨m, past, ahead, -, hphase, hm, -⟩
  · cases hqueue : x.queue with
    | cons i rest => exact .inr ⟨_, .acquire hheld hqueue⟩
    | nil =>
      by_cases hasking : ∃ i, x.phase i = .over ∧ x.client i = .asking
      · obtain ⟨i, hover, hclient⟩ := hasking
        have hlt : i < x.arrived := hx.stage.lt_arrived (by rw [hover]; nofun)
        obtain ⟨⟨t, nodes⟩, hended⟩ :=
          Option.isSome_iff_exists.mp (hends i (Nat.lt_of_lt_of_le hlt hx.arrived_le))
        exact .inr ⟨_, .answer hover hclient hended⟩
      · exact .inl ⟨hheld, hqueue, fun i hover hclient => hasking ⟨i, hover, hclient⟩⟩
  · have hrun : x.phase m = .running ahead := by simp [hphase, phases]
    cases ahead with
    | cons e rest => exact .inr ⟨_, .act hrun⟩
    | nil => exact .inr ⟨_, .release hrun (hends m (Nat.lt_of_lt_of_le hm hx.arrived_le))⟩

/-- Then all that arrived have been served. -/
theorem Inv.settled (hx : x.Inv runs n) (hrest : x.AtRest) : x.log = logOf runs x.arrived ∧
    ∀ i < x.arrived, x.phase i = .over ∧ x.client i ≠ .asking := by
  obtain ⟨hheld, hqueue, hclients⟩ := hrest
  rcases hx.stage with ⟨m, -, hphase, hm, hall, hlog⟩ | ⟨m, past, ahead, hheld', -⟩
  · rw [hqueue] at hall
    have hnone : x.arrived - m = 0 := by simpa using congrArg List.length hall.symm
    obtain rfl : m = x.arrived := Nat.le_antisymm hm (Nat.le_of_sub_eq_zero hnone)
    refine ⟨hlog, fun i hi => ?_⟩
    have hover : x.phase i = .over := by
      rw [hphase]
      exact (phases_over (by nofun)).mpr hi
    exact ⟨hover, hclients i hover⟩
  · rw [hheld] at hheld'; cases hheld'

/-- How many steps are left for one request at most. -/
def weight (runs : Nat → Course (RunEvent ε) (List Node)) (x : Site ε) (i : Nat) : Nat :=
  (if i < x.arrived then 0 else 1) +
    (match x.phase i with
      | .waiting => (runs i).called.length + 2
      | .running ahead => ahead.length + 1
      | .over => 0) +
    match x.client i with
      | .asking => 1
      | .gone | .answered _ => 0

/-- How many steps are left at most. -/
def left (runs : Nat → Course (RunEvent ε) (List Node)) (n : Nat) (x : Site ε) : Nat :=
  ∑ i ∈ Finset.range n, x.weight runs i

/-- A step is a step of one request and leaves the others where they are. -/
theorem Step.weight (h : Step runs n x y) (hx : x.Inv runs n) :
    ∃ i < n, y.weight runs i < x.weight runs i ∧ ∀ j ≠ i, y.weight runs j = x.weight runs j := by
  have hlt : ∀ i, i < x.arrived → i < n := fun i hi => Nat.lt_of_lt_of_le hi hx.arrived_le
  cases h with
  | server h =>
    cases h with
    | @acquire i rest hheld hqueue =>
      refine ⟨i, hlt i (hx.stage.queued_lt hqueue), ?_, fun j hj => ?_⟩
      · simp [Site.weight, hx.stage.waiting_of_queue hqueue]
      · simp [Site.weight, Function.update_of_ne hj]
    | @act i e rest hrun =>
      refine ⟨i, hlt i (hx.stage.lt_arrived (by rw [hrun]; nofun)), ?_, fun j hj => ?_⟩
      · simp [Site.weight, hrun]
      · simp [Site.weight, Function.update_of_ne hj]
    | @release i hrun _ =>
      refine ⟨i, hlt i (hx.stage.lt_arrived (by rw [hrun]; nofun)), ?_, fun j hj => ?_⟩
      · simp [Site.weight, hrun]
      · simp [Site.weight, Function.update_of_ne hj]
    | @answer i t nodes hover hclient _ =>
      refine ⟨i, hlt i (hx.stage.lt_arrived (by rw [hover]; nofun)), ?_, fun j hj => ?_⟩
      · simp [Site.weight, hclient]
      · simp [Site.weight, Function.update_of_ne hj]
  | arrive harrived =>
    refine ⟨x.arrived, harrived, ?_, fun j hj => ?_⟩
    · simp [Site.weight]
    · have : j < x.arrived + 1 ↔ j < x.arrived := by omega
      simp [Site.weight, this]
  | @leave i hi hclient =>
    refine ⟨i, hlt i hi, ?_, fun j hj => ?_⟩
    · simp [Site.weight, hclient]
    · simp [Site.weight, Function.update_of_ne hj]

theorem Step.left_lt (h : Step runs n x y) (hx : x.Inv runs n) : y.left runs n < x.left runs n := by
  obtain ⟨i, hi, hlt, hothers⟩ := h.weight hx
  refine Finset.sum_lt_sum (fun j _ => ?_) ⟨i, Finset.mem_range.mpr hi, hlt⟩
  by_cases hj : j = i
  · exact hj ▸ Nat.le_of_lt hlt
  · exact Nat.le_of_eq (hothers j hj)

/-- What holds of `n` requests and their runs in whichever way they interleave. -/
structure Serialized (runs : Nat → Course (RunEvent ε) (List Node)) (n : Nat) : Prop where
  /-- Two runs are never under way at a time. -/
  exclusive : ∀ x i j a b, Reachable runs n x → x.phase i = .running a → x.phase j = .running b → i = j
  /-- The runs are done one behind the other, in the order of the requests. -/
  inOrder : ∀ x, Reachable runs n x → x.log <+: logOf runs n
  /-- When a task is over, all of its run has been done. -/
  whole : ∀ x i, Reachable runs n x → x.phase i = .over → logOf runs (i + 1) <+: x.log
  /-- What a client gets is what its run gave. -/
  answered : ∀ x i nodes, Reachable runs n x → x.client i = .answered nodes →
    x.phase i = .over ∧ ∃ t, ended (runs i).ending = some (t, nodes)
  /-- The server goes on until it is at rest, and needs no client for that. -/
  live : ∀ x, Reachable runs n x → x.AtRest ∨ ∃ y, ServerStep runs x y
  /-- Then all that arrived have had their runs, and every client that is still there has its answer. -/
  settled : ∀ x, Reachable runs n x → x.AtRest → x.log = logOf runs x.arrived ∧
    ∀ i < x.arrived, x.phase i = .over ∧ x.client i ≠ .asking
  /-- And it does not go on for ever. -/
  ends : ∀ x y, Reachable runs n x → Step runs n x y → y.left runs n < x.left runs n

theorem serialized (hends : ∀ i < n, (ended (runs i).ending).isSome) : Serialized runs n where
  exclusive _ _ _ _ _ hx := hx.inv.exclusive
  inOrder _ hx := hx.inv.log_prefix
  whole _ _ hx := hx.inv.log_over
  answered _ i nodes hx := hx.inv.answered i nodes
  live _ hx := hx.inv.rest_or_step hends
  settled _ hx hrest := hx.inv.settled hrest
  ends _ _ hx h := h.left_lt hx.inv

end Site
end Checkup.StatusServer
