import Checkup.Proofs.Harness.Composition
import Checkup.Proofs.Node.Listing
import Checkup.Proofs.StatusServer.Lock

/-!
# What a request for the status leads to

Each request for the status leads to one run of the battery, whether its client waits for the answer or
not. The run begins when the runs of the requests before it are over, all its probes are run, and what
they give is published once; the client that still waits gets the same, whatever the publisher says, and
one failed leaf if the publisher panics. What a client gets is an answer in JSON whose text lists these
results, by the grammar of JSON and the record of a node, and nothing else (`Answer.Carries`).

**Assumptions.** The battery comes to its end in each run, and so does the publisher, with any outcome or
in a panic; both may behave differently in each run. The requests are given in the order of their arrival.
When they arrive and how long their clients wait is open.

Results:
* `carries_results`: what the answer with the results of a run carries.
* `run_of_published`: nothing else is published than what a battery gave.
* `runAndPublish_complete`: one run, as the relation `Complete`.
* `serve_status`: the visits of all requests, one after another.
* `serve_served`: all of it, as the structure `Served`.
-/
namespace Checkup.StatusServer

variable {ε : Type}

/-- The answer is in JSON, and its text lists the results and nothing else. -/
structure Answer.Carries (a : Answer) (nodes : List Node) : Prop where
  status : a.status = 200
  contentType : a.contentType = some "application/json"
  body : ∀ us, Node.Lists a.body us ↔ us = nodes

theorem carries_results (nodes : List Node) : (results nodes).Carries nodes where
  status := rfl
  contentType := rfl
  body _ := Node.lists_text

/-- How a panic is told of. -/
def panicText : Panic → String
  | .text s => "task panicked with message " ++ Text.quoted s
  | .other => "task panicked"

/-- A failed leaf that tells of a run that broke off. -/
def brokenOff (q : Panic) : Node :=
  { key := none
    name := "Smoke test run"
    passed := false
    error := some ("Run aborted: " ++ panicText q)
    errorDetail := none
    statusCode := none
    children := [] }

theorem aborted_eq (q : Panic) : aborted q = [brokenOff q] := by
  cases q <;> rfl

/-- What a run does whose battery gives `nodes` at tick `t` and leaves the token as `later`: the calls of
the probes, one publication, and the calls of the publisher. -/
def runEvents (h : Harness ε) (publish : Publisher ε) (tok : Token) (t : Nat) (later : Token)
    (nodes : List Node) : List (Nat × RunEvent ε) :=
  (h.run tok).calls.map (fun c => (c.1, .call c.2)) ++ (t, .published nodes) ::
    Course.laterCalls t ((publish nodes later).calls.map fun c => (c.1, .call c.2))

/-- A run in which the battery comes to its end and its results are published, and what the client is to
see of it. -/
inductive Complete (h : Harness ε) (publish : Publisher ε) (tok : Token) :
    Course (RunEvent ε) (List Node) → List Node → Prop where
  /-- The publisher returns, with success or with an error. -/
  | published {t u : Nat} {later last : Token} {nodes : List Node} {outcome : Except PublishError Unit} :
      (h.run tok).ending = .returned t later nodes →
      (publish nodes later).ending = .returned u last outcome →
      Complete h publish tok ⟨runEvents h publish tok t later nodes, .returned (t + u) last nodes⟩ nodes
  /-- The publisher panics. -/
  | panicked {t u : Nat} {later : Token} {nodes : List Node} {q : Panic} :
      (h.run tok).ending = .returned t later nodes → (publish nodes later).ending = .panicked u q →
      Complete h publish tok ⟨runEvents h publish tok t later nodes, .panicked (t + u) q⟩ [brokenOff q]

section
variable {h : Harness ε} {publish : Publisher ε}

/-- A run publishes what its battery gives, and ends when the publisher does. -/
theorem runAndPublish_returned {tok later : Token} {t : Nat} {nodes : List Node}
    (hbattery : (h.run tok).ending = .returned t later nodes) :
    h.runAndPublish publish tok = ⟨runEvents h publish tok t later nodes,
      ((publish nodes later).ending.map fun _ => nodes).later t⟩ := by
  have hpublish : (Timed.emit (.published nodes) >>= fun _ =>
      (publish nodes).mapCalls RunEvent.call >>= fun _ => pure nodes) later =
      ⟨(0, .published nodes) :: (publish nodes later).calls.map fun c => (c.1, .call c.2),
        (publish nodes later).ending.map fun _ => nodes⟩ := by
    have hemit : (Timed.emit (.published nodes : RunEvent ε) later).ending =
        .returned 0 later () := rfl
    refine (Timed.bind_returned hemit).trans ?_
    refine (congrArg (Course.following _ 0) (Timed.bind_pure_apply _ (fun _ => nodes) later)).trans ?_
    simp [Course.following, Timed.emit, Timed.mapCalls]
  have hmapped : ((h.run.mapCalls RunEvent.call) tok).ending = .returned t later nodes := hbattery
  refine (Timed.bind_returned hmapped).trans ?_
  rw [hpublish]
  rfl

/-- What a run publishes is what its battery gave. -/
theorem run_of_published {tok : Token} {nodes : List Node}
    (hpublished : .published nodes ∈ (h.runAndPublish publish tok).called) :
    ∃ t later, (h.run tok).ending = .returned t later nodes := by
  cases hbattery : (h.run tok).ending with
  | returned t later results =>
    rw [runAndPublish_returned hbattery] at hpublished
    have hnodes : nodes = results := by
      simpa [Course.called, runEvents, Course.laterCalls] using hpublished
    exact ⟨t, later, by rw [hnodes]⟩
  | panicked t q => exact absurd hbattery (Harness.runProbes_ne_panicked t q)
  | never =>
    have hmapped : ((h.run.mapCalls RunEvent.call) tok).ending = .never := hbattery
    have hcalls : h.runAndPublish publish tok = ⟨((h.run.mapCalls RunEvent.call) tok).calls, .never⟩ :=
      Timed.bind_never hmapped
    rw [hcalls] at hpublished
    simp [Course.called, Timed.mapCalls] at hpublished

theorem runAndPublish_complete {tok : Token} (hrun : (h.run tok).ending ≠ .never)
    (hpublish : ∀ nodes later, (publish nodes later).ending ≠ .never) :
    ∃ response, Complete h publish tok (h.runAndPublish publish tok) response := by
  cases hbattery : (h.run tok).ending with
  | panicked t q => exact absurd hbattery (Harness.runProbes_ne_panicked t q)
  | never => exact absurd hbattery hrun
  | returned t later nodes =>
    rw [runAndPublish_returned hbattery]
    cases hended : (publish nodes later).ending with
    | returned u last outcome => exact ⟨nodes, .published hbattery hended⟩
    | panicked u q => exact ⟨[brokenOff q], .panicked hbattery hended⟩
    | never => exact absurd hended (hpublish nodes later)

theorem Complete.ended {tok : Token} {c : Course (RunEvent ε) (List Node)} {response : List Node}
    (hc : Complete h publish tok c response) : ∃ t, ended c.ending = some (t, response) := by
  cases hc with
  | published => exact ⟨_, rfl⟩
  | @panicked t u _ _ q =>
    rw [← aborted_eq q]
    exact ⟨t + u, rfl⟩

end

theorem time?_of_ended {e : Ending (List Node)} {t : Nat} {nodes : List Node}
    (he : ended e = some (t, nodes)) : e.time? = some t := by
  cases e <;> cases he <;> rfl

/-! ## One request -/

/-- What becomes of a request for the status: its run, by its number, from a tick on, and how its client
fares. -/
structure Visit (ε : Type) where
  number : Nat
  start : Nat
  course : Course (RunEvent ε) (List Node)
  reaction : Reaction

namespace Visit

/-- The tick at which the run is over. -/
def stop (v : Visit ε) : Nat := v.start + v.course.ending.time?.getD 0

def events (v : Visit ε) : List (Nat × RunEvent ε) := Course.laterCalls v.start v.course.calls

/-- The visit is what a request that arrives at a tick is to lead to. -/
structure Faithful (h : Nat → Harness ε) (publish : Nat → Publisher ε) (shutdown : Token)
    (arrival : Nat) (r : Request) (response : List Node) (v : Visit ε) : Prop where
  /-- The run begins when the request is there. -/
  begins : arrival ≤ v.start
  /-- It is a whole run, whether the client is there to see its end or not. -/
  whole : Complete (h v.number) (publish v.number) (shutdown.next v.start) v.course response
  /-- A client that is there to see it gets the results. -/
  answered : (∀ p, r.patience = some p → v.stop < arrival + p) →
    ∃ a, v.reaction = .answered v.stop a ∧ a.Carries response
  /-- Any other has gone. -/
  dropped : ∀ p, r.patience = some p → arrival + p ≤ v.stop → v.reaction = .gaveUp (arrival + p)

end Visit

section
variable {h : Nat → Harness ε} {publish : Nat → Publisher ε} {shutdown : Token} {r : Request}

/-- A client that waits for something that comes at a tick. -/
theorem waits_some (r : Request) (arrival t : Nat) (a : Answer) :
    ((∀ p, r.patience = some p → t < arrival + p) → r.waits arrival (some (t, a)) = .answered t a) ∧
      ∀ p, r.patience = some p → arrival + p ≤ t →
        r.waits arrival (some (t, a)) = .gaveUp (arrival + p) := by
  unfold Request.waits
  cases r.patience with
  | none => exact ⟨fun _ => rfl, nofun⟩
  | some q =>
    refine ⟨fun h => if_pos (h q rfl), fun p hp hle => ?_⟩
    cases hp
    exact if_neg (Nat.not_lt.mpr hle)

theorem receives_get (hget : r.method = "GET") (a : Answer) : r.receives a = a := by
  rw [Request.receives, if_neg (by rw [hget]; decide)]

/-- A request for the status leads to a whole run, which begins when it is there and the runs before it
are over, and after which the next may begin. -/
theorem handle_status (hrun : ∀ n start, ((h n).run (shutdown.next start)).ending ≠ .never)
    (hpublish : ∀ n nodes later, (publish n nodes later).ending ≠ .never) (hget : r.method = "GET")
    (hwish : r.wish = .status) (number free arrival : Nat) :
    ∃ v : Visit ε, (∃ response, v.Faithful h publish shutdown arrival r response) ∧
      v.number = number ∧ free ≤ v.start ∧
      (ofHarness h publish shutdown).handle ⟨number, some free⟩ arrival r =
        ⟨v.reaction, ⟨number + 1, some v.stop⟩, v.events⟩ := by
  obtain ⟨response, hcomplete⟩ :=
    runAndPublish_complete (hrun number (max free arrival)) (hpublish number)
  obtain ⟨t, hended⟩ := hcomplete.ended
  let v : Visit ε :=
    { number := number
      start := max free arrival
      course := (h number).runAndPublish (publish number) (shutdown.next (max free arrival))
      reaction := r.waits arrival (some (max free arrival + t, results response)) }
  have hstop : v.stop = max free arrival + t := by
    simp [v, Visit.stop, time?_of_ended hended]
  obtain ⟨hanswered, hdropped⟩ := waits_some r arrival v.stop (results response)
  refine ⟨v, ⟨response, ?_⟩, rfl, Nat.le_max_left .., ?_⟩
  · exact
      { begins := Nat.le_max_right ..
        whole := hcomplete
        answered := fun hp => ⟨_, by rw [← hanswered hp, hstop], carries_results response⟩
        dropped := fun p hp hle => by rw [← hdropped p hp hle, hstop] }
  · simp only [Server.handle, hwish, ofHarness, hended, Option.map_some, receives_get hget, hstop]
    rfl

/-! ## All requests -/

/-- The visits of requests that are given in the order of their arrival, with a lock that is free from a
tick on. -/
structure Served (h : Nat → Harness ε) (publish : Nat → Publisher ε) (shutdown : Token)
    (first free : Nat) (requests : List (Nat × Request)) (visits : List (Visit ε)) : Prop where
  /-- Each request leads to a whole run. -/
  each : List.Forall₂ (fun q v => ∃ response, v.Faithful h publish shutdown q.1 q.2 response)
    requests visits
  /-- It is a run of its own. -/
  numbered : visits.map (·.number) = List.range' first requests.length
  /-- Every run is over when a later one begins. -/
  inTurn : visits.Pairwise fun v w => v.stop ≤ w.start
  /-- What the clients see, and what is done, is what these visits say and nothing else. -/
  served : (ofHarness h publish shutdown).serve ⟨first, some free⟩ requests =
    (visits.map (·.reaction), visits.flatMap (·.events))
  /-- In whichever way the requests and their clients interleave, the lock makes the same of the runs. -/
  interleaved : ∀ runs : Nat → Course (RunEvent ε) (List Node),
    (∀ i v, visits[i]? = some v → runs i = v.course) → Site.Serialized runs visits.length ∧
      (Site.logOf runs visits.length).map Prod.snd =
        ((ofHarness h publish shutdown).serve ⟨first, some free⟩ requests).2.map Prod.snd

theorem serve_status (hrun : ∀ n start, ((h n).run (shutdown.next start)).ending ≠ .never)
    (hpublish : ∀ n nodes later, (publish n nodes later).ending ≠ .never)
    {requests : List (Nat × Request)}
    (hget : ∀ q ∈ requests, q.2.method = "GET" ∧ q.2.wish = .status) (first free : Nat) :
    ∃ visits : List (Visit ε),
      List.Forall₂ (fun q v => ∃ response, v.Faithful h publish shutdown q.1 q.2 response)
        requests visits ∧
      visits.map (·.number) = List.range' first requests.length ∧
      (∀ v ∈ visits, free ≤ v.start) ∧ (visits.Pairwise fun v w => v.stop ≤ w.start) ∧
      (ofHarness h publish shutdown).serve ⟨first, some free⟩ requests =
        (visits.map (·.reaction), visits.flatMap (·.events)) := by
  -- All that one request hands to the next is the number of its run and the tick at which that is over.
  induction requests generalizing first free with
  | nil => exact ⟨[], .nil, rfl, nofun, .nil, rfl⟩
  | cons q rest ih =>
    obtain ⟨hq, hrest⟩ := List.forall_mem_cons.mp hget
    obtain ⟨v, hv, hnumber, hfree, hhandle⟩ := handle_status hrun hpublish hq.1 hq.2 first free q.1
    obtain ⟨visits, heach, hnumbers, hlater, hturn, hserve⟩ := ih hrest (first + 1) v.stop
    have hstop : free ≤ v.stop := Nat.le_trans hfree (Nat.le_add_right ..)
    refine ⟨v :: visits, .cons hv heach, ?_, ?_, ?_, ?_⟩
    · rw [List.map_cons, hnumber, hnumbers]; rfl
    · exact List.forall_mem_cons.mpr ⟨hfree, fun w hw => Nat.le_trans hstop (hlater w hw)⟩
    · exact .cons hlater hturn
    · simp only [Server.serve, hhandle, hserve, List.map_cons, List.flatMap_cons]

/-- Each visit of a request for the status comes to an end. -/
theorem ended_of_faithful {requests : List (Nat × Request)} {visits : List (Visit ε)}
    (heach : List.Forall₂ (fun q v => ∃ response, v.Faithful h publish shutdown q.1 q.2 response)
      requests visits) : ∀ v ∈ visits, (ended v.course.ending).isSome := by
  induction heach with
  | nil => exact nofun
  | cons hv _ ih =>
    obtain ⟨response, hv⟩ := hv
    obtain ⟨t, hended⟩ := hv.whole.ended
    exact List.forall_mem_cons.mpr ⟨by rw [hended]; rfl, ih⟩

end

/-- The runs of the visits, one behind the other, do what the visits do. -/
theorem logOf_visits {visits : List (Visit ε)} {runs : Nat → Course (RunEvent ε) (List Node)}
    (hruns : ∀ i v, visits[i]? = some v → runs i = v.course) :
    (Site.logOf runs visits.length).map Prod.snd = (visits.flatMap (·.events)).map Prod.snd := by
  have hcourses : (List.range visits.length).map runs = visits.map (·.course) := by
    refine List.ext_getElem (by simp) fun i hi _ => ?_
    rw [List.length_map, List.length_range] at hi
    rw [List.getElem_map, List.getElem_map, List.getElem_range]
    exact hruns i visits[i] (List.getElem?_eq_getElem hi)
  calc (Site.logOf runs visits.length).map Prod.snd
      = ((List.range visits.length).map runs).flatMap Course.called := by
        simp [Site.logOf, List.map_flatMap, List.flatMap_map, Function.comp_def]
    _ = (visits.map (·.course)).flatMap Course.called := by rw [hcourses]
    _ = (visits.flatMap (·.events)).map Prod.snd := by
        simp [List.map_flatMap, List.flatMap_map, Visit.events, Course.laterCalls, Course.called,
          Function.comp_def]

/-- Requests for the status, however many there are at a time and whichever of their clients give up, lead
to one whole run each, one after another; the results of each are published once, and its client, if it is
still there, gets the same. A run that breaks off in the publisher keeps no other from being made. -/
theorem serve_served (h : Nat → Harness ε) (publish : Nat → Publisher ε) (shutdown : Token)
    (hrun : ∀ n start, ((h n).run (shutdown.next start)).ending ≠ .never)
    (hpublish : ∀ n nodes later, (publish n nodes later).ending ≠ .never)
    (requests : List (Nat × Request))
    (hget : ∀ q ∈ requests, q.2.method = "GET" ∧ q.2.wish = .status) (first free : Nat) :
    ∃ visits, Served h publish shutdown first free requests visits := by
  obtain ⟨visits, heach, hnumbers, -, hturn, hserve⟩ := serve_status hrun hpublish hget first free
  refine ⟨visits,
    { each := heach
      numbered := hnumbers
      inTurn := hturn
      served := hserve
      interleaved := fun runs hruns => ⟨Site.serialized fun i hi => ?_, ?_⟩ }⟩
  · rw [hruns i visits[i] (List.getElem?_eq_getElem hi)]
    exact ended_of_faithful heach _ (List.getElem_mem hi)
  · rw [hserve]
    exact logOf_visits hruns

/-- Two requests while a run takes ten seconds; the first client gives up after a second, and the
publisher panics in its run. -/
theorem serve_served_panicking :
    let p : Probe Nat := .deaf "slow" "Slow" do
      Timed.sleep 10000
      return Node.aggregate "slow" "Slow" [.pass "Step"]
    let h : Nat → Harness Nat := fun _ => ⟨[p], .standard⟩
    let publish : Nat → Publisher Nat
      | 0 => fun _ => Timed.panic (.text "no route")
      | _ + 1 => .silent
    let requests : List (Nat × Request) :=
      [(0, ⟨"GET", "/v1/status", some 1000⟩), (300, ⟨"GET", "/v1/status", none⟩)]
    (∀ n start, ((h n).run (Token.next start .never)).ending ≠ .never) ∧
      (∀ n nodes later, (publish n nodes later).ending ≠ .never) ∧
      (∀ q ∈ requests, q.2.method = "GET" ∧ q.2.wish = .status) ∧
      ∃ visits, Served h publish .never 0 0 requests visits := by
  intro p h publish requests
  have hrun : ∀ n start, ((h n).run (Token.next start .never)).ending ≠ .never :=
    fun _ _ he => nomatch he
  have hpublish : ∀ n nodes later, (publish n nodes later).ending ≠ .never := by
    intro n nodes later he
    cases n with
    | zero => cases he
    | succ n => cases he
  have hget : ∀ q ∈ requests, q.2.method = "GET" ∧ q.2.wish = .status := by decide +kernel
  exact ⟨hrun, hpublish, hget, serve_served h publish .never hrun hpublish requests hget 0 0⟩

end Checkup.StatusServer
