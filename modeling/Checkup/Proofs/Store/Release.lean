import Checkup.Cache
import Checkup.Database
import Checkup.ObjectStore
import Checkup.Proofs.Script.Stages

/-!
# What the checks of stores leave behind

The checks of a database, of a cache and of an object store take their steps up to the first that fails. A
connection to a database is closed in any case once it is open. What was written to a cache or to an object
store is deleted in any case once it is written, and only a deletion is taken behind a reading that failed.

**Assumptions.** Every call comes back with a value or an error, after any time; a connection attempt may
also hang, as long as the clock can show the limit on it (`Service.Settles`). The token may fire at any
time. An object is text; one that is none differs from all that is written, as any other text does.

Results:
* `Database.script_takes`: the stages of a check of a database. `Cache.script_makes` and
  `ObjectStore.script_makes`: the other two are round trips.
* `Database.probe_released`, `Cache.probe_released` and `ObjectStore.probe_released`: whole checks, each as
  a structure `Released`.
* `stores_release`: the three together.
-/
namespace Checkup

/-! ## Databases -/

namespace Database

/-- Every call comes back with a value or an error. The connection attempt may also hang, as long as the
clock can show the limit on it. -/
structure Service.Settles (db : Service) (limit : Span) : Prop where
  connect : db.connect.Returns ∨ db.connect = .hangs ∧ fitsClock 0 limit = true
  execute : ∀ n, (db.execute n).Returns
  count : db.count.Returns
  close : db.close.Returns

namespace Service

/-- The reply to the connection attempt, which has a limit. -/
def connected (db : Service) (limit : Span) : Reply Unit :=
  db.connect.within limit (·.getD (.error connectTimedOut))

def opening (db : Service) (d : Dialect) (limit : Span) : Stage Call :=
  ⟨"Open connection", [.connect d], (db.connected limit).void⟩

def statements (db : Service) (d : Dialect) : List (Stage Call) :=
  [⟨"Create table", [.execute d.createTable []], (db.execute 0).void⟩,
    ⟨"Insert record", [.execute d.insert [answer]], (db.execute 1).void⟩,
    ⟨"Select records", [.count d.selectCount [answer]], (db.count.judged atLeastOne).void⟩,
    ⟨"Delete record", [.execute d.delete [answer]], (db.execute 2).void⟩]

end Service

section
variable {db : Service} {d : Dialect} {limit : Span}

theorem Service.Settles.connected (hdb : db.Settles limit) : (db.connected limit).Returns :=
  Reply.within_returns hdb.connect

theorem Service.Settles.stages (hdb : db.Settles limit) :
    ∀ s ∈ db.opening d limit :: db.statements d, s.reply.Returns := by
  simp only [Service.statements, List.forall_mem_cons]
  exact ⟨hdb.connected.void, (hdb.execute 0).void, (hdb.execute 1).void, (hdb.count.judged _).void,
    (hdb.execute 2).void, List.forall_mem_nil _⟩

theorem exercise_takes (hdb : db.Settles limit) : (exercise d db).Takes (db.statements d) [] [] := by
  unfold exercise
  rw [Timed.judged_call]
  refine .step (hdb.execute 0) fun _ _ _ => ?_
  refine .step (hdb.execute 1) fun _ _ _ => ?_
  refine .step (hdb.count.judged _) fun _ _ _ => ?_
  exact .step (hdb.execute 2) fun _ _ _ => Script.takes_pure _

theorem script_takes (hdb : db.Settles limit) : (script d limit db).Takes [db.opening d limit]
    (Stage.called (db.statements d) [] ++ [.close]) (Stage.leaves (db.statements d) []) := by
  unfold script
  rw [Timed.connecting_call]
  refine .step hdb.connected fun _ _ _ => ?_
  have hclose : ∀ v : Option Unit, (do
      let _ ← Script.act (Timed.call Call.close db.close) : Script Call Unit).Takes [] [.close] [] :=
    fun _ => .act hdb.close fun _ => Script.takes_pure _
  have hrest := Script.Takes.attempt (exercise_takes (d := d) hdb) hclose
  rw [Stage.leaves_nil, List.append_nil] at hrest
  exact hrest

theorem probe_ensures (hdb : db.Settles limit) (key name : String) (d : Dialect) :
    (probe key name d limit db).run.Ensures fun es node =>
      es = Stage.called [db.opening d limit] (Stage.called (db.statements d) [] ++ [.close]) ∧
        node = Node.aggregate key name (Stage.leaves (db.opening d limit :: db.statements d) []) := by
  have hleaves := Stage.leaves_append [db.opening d limit] (db.statements d) []
  rw [List.singleton_append] at hleaves
  rw [hleaves]
  exact (script_takes hdb).node key name

theorem called_opening (d : Dialect) (calls : List Call) :
    Stage.called [db.opening d limit] calls =
      .connect d :: if (db.connected limit).succeeds then calls else [] := by
  simp only [Stage.called, Service.opening, Reply.void_succeeds, List.singleton_append]

theorem close_notMem_statements (d : Dialect) : Call.close ∉ Stage.called (db.statements d) [] := by
  intro h
  have hmem := Stage.mem_called h
  simp [Service.statements] at hmem

theorem opened_iff (hdb : db.Settles limit) (d : Dialect) :
    .pass "Open connection" ∈ Stage.leaves (db.opening d limit :: db.statements d) [] ↔
      (db.connected limit).succeeds = true := by
  obtain ⟨t, result, h⟩ := hdb.connected
  unfold Service.opening
  rw [h]
  cases result with
  | ok v => simp [Reply.void, Reply.judged, Except.map, Stage.leaves_ok, Reply.succeeds]
  | error e =>
    simp [Reply.void, Reply.judged, Except.map, Stage.leaves_error, Reply.succeeds, Node.pass_ne_ofFault]

theorem selected_succeeds : (db.count.judged atLeastOne).void.succeeds = true ↔
    ∃ t rows, db.count = .answers t (.ok rows) ∧ 1 ≤ rows := by
  rw [Reply.void_succeeds]
  refine Reply.judged_succeeds fun result => ?_
  cases result with
  | ok rows =>
    by_cases hrows : rows < 1
    · have hnone : ¬ 1 ≤ rows := by omega
      simp [atLeastOne, hrows, hnone]
    · have hsome : 1 ≤ rows := by omega
      simp [atLeastOne, hrows, hsome]
  | error e => simp [atLeastOne]

end

/-- What a check of a database leaves, with these leaves in its node. -/
structure Released (key name : String) (d : Dialect) (limit : Span) (db : Service) (tok : Token)
    (leaves : List Node) : Prop where
  ends : ∃ t tok', ((probe key name d limit db).run tok).ending =
    .returned t tok' (Node.aggregate key name leaves)
  /-- The steps are taken in order, up to the first that fails. -/
  steps : leaves = Stage.leaves (db.opening d limit :: db.statements d) []
  cut : Cut ["Open connection", "Create table", "Insert record", "Select records", "Delete record"] leaves
  /-- The connection is opened if it comes within the limit. -/
  opened : .pass "Open connection" ∈ leaves ↔
    ∃ t, db.connect = .answers t (.ok ()) ∧ ∀ l, limit.expiry? 0 = some l → t ≤ l
  /-- Then it is closed once, behind everything else. -/
  closed : .pass "Open connection" ∈ leaves →
    ∃ work, ((probe key name d limit db).run tok).called = work ++ [.close] ∧ Call.close ∉ work
  unopened : .pass "Open connection" ∉ leaves → .close ∉ ((probe key name d limit db).run tok).called
  selected : ∀ leaf ∈ leaves, leaf.name = "Select records" →
    (leaf.passed = true ↔ ∃ t rows, db.count = .answers t (.ok rows) ∧ 1 ≤ rows)
  late : db.connect.Late limit → leaves = [.ofFault "Open connection" connectTimedOut]
  /-- What the closing comes to makes no difference to the node. -/
  unaffected : ∀ close : Reply Unit, close.Returns → ∃ t tok',
    ((probe key name d limit { db with close := close }).run tok).ending =
      .returned t tok' (Node.aggregate key name leaves)

section
variable {db : Service} {limit : Span}

/-- Whatever the replies, what a check of a database leaves. -/
theorem probe_released (hdb : db.Settles limit) (key name : String) (d : Dialect) (tok : Token) :
    ∃ leaves, Released key name d limit db tok leaves := by
  obtain ⟨t, tok', node, hending, hcalled, rfl⟩ := probe_ensures hdb key name d tok
  rw [called_opening] at hcalled
  have hopened := opened_iff hdb d
  refine ⟨Stage.leaves (db.opening d limit :: db.statements d) [], ?_⟩
  exact
    { ends := ⟨t, tok', hending⟩
      steps := rfl
      cut := Stage.leaves_cut hdb.stages
      opened := hopened.trans Reply.within_connects
      closed := by
        intro h
        rw [if_pos (hopened.mp h)] at hcalled
        refine ⟨.connect d :: Stage.called (db.statements d) [], hcalled, ?_⟩
        simp [close_notMem_statements]
      unopened := by
        intro h
        rw [if_neg fun hs => h (hopened.mpr hs)] at hcalled
        simp [hcalled]
      selected := by
        intro leaf hleaf hname
        obtain ⟨s, hs, hlabel, hpassed⟩ := Stage.mem_leaves hleaf
        rw [hname] at hlabel
        simp only [Service.opening, Service.statements, List.mem_cons] at hs
        -- The labels tell the step of the leaf from the others.
        rcases hs with rfl | rfl | rfl | rfl | rfl | hs
        · simp at hlabel
        · simp at hlabel
        · simp at hlabel
        · rw [hpassed]
          exact selected_succeeds
        · simp at hlabel
        · cases hs
      late := by
        intro h
        unfold Service.opening Service.connected
        rw [Reply.within_late h]
        exact Stage.leaves_error
      unaffected := by
        intro close hclose
        have hdb' : ({ db with close := close } : Service).Settles limit := { hdb with close := hclose }
        obtain ⟨t, tok', node, hending, -, rfl⟩ := probe_ensures hdb' key name d tok
        exact ⟨t, tok', hending⟩ }

end
end Database

/-! ## Caches -/

namespace Cache

/-- Every call comes back with a value or an error, but the connection attempt may also hang. -/
structure Service.Settles (cache : Service) : Prop where
  connect : cache.connect.Returns ∨ cache.connect = .hangs
  ping : cache.ping.Returns
  set : cache.set.Returns
  get : cache.get.Returns
  delete : cache.delete.Returns

namespace Service

variable (cache : Service) (s : Settings) (key value : String)

/-- The reply to the connection attempt, which has a limit. -/
def connected : Reply Unit := cache.connect.within connectTimeout (·.getD (.error connectTimedOut))

/-- The steps that open a connection and see that it serves, and those on the key. -/
def trip : RoundTrip Call where
  opening :=
    [⟨"Open connection", [.connect s.host s.port], cache.connected.void⟩,
      ⟨"Ping", [.ping], cache.ping.void⟩, ⟨"Pong", [], (cache.ping.judged (·.bind checkPong)).void⟩]
  write := ⟨"Write key", [.set key value expiry], cache.set.void⟩
  read := ⟨"Read key", [.get key], (cache.get.judged (checkValue key value)).void⟩
  delete := ⟨"Delete key", [.delete key], cache.delete.void⟩

end Service

section
variable {cache : Service}

theorem fits_connectTimeout : fitsClock 0 connectTimeout = true := by decide +kernel

theorem Service.Settles.connected (hcache : cache.Settles) : cache.connected.Returns :=
  Reply.within_returns (hcache.connect.imp_right fun h => ⟨h, fits_connectTimeout⟩)

theorem connected_succeeds :
    cache.connected.succeeds = true ↔ ∃ t, cache.connect = .answers t (.ok ()) ∧ t ≤ connectTimeout.ticks := by
  rw [Service.connected, Reply.within_connects, Span.expiry?, if_pos fits_connectTimeout]
  simp only [Option.some.injEq, forall_eq']

theorem pong_succeeds : (cache.ping.judged (·.bind checkPong)).succeeds = true ↔
    ∃ t, cache.ping = .answers t (.ok "PONG") := by
  have hpong : ∀ result : Except Fault String,
      (∃ u, result.bind checkPong = .ok u) ↔ ∃ v, result = .ok v ∧ v = "PONG" := by
    intro result
    cases result with
    | ok v => by_cases hv : v = "PONG" <;> simp [Except.bind, checkPong, hv]
    | error e => simp [Except.bind]
  rw [Reply.judged_succeeds hpong]
  simp only [exists_eq_right]

theorem Service.Settles.trip (hcache : cache.Settles) (s : Settings) (key value : String) :
    (cache.trip s key value).Settles where
  stages := by
    simp only [RoundTrip.stages, Service.trip, List.cons_append, List.nil_append, List.forall_mem_cons]
    exact ⟨hcache.connected.void, hcache.ping.void, (hcache.ping.judged _).void, hcache.set.void,
      List.forall_mem_nil _⟩
  read := (hcache.get.judged _).void
  delete := hcache.delete.void
  label := by simp [Service.trip]

theorem script_makes (hcache : cache.Settles) (s : Settings) (key value : String) :
    (script s key value cache).Makes (cache.trip s key value) := by
  unfold script
  rw [Timed.connecting_call, Timed.judged_call]
  refine .step hcache.connected fun _ _ _ => ?_
  refine .step hcache.ping fun t reply hping => ?_
  have hpong : (cache.ping.judged (·.bind checkPong)).void =
      .answers t ((checkPong reply).map fun _ => ()) := by
    rw [hping]
    rfl
  refine .check hpong fun _ _ => ?_
  refine .step hcache.set fun _ _ _ => ?_
  refine Script.takes_behind (Script.takes_step (hcache.get.judged _)) fun _ => ?_
  exact .step hcache.delete fun _ _ _ => Script.takes_pure _

theorem read_succeeds (s : Settings) (key value : String) :
    (cache.trip s key value).read.reply.succeeds = true ↔
      ∃ t, cache.get = .answers t (.ok (some value)) := by
  have hvalue : ∀ result, (∃ u, checkValue key value result = .ok u) ↔
      ∃ v, result = .ok v ∧ v = some value := by
    intro result
    match result with
    | .ok (some v) => by_cases hv : v = value <;> simp [checkValue, hv]
    | .ok none => simp [checkValue]
    | .error e => simp [checkValue]
  unfold Service.trip
  rw [Reply.void_succeeds, Reply.judged_succeeds hvalue]
  simp only [exists_eq_right]

theorem delete_succeeds (s : Settings) (key value : String) :
    (cache.trip s key value).delete.reply.succeeds = true ↔ ∃ t n, cache.delete = .answers t (.ok n) := by
  unfold Service.trip
  rw [Reply.void_succeeds, Reply.succeeds_iff]

/-- Only the last step deletes anything. -/
theorem delete_notMem (s : Settings) (key value k : String) : Call.delete k ∉
    (cache.trip s key value).stages.flatMap Stage.calls ++ (cache.trip s key value).read.calls := by
  simp [RoundTrip.stages, Service.trip]

theorem written_iff (hcache : cache.Settles) (s : Settings) (key value : String) :
    .pass "Write key" ∈ (cache.trip s key value).front ↔
      (∃ t, cache.connect = .answers t (.ok ()) ∧ t ≤ connectTimeout.ticks) ∧
        (∃ t, cache.ping = .answers t (.ok "PONG")) ∧ ∃ t, cache.set = .answers t (.ok ()) := by
  have hwritten := (hcache.trip s key value).written_iff
  have hping : cache.ping.succeeds = true ∧ (∃ t, cache.ping = .answers t (.ok "PONG")) ↔
      ∃ t, cache.ping = .answers t (.ok "PONG") := by
    refine and_iff_right_of_imp fun h => ?_
    obtain ⟨t, ht⟩ := h
    exact Reply.succeeds_iff.mpr ⟨t, _, ht⟩
  refine hwritten.trans ?_
  simp only [Stage.passed, RoundTrip.stages, Service.trip, List.cons_append, List.nil_append, List.all_cons,
    List.all_nil, Bool.and_true, Bool.and_eq_true, Reply.void_succeeds]
  rw [connected_succeeds, pong_succeeds, ← and_assoc (a := _ = true), hping, Reply.unit_succeeds]

theorem front_late (h : cache.connect.Late connectTimeout) (s : Settings) (key value : String) :
    (cache.trip s key value).front = [.ofFault "Open connection" connectTimedOut] := by
  unfold RoundTrip.front RoundTrip.stages Service.trip Service.connected
  rw [Reply.within_late h]
  exact Stage.leaves_error

end

/-- What a check of a cache leaves, with these leaves in its node up to the writing and behind it. -/
structure Released (key name : String) (s : Settings) (identifier timestamp : String) (cache : Service)
    (tok : Token) (front back : List Node) : Prop where
  ends : ∃ t tok', ((probe key name s identifier timestamp cache).run tok).ending =
    .returned t tok' (Node.aggregate key name (front ++ back))
  /-- The steps up to the writing are taken in order, up to the first that fails. -/
  steps : front = (cache.trip s (testKey identifier) timestamp).front
  /-- The key is written if the connection comes within the limit and serves. -/
  written : .pass "Write key" ∈ front ↔
    (∃ t, cache.connect = .answers t (.ok ()) ∧ t ≤ connectTimeout.ticks) ∧
      (∃ t, cache.ping = .answers t (.ok "PONG")) ∧ ∃ t, cache.set = .answers t (.ok ())
  /-- Reading passes on the value that was written, and deleting on any reply that is no error. -/
  leaves : RoundTrip.Leaves ["Open connection", "Ping", "Pong"] "Write key" "Read key" "Delete key"
    (∃ t, cache.get = .answers t (.ok (some timestamp))) (∃ t n, cache.delete = .answers t (.ok n))
    front back
  called : ((probe key name s identifier timestamp cache).run tok).called <+:
    [.connect s.host s.port, .ping, .set (testKey identifier) timestamp expiry,
      .get (testKey identifier), .delete (testKey identifier)]
  /-- The key that was written is deleted once, and no other. -/
  deleted : .pass "Write key" ∈ front → ∀ k,
    ((probe key name s identifier timestamp cache).run tok).called.count (.delete k) =
      if k = testKey identifier then 1 else 0
  kept : .pass "Write key" ∉ front → ∀ k,
    .delete k ∉ ((probe key name s identifier timestamp cache).run tok).called
  late : cache.connect.Late connectTimeout →
    front = [.ofFault "Open connection" connectTimedOut] ∧ back = []

section
variable {cache : Service}

/-- Whatever the replies, what a check of a cache leaves. -/
theorem probe_released (hcache : cache.Settles) (key name : String) (s : Settings)
    (identifier timestamp : String) (tok : Token) :
    ∃ front back, Released key name s identifier timestamp cache tok front back := by
  have htrip := hcache.trip s (testKey identifier) timestamp
  obtain ⟨t, tok', node, hending, hcalled, rfl⟩ :=
    (script_makes hcache s (testKey identifier) timestamp).node key name tok
  have hleaves := htrip.leaves
  refine ⟨(cache.trip s (testKey identifier) timestamp).front,
    (cache.trip s (testKey identifier) timestamp).back, ?_⟩
  exact
    { ends := ⟨t, tok', hending⟩
      steps := rfl
      written := written_iff hcache s (testKey identifier) timestamp
      leaves := by
        rw [read_succeeds, delete_succeeds] at hleaves
        exact hleaves
      called := by
        unfold probe
        rw [hcalled]
        exact RoundTrip.calls_prefix _
      deleted := by
        intro h k
        unfold probe
        rw [hcalled, htrip.count_written (delete_notMem _ _ _ k) h]
        simp [Service.trip, List.count_singleton, eq_comm (a := k)]
      kept := by
        intro h k
        unfold probe
        rw [hcalled]
        exact htrip.notMem_unwritten (delete_notMem _ _ _ k) h
      late := by
        intro h
        have hfront := front_late h s (testKey identifier) timestamp
        refine ⟨hfront, hleaves.unwritten ?_⟩
        rw [hfront, List.mem_singleton]
        exact Node.pass_ne_ofFault _ _ _ }

end
end Cache

/-! ## Object stores -/

namespace ObjectStore

/-- Every call comes back with a value or an error. -/
structure Service.Settles (store : Service) : Prop where
  put : store.put.Returns
  get : store.get.Returns
  delete : store.delete.Returns

def Service.trip (store : Service) (body : String) : RoundTrip Call where
  opening := []
  write := ⟨"Upload object", [.put objectKey body], store.put.void⟩
  read := ⟨"Download object", [.get objectKey], (store.get.judged (checkBody body)).void⟩
  delete := ⟨"Delete object", [.delete objectKey], store.delete.void⟩

section
variable {store : Service}

theorem Service.Settles.trip (hstore : store.Settles) (body : String) : (store.trip body).Settles where
  stages := by
    simp only [RoundTrip.stages, Service.trip, List.nil_append, List.forall_mem_singleton]
    exact hstore.put.void
  read := (hstore.get.judged _).void
  delete := hstore.delete.void
  label := List.forall_mem_nil _

theorem script_makes (hstore : store.Settles) (body : String) :
    (script body store).Makes (store.trip body) := by
  unfold script
  rw [Timed.judged_call]
  refine .step hstore.put fun _ _ _ => ?_
  refine Script.takes_behind (Script.takes_step (hstore.get.judged _)) fun _ => ?_
  exact Script.takes_step hstore.delete

theorem read_succeeds (body : String) :
    (store.trip body).read.reply.succeeds = true ↔ ∃ t, store.get = .answers t (.ok body) := by
  have hbody : ∀ result, (∃ u, checkBody body result = .ok u) ↔ ∃ b, result = .ok b ∧ b = body := by
    intro result
    cases result with
    | ok b => by_cases hb : b = body <;> simp [checkBody, hb]
    | error e => simp [checkBody]
  unfold Service.trip
  rw [Reply.void_succeeds, Reply.judged_succeeds hbody]
  simp only [exists_eq_right]

theorem delete_succeeds (body : String) :
    (store.trip body).delete.reply.succeeds = true ↔ ∃ t, store.delete = .answers t (.ok ()) := by
  unfold Service.trip
  rw [Reply.void_succeeds, Reply.unit_succeeds]

theorem written_iff (hstore : store.Settles) (body : String) :
    .pass "Upload object" ∈ (store.trip body).front ↔ ∃ t, store.put = .answers t (.ok ()) := by
  have hwritten := (hstore.trip body).written_iff
  refine hwritten.trans ?_
  simp [Stage.passed, RoundTrip.stages, Service.trip, Reply.void_succeeds, Reply.unit_succeeds]

/-- Only the last step deletes anything. -/
theorem delete_notMem (body k : String) :
    Call.delete k ∉ (store.trip body).stages.flatMap Stage.calls ++ (store.trip body).read.calls := by
  simp [RoundTrip.stages, Service.trip]

end

/-- What a check of an object store leaves, with these leaves in its node up to the upload and behind it. -/
structure Released (date : String) (store : Service) (tok : Token) (front back : List Node) : Prop where
  ends : ∃ t tok', ((probe date store).run tok).ending =
    .returned t tok' (Node.aggregate key name (front ++ back))
  steps : front = (store.trip (bodyAt date)).front
  written : .pass "Upload object" ∈ front ↔ ∃ t, store.put = .answers t (.ok ())
  /-- The download passes on the text that was uploaded. -/
  leaves : RoundTrip.Leaves [] "Upload object" "Download object" "Delete object"
    (∃ t, store.get = .answers t (.ok (bodyAt date))) (∃ t, store.delete = .answers t (.ok ())) front back
  called : ((probe date store).run tok).called <+:
    [.put objectKey (bodyAt date), .get objectKey, .delete objectKey]
  /-- The object that was uploaded is deleted once, and no other. -/
  deleted : .pass "Upload object" ∈ front → ∀ k,
    ((probe date store).run tok).called.count (.delete k) = if k = objectKey then 1 else 0
  kept : .pass "Upload object" ∉ front → ∀ k, .delete k ∉ ((probe date store).run tok).called

section
variable {store : Service}

/-- Whatever the replies, what a check of an object store leaves. -/
theorem probe_released (hstore : store.Settles) (date : String) (tok : Token) :
    ∃ front back, Released date store tok front back := by
  have htrip := hstore.trip (bodyAt date)
  obtain ⟨t, tok', node, hending, hcalled, rfl⟩ := (script_makes hstore (bodyAt date)).node key name tok
  have hleaves := htrip.leaves
  refine ⟨(store.trip (bodyAt date)).front, (store.trip (bodyAt date)).back, ?_⟩
  exact
    { ends := ⟨t, tok', hending⟩
      steps := rfl
      written := written_iff hstore (bodyAt date)
      leaves := by
        rw [read_succeeds, delete_succeeds] at hleaves
        exact hleaves
      called := by
        unfold probe
        rw [hcalled]
        exact RoundTrip.calls_prefix _
      deleted := by
        intro h k
        unfold probe
        rw [hcalled, htrip.count_written (delete_notMem _ k) h]
        simp [Service.trip, List.count_singleton, eq_comm (a := k)]
      kept := by
        intro h k
        unfold probe
        rw [hcalled]
        exact htrip.notMem_unwritten (delete_notMem _ k) h }

end
end ObjectStore

/-! ## All of them -/

section
variable {limit : Span} {db : Database.Service} {cache : Cache.Service} {store : ObjectStore.Service}

/-- The checks of stores stop at the first failure and leave nothing open and nothing written. -/
theorem stores_release (hdb : db.Settles limit) (hcache : cache.Settles) (hstore : store.Settles)
    (key name : String) (d : Database.Dialect) (key' name' : String) (s : Cache.Settings)
    (identifier timestamp date : String) (tok : Token) :
    (∃ leaves, Database.Released key name d limit db tok leaves) ∧
      (∃ front back, Cache.Released key' name' s identifier timestamp cache tok front back) ∧
      ∃ front back, ObjectStore.Released date store tok front back :=
  ⟨Database.probe_released hdb key name d tok,
    Cache.probe_released hcache key' name' s identifier timestamp tok,
    ObjectStore.probe_released hstore date tok⟩

end

/-- A connection attempt that hangs, a key with another value that cannot be deleted, and an object that
cannot be read. The token fires meanwhile. -/
theorem stores_release_troubled :
    let db : Database.Service :=
      { connect := .hangs
        execute := fun _ => .answers 1 (.ok 1)
        count := .answers 1 (.ok 1)
        close := .answers 1 (.error (.message "broken pipe")) }
    let cache : Cache.Service :=
      { connect := .answers 4 (.ok ())
        ping := .answers 1 (.ok "PONG")
        set := .answers 1 (.ok ())
        get := .answers 1 (.ok (some "0"))
        delete := .answers 1 (.error (.message "read only")) }
    let store : ObjectStore.Service :=
      { put := .answers 30 (.ok ())
        get := .answers 20 (.error (.message "no such key"))
        delete := .answers 10 (.ok ()) }
    (∃ leaves, Database.Released "mysql" "MySQL" .mySql Database.connectTimeout db (.due 6) leaves) ∧
      (∃ front back,
        Cache.Released "redis" "Redis" ⟨"localhost", 6379, none⟩ "id" "1700000000" cache (.due 6) front back) ∧
      ∃ front back, ObjectStore.Released "2024-01-01T00:00:00+00:00" store (.due 6) front back := by
  intro db cache store
  have hfits : fitsClock 0 Database.connectTimeout = true := by decide +kernel
  have hdb : db.Settles Database.connectTimeout :=
    { connect := .inr ⟨rfl, hfits⟩
      execute := fun _ => ⟨1, .ok 1, rfl⟩
      count := ⟨1, .ok 1, rfl⟩
      close := ⟨1, .error (.message "broken pipe"), rfl⟩ }
  have hcache : cache.Settles :=
    { connect := .inl ⟨4, .ok (), rfl⟩
      ping := ⟨1, .ok "PONG", rfl⟩
      set := ⟨1, .ok (), rfl⟩
      get := ⟨1, .ok (some "0"), rfl⟩
      delete := ⟨1, .error (.message "read only"), rfl⟩ }
  have hstore : store.Settles :=
    { put := ⟨30, .ok (), rfl⟩
      get := ⟨20, .error (.message "no such key"), rfl⟩
      delete := ⟨10, .ok (), rfl⟩ }
  exact stores_release hdb hcache hstore "mysql" "MySQL" .mySql "redis" "Redis" ⟨"localhost", 6379, none⟩
    "id" "1700000000" "2024-01-01T00:00:00+00:00" (.due 6)

end Checkup
