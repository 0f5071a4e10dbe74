import Checkup.Proofs.Broker.Channel
import Checkup.Proofs.Script.Contract

/-!
# What a round trip reports

The leaves of a check of a broker are those of the publisher's steps and, if these have all passed, those
of the listener's. Which replies they come from is said by `Service.publishing` and `Service.listening`.

**Assumptions.** Every call comes back with a value or an error, after any time; the wait for the message
may also not end by itself (`Service.Settles`). The token may fire at any time.

Results:
* `listen_ensures`: the report of the listener.
* `script_ensures`: the leaves of the whole check, and its calls up to the closing ones.
* `probe_accounted`: all of it, as the structure `Accounted`.
-/
namespace Checkup.Broker

namespace Service

/-- Every call comes back with a value or an error. The wait for the message may also not end by itself,
as long as the clock can show the limit on it. -/
structure Settles (b : Service) (limit : Span) : Prop where
  connect : b.connect.Returns
  openChannel : b.openChannel.Returns
  declareQueue : b.declareQueue.Returns
  publish : b.publish.Returns
  closeChannel : b.closeChannel.Returns
  disconnect : b.disconnect.Returns
  listenerOpen : b.listenerOpen.Returns
  consume : b.consume.Returns
  next : ∀ t, (b.next t).Returns ∨ b.next t = .hangs ∧ fitsClock 0 limit = true
  listenerClose : b.listenerClose.Returns

/-- The reply to the attempt to connect, which has a limit. -/
def connected (b : Service) : Reply Unit :=
  b.connect.within connectTimeout (·.getD (.error connectTimedOut))

/-- The reply to the wait for the message, and what is said of the message. -/
def checked (b : Service) (limit : Span) (body : String) : Reply Unit :=
  (b.next (askedAt b)).within limit (checkMessage limit body)

def publishing (b : Service) : List (String × Reply Unit) :=
  [("Open connection", b.connected), ("Create publishing channel", b.openChannel),
    ("Declare queue", b.declareQueue), ("Publish message", b.publish)]

def listening (b : Service) (limit : Span) (body : String) : List (String × Reply Unit) :=
  [("Create listening channel", b.listenerOpen), ("Consume message", b.consume),
    ("Check message", b.checked limit body)]

/-- A message arrives within the limit, and it is the one that was sent. -/
def Delivers (b : Service) (limit : Span) (body : String) : Prop :=
  ∃ d, b.next (askedAt b) = .answers d (.ok (some (Text.Utf8.encode body.toList))) ∧
    ∀ l, limit.expiry? 0 = some l → d ≤ l

/-- The calls that close what was opened, in their order. -/
def closings (b : Service) : List PublisherCall :=
  (if b.connected.succeeds && b.openChannel.succeeds then [.closeChannel] else []) ++
    if b.connected.succeeds then [.disconnect] else []

end Service

/-- Whether a call closes the channel of the publisher or the connection. -/
def Call.closes : Call → Bool
  | .publisher .closeChannel | .publisher .disconnect => true
  | _ => false

variable {b : Service} {limit : Span} {body : String}

theorem Service.Settles.connected (hb : b.Settles limit) : b.connected.Returns :=
  Reply.within_returns (.inl hb.connect)

theorem Service.Settles.checked (hb : b.Settles limit) : (b.checked limit body).Returns :=
  Reply.within_returns (hb.next _)

theorem checkMessage_ok {result : Except Fault (Option (List UInt8))} :
    (∃ v, checkMessage limit body (some result) = .ok v) ↔
      result = .ok (some (Text.Utf8.encode body.toList)) := by
  match result with
  | .error e => simp [checkMessage]
  | .ok none => simp [checkMessage]
  | .ok (some bytes) => by_cases h : bytes = Text.Utf8.encode body.toList <;> simp [checkMessage, h]

theorem checked_succeeds : (b.checked limit body).succeeds = true ↔ b.Delivers limit body := by
  rw [Service.checked, Reply.within_succeeds rfl]
  simp only [checkMessage_ok]
  exact
    ⟨fun ⟨d, _, hr, hd, hv⟩ => ⟨d, hv ▸ hr, hd⟩, fun ⟨d, hr, hd⟩ => ⟨d, _, hr, hd, rfl⟩⟩

/-! ## The listener -/

theorem reported_ensures {label : String} {c : ListenerCall} {α : Type} {r : Reply α} (hr : r.Returns) :
    (reported label (Timed.call (.call c) r)).run.Ensures fun es v =>
      ∃ d result, r = .answers d result ∧ v = result.toOption ∧
        es = [.call c, .report (.ofOutcome label result)] := by
  obtain ⟨d, result, rfl⟩ := hr
  refine Timed.Ensures.bind Timed.ensures_call fun es r h => ?_
  obtain ⟨rfl, rfl⟩ := h
  intro tok
  rw [StepLog.settle_eq]
  exact ⟨_, _, _, rfl, d, r, rfl, rfl, rfl⟩

theorem check_ensures (hb : b.Settles limit) :
    (do
      reported "Consume message" (Timed.call (.call (.consume queueName)) b.consume)
      reported "Check message" (checkMessage limit body <$>
        Timed.within limit (Timed.call (.call .next) (b.next (askedAt b)))) :
      OptionT (Timed ListenerEvent) Unit).run.Ensures fun es _ =>
        leavesIn es = trail [("Consume message", b.consume), ("Check message", b.checked limit body)] := by
  refine Timed.Ensures.bind (reported_ensures hb.consume) fun es v h => ?_
  obtain ⟨d, result, hr, rfl, rfl⟩ := h
  rw [hr]
  cases result with
  | error e => exact Timed.ensures_pure rfl
  | ok u =>
    rw [Timed.within_call]
    refine (reported_ensures hb.checked).mono fun es v h => ?_
    obtain ⟨d', result, hr', rfl, rfl⟩ := h
    rw [Service.checked] at *
    rw [hr']
    cases result <;> rfl

theorem listen_ensures (hb : b.Settles limit) (body : String) :
    (listen b limit body).Ensures fun es _ => leavesIn es = trail (b.listening limit body) := by
  refine Timed.Ensures.bind (reported_ensures hb.listenerOpen) fun es v h => ?_
  obtain ⟨d, result, hr, rfl, rfl⟩ := h
  rw [Service.listening, hr]
  cases result with
  | error e => exact Timed.ensures_pure rfl
  | ok u =>
    refine Timed.Ensures.bind (check_ensures hb) fun es _ h => ?_
    obtain ⟨d', result, hr'⟩ := hb.listenerClose
    refine Timed.Ensures.bind (hr' ▸ Timed.ensures_call) fun es' _ h' => Timed.ensures_pure ?_
    rw [h'.1, trail, ← h]
    simp [Node.ofOutcome]

def report (b : Service) (limit : Span) (body : String) : List Node :=
  reports (listen b limit body .never).calls

theorem report_eq (hb : b.Settles limit) : report b limit body = trail (b.listening limit body) := by
  obtain ⟨t, tok', v, -, h⟩ := listen_ensures hb body .never
  rw [report, reports_eq]
  exact h

/-! ## The publisher -/

theorem listenerCalls_quiet (calls : List (Nat × ListenerEvent)) :
    ∀ c ∈ (listenerCalls calls).map Prod.snd, c.closes = false := by
  simp only [listenerCalls, List.mem_map, List.mem_filterMap]
  rintro c ⟨timed, ⟨⟨t, event⟩, -, h⟩, rfl⟩
  cases event with
  | call c => cases h; rfl
  | report leaf => cases h

/-- A message that cannot be published leaves its leaf alone. -/
theorem exchange_refused {d : Nat} {e : Fault} (h : b.publish = .answers d (.error e)) (log : StepLog)
    (tok : Token) :
    (exchange b limit body).run log tok =
      ⟨(0, .publisher (.publish queueName body)) ::
          listenerCalls ((listen b limit body .never).calls.filter (·.1 < d)),
        .returned d (tok.after d) (none, log.record (.ofFault "Publish message" e))⟩ := by
  simp [exchange, OptionT.run, OptionT.mk, call, Timed.call, Timed.await, h]

/-- A message that is published leaves its leaf, and the report of the listener behind it. -/
theorem exchange_published {d t : Nat} {tok' : Token} {v : Unit} (h : b.publish = .answers d (.ok ()))
    (hlisten : (listen b limit body .never).ending = .returned t tok' v) (log : StepLog) (tok : Token) :
    (exchange b limit body).run log tok =
      ⟨(0, .publisher (.publish queueName body)) :: listenerCalls (listen b limit body .never).calls,
        .returned (max d t) (tok.after (max d t))
          (some (), ⟨log.leaves ++ [.pass "Publish message"] ++ report b limit body⟩)⟩ := by
  simp [exchange, OptionT.run, OptionT.mk, call, Timed.call, Timed.await, h, collect, hlisten,
    StepLog.settle, StepLog.record, report]

theorem exchange_ensures (hb : b.Settles limit) (log : StepLog) :
    (exchange b limit body).Ensures log fun es _ log' => (∀ c ∈ es, c.closes = false) ∧
      log'.leaves = log.leaves ++ trail (("Publish message", b.publish) :: b.listening limit body) := by
  intro tok
  obtain ⟨d, result, h⟩ := hb.publish
  -- The listener is at work in either case, but only a publication that succeeds waits for it.
  cases result with
  | error e =>
    rw [exchange_refused h log tok, h]
    refine ⟨_, _, _, rfl, ?_, rfl⟩
    exact List.forall_mem_cons.mpr ⟨rfl, listenerCalls_quiet _⟩
  | ok u =>
    obtain ⟨t, tok', v, hlisten, -⟩ := listen_ensures hb body .never
    rw [exchange_published h hlisten log tok, h]
    refine ⟨_, _, _, rfl, List.forall_mem_cons.mpr ⟨rfl, listenerCalls_quiet _⟩, ?_⟩
    rw [trail, ← report_eq hb]
    exact List.append_assoc ..

/-- What a part of a check may call: work that closes nothing, and then some closing calls. -/
def ClosedBy (es : List Call) (closing : List PublisherCall) : Prop :=
  ∃ work, es = work ++ closing.map .publisher ∧ ∀ c ∈ work, c.closes = false

theorem declare_ensures (hb : b.Settles limit) (log : StepLog) :
    Script.Ensures (do
        Script.step "Declare queue" (call (.declareQueue queueName) b.declareQueue)
        exchange b limit body) log fun es _ log' => (∀ c ∈ es, c.closes = false) ∧
      log'.leaves = log.leaves ++ trail (("Declare queue", b.declareQueue) ::
        ("Publish message", b.publish) :: b.listening limit body) := by
  refine Script.Ensures.bind_step hb.declareQueue (fun d e h => ?_) (fun d v h => ?_)
  · rw [h]
    exact ⟨List.forall_mem_singleton.mpr rfl, rfl⟩
  · refine (exchange_ensures hb _).mono fun es _ log' hes => ?_
    rw [h, trail]
    exact ⟨List.forall_mem_cons.mpr ⟨rfl, hes.1⟩, hes.2.trans (List.append_assoc ..)⟩

theorem exercise_ensures (hb : b.Settles limit) (log : StepLog) :
    (exercise b limit body).Ensures log fun es _ log' =>
      ClosedBy es (if b.openChannel.succeeds then [.closeChannel] else []) ∧
      log'.leaves = log.leaves ++ trail (("Create publishing channel", b.openChannel) ::
        ("Declare queue", b.declareQueue) :: ("Publish message", b.publish) ::
          b.listening limit body) := by
  refine Script.Ensures.bind_step hb.openChannel (fun d e h => ?_) (fun d v h => ?_)
  · rw [h]
    exact ⟨⟨[_], rfl, List.forall_mem_singleton.mpr rfl⟩, rfl⟩
  · refine (declare_ensures hb _).bind_attempt fun es _ log' hes => ?_
    refine Script.Ensures.bind_act hb.closeChannel fun _ => Script.ensures_pure ?_
    rw [h, trail]
    refine ⟨⟨.publisher .openChannel :: es, rfl, List.forall_mem_cons.mpr ⟨rfl, hes.1⟩⟩, ?_⟩
    exact hes.2.trans (List.append_assoc ..)

theorem script_ensures (hb : b.Settles limit) (s : Settings) :
    (script s limit body b).Ensures .empty fun es _ log =>
      ClosedBy es b.closings ∧ log.leaves = trail (b.publishing ++ b.listening limit body) := by
  unfold script call
  rw [Timed.connecting_call]
  refine Script.Ensures.bind_step hb.connected (fun d e h => ?_) (fun d v h => ?_)
  · rw [Service.closings, Service.publishing, Service.connected, h]
    exact ⟨⟨[_], rfl, List.forall_mem_singleton.mpr rfl⟩, rfl⟩
  · refine (exercise_ensures hb _).bind_attempt fun es _ log hes => ?_
    refine Script.Ensures.bind_act hb.disconnect fun _ => Script.ensures_pure ?_
    obtain ⟨⟨work, rfl, hwork⟩, hleaves⟩ := hes
    rw [Service.closings, Service.publishing, Service.connected, h]
    refine ⟨⟨.publisher (.connect s.uri) :: work, ?_, ?_⟩, hleaves⟩
    case refine_2 => exact List.forall_mem_cons.mpr ⟨rfl, hwork⟩
    have hopened : (Reply.answers d (.ok v) : Reply Unit).succeeds = true := rfl
    rw [hopened, Bool.true_and, if_pos rfl, List.map_append, ← List.append_assoc]
    rfl

/-! ## The whole check -/

/-- The same broker with other replies to the closing calls. -/
def Service.closingWith (b : Service) (channel connection listener : Reply Unit) : Service :=
  { b with closeChannel := channel, disconnect := connection, listenerClose := listener }

/-- What becomes of a check whose publisher leaves the leaves `own` and has `heard` from the listener. -/
structure Accounted (key name : String) (s : Settings) (limit : Span) (body : String) (b : Service)
    (tok : Token) (own heard : List Node) : Prop where
  /-- The check ends, and these are the leaves of its node. -/
  ends : ∃ t tok', ((probe key name s limit body b).run tok).ending =
    .returned t tok' (Node.aggregate key name (own ++ heard))
  /-- The publisher takes its steps in order, up to the first that fails. -/
  ownSteps : own = trail b.publishing
  ownCut : Cut ["Open connection", "Create publishing channel", "Declare queue", "Publish message"] own
  /-- Once the message is published, all that the listener reports is heard. -/
  published : .pass "Publish message" ∈ own → heard = report b limit body
  /-- Otherwise nothing is. -/
  unpublished : .pass "Publish message" ∉ own → heard = []
  /-- The listener takes its steps in order, up to the first that fails. -/
  reportSteps : report b limit body = trail (b.listening limit body)
  reportCut : Cut ["Create listening channel", "Consume message", "Check message"]
    (report b limit body)
  /-- It finds the message right if the message that was sent arrives in time, and not otherwise. -/
  checked : ∀ leaf ∈ report b limit body, leaf.name = "Check message" →
    (leaf.passed = true ↔ b.Delivers limit body)
  /-- In whichever order the two sides go on, its report gets through the channel as it is. -/
  relayed : Exchange.Relayed (listen b limit body .never).called (report b limit body)
  /-- What was opened is closed in the end, each once and the channel first, and nothing else is. -/
  closed : ClosedBy ((probe key name s limit body b).run tok).called b.closings
  /-- What the closing calls come to makes no difference to the node. -/
  unaffected : ∀ channel connection listener : Reply Unit, channel.Returns → connection.Returns →
    listener.Returns → ∃ t tok',
      ((probe key name s limit body (b.closingWith channel connection listener)).run tok).ending =
        .returned t tok' (Node.aggregate key name (own ++ heard))

theorem probe_ensures (hb : b.Settles limit) (body key name : String) (s : Settings) :
    (probe key name s limit body b).run.Ensures fun es node => ClosedBy es b.closings ∧
      node = Node.aggregate key name (trail (b.publishing ++ b.listening limit body)) := by
  refine (((script_ensures hb s).node key name).mono fun es node h => ?_).shielded
  obtain ⟨log, ⟨hes, hleaves⟩, rfl⟩ := h
  exact ⟨hes, by rw [StepLog.finish, hleaves]⟩

theorem publishing_returns (hb : b.Settles limit) : ∀ step ∈ b.publishing, step.2.Returns := by
  simp only [Service.publishing, List.forall_mem_cons]
  exact ⟨hb.connected, hb.openChannel, hb.declareQueue, hb.publish, nofun⟩

theorem report_cut (hb : b.Settles limit) :
    Cut ["Create listening channel", "Consume message", "Check message"] (report b limit body) := by
  have hreturns : ∀ step ∈ b.listening limit body, step.2.Returns := by
    simp only [Service.listening, List.forall_mem_cons]
    exact ⟨hb.listenerOpen, hb.consume, hb.checked, nofun⟩
  rw [report_eq hb]
  exact trail_cut hreturns

/-- The report has three leaves at most, so there is room for all of it in the channel. -/
theorem report_relayed (hb : b.Settles limit) :
    Exchange.Relayed (listen b limit body .never).called (report b limit body) := by
  have hroom : (report b limit body).length ≤ channelRoom :=
    Nat.le_trans (report_cut hb).length_le (by decide)
  rw [report, reports_eq] at hroom ⊢
  exact Exchange.relayed hroom

theorem check_passed (hb : b.Settles limit) {leaf : Node} (hleaf : leaf ∈ report b limit body)
    (hname : leaf.name = "Check message") : leaf.passed = true ↔ b.Delivers limit body := by
  rw [report_eq hb] at hleaf
  obtain ⟨step, hstep, hlabel, hpassed⟩ := mem_trail hleaf
  rw [hname] at hlabel
  rw [hpassed, ← checked_succeeds]
  simp only [Service.listening, List.mem_cons, List.not_mem_nil, or_false] at hstep
  rcases hstep with rfl | rfl | rfl
  · exact absurd hlabel (by simp)
  · exact absurd hlabel (by simp)
  · rfl

/-- Whatever the replies are and whenever they come, a check ends; its node has the leaves of the
publisher and then, if the message was published, the whole report of the listener; and what it opened
it has closed. -/
theorem probe_accounted (key name : String) (s : Settings) (limit : Span) (body : String) (b : Service)
    (hb : b.Settles limit) (tok : Token) :
    ∃ own heard, Accounted key name s limit body b tok own heard := by
  have hpublished : .pass "Publish message" ∈ trail b.publishing ↔
      b.publishing.all (·.2.succeeds) = true :=
    pass_mem_trail [("Open connection", b.connected), ("Create publishing channel", b.openChannel),
      ("Declare queue", b.declareQueue)] (by simp)
  have hleaves : trail (b.publishing ++ b.listening limit body) = trail b.publishing ++
      if b.publishing.all (·.2.succeeds) then report b limit body else [] := by
    rw [trail_append, report_eq hb]
    split
    · rfl
    · rw [List.append_nil]
  obtain ⟨t, tok', node, hend, hclosed, rfl⟩ := probe_ensures hb body key name s tok
  refine ⟨trail b.publishing, if b.publishing.all (·.2.succeeds) then report b limit body else [],
    { ends := ⟨t, tok', by rw [hend, hleaves]⟩
      ownSteps := rfl
      ownCut := trail_cut (publishing_returns hb)
      published := fun h => if_pos (hpublished.mp h)
      unpublished := fun h => if_neg (mt hpublished.mpr h)
      reportSteps := report_eq hb
      reportCut := report_cut hb
      checked := fun leaf => check_passed hb
      relayed := report_relayed hb
      closed := hclosed
      unaffected := fun channel connection listener hchannel hconnection hlistener => ?_ }⟩
  have hb' : (b.closingWith channel connection listener).Settles limit :=
    { hb with closeChannel := hchannel, disconnect := hconnection, listenerClose := hlistener }
  obtain ⟨t', tok'', node, hend', -, rfl⟩ := probe_ensures hb' body key name s tok
  exact ⟨t', tok'', by rw [hend', ← hleaves]; rfl⟩

/-- A broker that confirms the publication late, never delivers the message, and refuses to close
anything. -/
theorem probe_accounted_undelivered :
    let done : Reply Unit := .answers 2 (.ok ())
    let refused : Reply Unit := .answers 0 (.error (.message "gone"))
    let b : Service :=
      { connect := done, openChannel := done, declareQueue := done, publish := .answers 30000 (.ok ())
        closeChannel := refused, disconnect := refused, listenerOpen := done, consume := done
        next := fun _ => .hangs, listenerClose := refused }
    b.Settles receiveTimeout ∧ ∃ own heard,
      Accounted "queue" "Message queue" ⟨"amqp://h"⟩ receiveTimeout "1700000000" b .never own heard := by
  intro done refused b
  have hdone : done.Returns := ⟨2, .ok (), rfl⟩
  have hrefused : refused.Returns := ⟨0, .error (.message "gone"), rfl⟩
  have hfits : fitsClock 0 receiveTimeout = true := by decide +kernel
  have hb : b.Settles receiveTimeout :=
    { connect := hdone, openChannel := hdone, declareQueue := hdone, publish := ⟨_, _, rfl⟩
      closeChannel := hrefused, disconnect := hrefused, listenerOpen := hdone, consume := hdone
      next := fun _ => .inr ⟨rfl, hfits⟩, listenerClose := hrefused }
  exact ⟨hb,
    probe_accounted "queue" "Message queue" ⟨"amqp://h"⟩ receiveTimeout "1700000000" b hb .never⟩

end Checkup.Broker
