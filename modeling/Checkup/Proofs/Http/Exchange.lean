import Checkup.Http.Exchange
import Checkup.Proofs.Script.Stages

/-!
# What comes of an exchange

An exchange makes one call or none. It makes none for a request that could not be built, or whose URL may
not stand in one; otherwise it sends the request and reads what has come of it by the end of the limit.

Results:
* `exchange_eq`: an exchange is a call with another reply, or an error.
* `exchange_of_answers` and `mem_exchange_calls`: a response that comes in time is what the exchange reads.
* `exchange_ensures`: an exchange returns, whatever becomes of its token, unless the other side panics.
-/
namespace Checkup.Http

variable {α : Type} {t : Transport} {limit : Span} {request : Except Fault Request}
  {read : Response → Except Fault α}

/-- What is sent for a request: the request itself, if it could be built and its URL may stand in one. -/
def outgoing (request : Except Fault Request) : Except Fault Request :=
  request.bind fun r => if isSendable r.url then .ok r else .error (targetFault r)

/-- What the sender of a request makes of what has come by the end of the limit. -/
def concluded (r : Request) (read : Response → Except Fault α) :
    Option (Except Fault Response) → Except Fault α
  | some result => (result.mapError (sendingFault r)).bind read
  | none => .error (sendingFault r timedOut)

/-- The other side answers the request with a response before the limit is over. -/
def Transport.Answers (t : Transport) (limit : Span) (q : Request) (d : Nat) (r : Response) : Prop :=
  t q = .answers d (.ok r) ∧ d ≤ limit.ticks

/-- What can come of an exchange: the calls it makes, and its outcome. -/
inductive Concludes (t : Transport) (limit : Span) (request : Except Fault Request)
    (read : Response → Except Fault α) : List Request → Except Fault α → Prop where
  | unsent {e : Fault} : outgoing request = .error e → Concludes t limit request read [] (.error e)
  | answered {q : Request} {d : Nat} {r : Response} : outgoing request = .ok q →
      t.Answers limit q d r → Concludes t limit request read [q] (read r)
  | unanswered {q : Request} {e : Fault} : outgoing request = .ok q →
      (∀ d r, ¬ t.Answers limit q d r) → Concludes t limit request read [q] (.error e)

/-- The other side does not panic. -/
def Transport.Calm (t : Transport) : Prop := ∀ q d p, t q ≠ .panics d p

theorem outgoing_eq_ok {q : Request} :
    outgoing request = .ok q ↔ request = .ok q ∧ isSendable q.url = true := by
  cases request with
  | error e => simp [outgoing, Except.bind]
  | ok r =>
    by_cases hr : isSendable r.url = true
    · simp only [outgoing, Except.bind, if_pos hr, Except.ok.injEq]
      exact ⟨fun h => ⟨h, h ▸ hr⟩, fun h => h.1⟩
    · simp only [outgoing, Except.bind, if_neg hr, Except.ok.injEq, reduceCtorEq, false_iff]
      rintro ⟨rfl, h⟩
      exact hr h

/-! ## An exchange as a call -/

theorem within_pure {ε β : Type} (limit : Span) (v : β) :
    (pure v : Timed ε β).within limit = pure (some v) := by
  funext tok
  show Timed.within limit (Timed.pure v) tok = Timed.pure (some v) tok
  cases hfits : fitsClock 0 limit <;> simp [Timed.within, Timed.pure, hfits, Ending.map]

theorem sendPatiently_eq (r : Request) : sendPatiently t r =
    if isSendable r.url then Timed.call r ((t r).judged (·.mapError (sendingFault r)))
    else pure (.error (targetFault r)) := by
  rw [← Timed.judged_call]
  rfl

theorem inTime_call (r : Request) (reply : Reply α) : inTime limit r (Timed.call r reply) =
    Timed.call r (reply.within limit (·.getD (.error (sendingFault r timedOut)))) :=
  Timed.connecting_call limit (sendingFault r timedOut) r reply

theorem inTime_pure (r : Request) (result : Except Fault α) :
    inTime limit r (pure result) = pure result := by
  show (pure result : Timed Request _).within limit >>= _ = _
  rw [within_pure, pure_bind]

/-- What is made of a reply before the limit and what behind it, at once. -/
theorem within_judged (r : Request) (reply : Reply Response) :
    ((reply.judged (·.mapError (sendingFault r))).within limit
      (·.getD (.error (sendingFault r timedOut)))).judged (·.bind read) =
        reply.within limit (concluded r read) := by
  unfold Reply.within
  cases limit.expiry? 0 with
  | none => cases reply <;> rfl
  | some l =>
    cases reply with
    | answers d result => by_cases hd : d ≤ l <;> simp [Reply.judged, hd, concluded, Except.bind]
    | panics d p => by_cases hd : d ≤ l <;> simp [Reply.judged, hd, concluded, Except.bind]
    | hangs => simp [Reply.judged, concluded, Except.bind]

theorem exchange_eq (t : Transport) (limit : Span) (request : Except Fault Request)
    (read : Response → Except Fault α) : exchange t limit request read =
      match outgoing request with
      | .error e => pure (.error e)
      | .ok q => Timed.call q ((t q).within limit (concluded q read)) := by
  cases request with
  | error e => rfl
  | ok r =>
    show (·.bind read) <$> inTime limit r (sendPatiently t r) = _
    rw [sendPatiently_eq]
    by_cases hr : isSendable r.url = true
    · rw [if_pos hr, inTime_call, Timed.judged_call, within_judged,
        show outgoing (.ok r) = .ok r from if_pos hr]
    · rw [if_neg hr, inTime_pure, map_pure, show outgoing (.ok r) = .error (targetFault r) from if_neg hr]
      rfl

/-! ## Responses -/

theorem within_answers {d : Nat} {result : Except Fault Response} {q : Request} (hd : d ≤ limit.ticks) :
    (Reply.answers d result).within limit (concluded q read) =
      .answers d (concluded q read (some result)) := by
  unfold Reply.within Span.expiry?
  cases fitsClock 0 limit with
  | false => rfl
  | true => exact if_pos hd

variable {q : Request} {d : Nat} {r : Response} {tok : Token}

theorem exchange_of_answers (hrequest : outgoing request = .ok q) (h : t.Answers limit q d r) :
    exchange t limit request read tok = ⟨[(0, q)], .returned d (tok.after d) (read r)⟩ := by
  obtain ⟨ht, hd⟩ := h
  rw [exchange_eq, hrequest]
  simp only [ht, within_answers hd]
  rfl

theorem exchange_unsent {e : Fault} (hrequest : outgoing request = .error e) :
    exchange t limit request read tok = ⟨[], .returned 0 tok (.error e)⟩ := by
  rw [exchange_eq, hrequest]
  rfl

theorem calls_call {ε β : Type} (e : ε) (reply : Reply β) (tok : Token) :
    (Timed.call e reply tok).calls = [(0, e)] := by
  cases reply <;> rfl

theorem exchange_calls (hrequest : outgoing request = .ok q) :
    (exchange t limit request read tok).calls = [(0, q)] := by
  rw [exchange_eq, hrequest]
  exact calls_call _ _ _

/-- An exchange makes one call, for its request, if that can be sent. -/
theorem mem_exchange_calls {k : Nat} :
    (k, q) ∈ (exchange t limit request read tok).calls ↔ k = 0 ∧ outgoing request = .ok q := by
  cases hrequest : outgoing request with
  | error e =>
    rw [exchange_unsent hrequest]
    exact ⟨nofun, nofun⟩
  | ok q' =>
    rw [exchange_calls hrequest, List.mem_singleton, Prod.mk.injEq, Except.ok.injEq, eq_comm (a := q)]

theorem exchange_ensures (ht : t.Calm) (hlimit : fitsClock 0 limit = true) :
    (exchange t limit request read).Ensures (Concludes t limit request read) := by
  rw [exchange_eq]
  cases hrequest : outgoing request with
  | error e => exact Timed.ensures_pure (.unsent hrequest)
  | ok q =>
    dsimp only
    by_cases hq : ∃ d r, t.Answers limit q d r
    · obtain ⟨d, r, htq, hd⟩ := hq
      rw [htq, within_answers hd]
      refine Timed.ensures_call.mono fun es v hv => ?_
      obtain ⟨rfl, rfl⟩ := hv
      exact .answered hrequest ⟨htq, hd⟩
    · have hlate : ∃ d e, (t q).within limit (concluded q read) = .answers d (.error e) := by
        unfold Reply.within Span.expiry?
        rw [if_pos hlimit]
        cases htq : t q with
        | answers d result =>
          cases result with
          | ok r =>
            have hd : ¬ d ≤ limit.ticks := fun hd => hq ⟨d, r, htq, hd⟩
            exact ⟨limit.ticks, _, if_neg hd⟩
          | error e =>
            by_cases hd : d ≤ limit.ticks
            · exact ⟨d, _, if_pos hd⟩
            · exact ⟨limit.ticks, _, if_neg hd⟩
        | panics d p => exact absurd htq (ht q d p)
        | hangs => exact ⟨limit.ticks, _, rfl⟩
      obtain ⟨d, e, hlate⟩ := hlate
      rw [hlate]
      refine Timed.ensures_call.mono fun es v hv => ?_
      obtain ⟨rfl, rfl⟩ := hv
      exact .unanswered hrequest fun d r h => hq ⟨d, r, h⟩

theorem exchange_only (ht : t.Calm) (hlimit : fitsClock 0 limit = true) {p : Request → Prop}
    (hp : ∀ q, request = .ok q → p q) : Timed.Only p (exchange t limit request read) := by
  refine (exchange_ensures ht hlimit).mono fun es v h => ?_
  cases h with
  | unsent => exact nofun
  | answered hrequest | unanswered hrequest =>
    intro q hq
    rw [List.mem_singleton.mp hq]
    exact hp _ (outgoing_eq_ok.mp hrequest).1

theorem Transport.Answers.unique {d' : Nat} {r' : Response} (h : t.Answers limit q d r)
    (h' : t.Answers limit q d' r') : r = r' := by
  have heq := h.1.symm.trans h'.1
  cases heq
  rfl

end Checkup.Http
