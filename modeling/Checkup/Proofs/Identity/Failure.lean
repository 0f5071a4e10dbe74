import Checkup.Proofs.Http.Exchange
import Checkup.Proofs.Identity.Bodies
import Checkup.Proofs.Identity.Requests

/-!
# What is told of a response that was not expected

Every operation of the client asks for responses of one status and tolerates at most one conflict. Any
other response ends the operation with a failure: it has the status code of the response, and its message
and its detail are what the body says of an error. A description in the body hides the message of the body
even if it is empty, although an empty text says nothing and the detail of the failure is then left out.

**Assumptions.** None: the other side may answer as it likes, with any bytes as the body, and the token may
fire at any time. A response that comes after the limit is none.

Results:
* `failureOf_reports`: what the failure of a response tells, as the structure `Reports`.
* `message_eq_iff`: a conflict is recognized by the message of the failure exactly if the body names it.
* `readCreation_refused`, `readCode_refused` and `expectStatus_refused`: the readers end with the failure.
* `perform_head`: every operation sends the request that it begins with.
* `perform_refused`: and every operation ends with the failure, as the structure `Performs`.
* `perform_hidesMessage`: a message that is hidden by an empty description.
-/
namespace Checkup.Identity.Client

open Json Http

/-! ## Failures of responses -/

/-- A text, unless it is empty. -/
def nonEmpty? (x : Option String) : Option String := x.filter (!·.isEmpty)

/-- What is said of a status that is not expected. -/
def unexpected (status : UInt16) : String :=
  s!"Unexpected status code {Text.natText status.toNat}"

structure Reports (r : Response) (f : Failure) : Prop where
  status : f.status = some r.status
  /-- The error that the body gives, if it is one. -/
  message : ∀ e, Says r e → f.message = (nonEmpty? e.error).getD (unexpected r.status)
  /-- The description that the body gives; an empty one is left out, and nothing stands in for it. -/
  described : ∀ e x, Says r e → e.description = some x → f.detail = nonEmpty? (some x)
  /-- The message that the body gives, if it gives no description. -/
  undescribed : ∀ e, Says r e → e.description = none → f.detail = nonEmpty? e.message
  /-- So the detail is the first of the two that is a text, unless a description is empty. -/
  first : ∀ e, Says r e → (e.description = some "" → nonEmpty? e.message = none) →
    f.detail = (nonEmpty? e.description).or (nonEmpty? e.message)
  /-- A body that says nothing of an error leaves the status alone. -/
  silent : (∀ e, ¬ Says r e) → f.message = unexpected r.status ∧ f.detail = none

theorem nonEmpty?_some (x : String) : nonEmpty? (some x) = if x = "" then none else some x := by
  by_cases hx : x = "" <;> simp [nonEmpty?, hx]

theorem failureOf_telling {r : Response} {e : ErrorBody} (h : Says r e) :
    failureOf r = e.failure r.status := by
  rw [failureOf, says_iff.mp h]
  rfl

theorem failureOf_silent {r : Response} (h : ∀ e, ¬ Says r e) :
    failureOf r = ErrorBody.silent.failure r.status := by
  rw [failureOf, Option.eq_none_iff_forall_ne_some.mpr fun e he => h e (says_iff.mpr he)]
  rfl

theorem failureOf_reports (r : Response) : Reports r (failureOf r) where
  status := rfl
  message e he := by rw [failureOf_telling he]; rfl
  described e x he hx := by rw [failureOf_telling he, ErrorBody.failure, hx]; rfl
  undescribed e he hx := by rw [failureOf_telling he, ErrorBody.failure, hx]; rfl
  first e he h := by
    rw [failureOf_telling he, ErrorBody.failure]
    cases hx : e.description with
    | none => rfl
    | some x =>
      show nonEmpty? (some x) = (nonEmpty? (some x)).or (nonEmpty? e.message)
      by_cases hempty : x = ""
      · subst hempty
        rw [h hx, Option.or_none]
      · rw [nonEmpty?_some, if_neg hempty, Option.some_or]
  silent h := by
    rw [failureOf_silent h]
    exact ⟨rfl, rfl⟩

/-! ## Conflicts -/

/-- The response tells of a conflict by this name. -/
def Conflicts (r : Response) (name : String) : Prop :=
  r.status = 409 ∧ ∃ e, Says r e ∧ e.error = some name

/-- A failure has this message only if the body of its response gives it. -/
def Distinct (name : String) : Prop := name ≠ "" ∧ ∀ status, name ≠ unexpected status

theorem unexpected_head (status : UInt16) : (unexpected status).toList.head? = some 'U' := by
  show ("Unexpected status code " ++ Text.natText status.toNat).toList.head? = some 'U'
  rw [String.toList_append, List.head?_append]
  simp

theorem distinct_of_head {name : String} {c : Char} (h : name.toList.head? = some c) (hc : c ≠ 'U') :
    Distinct name := by
  refine ⟨fun hname => ?_, fun status hname => ?_⟩
  · rw [hname] at h
    simp at h
  · rw [hname, unexpected_head] at h
    exact hc (Option.some.inj h).symm

theorem distinct_userExists : Distinct "scim_resource_already_exists" :=
  distinct_of_head (show _ = some 's' by simp) (by decide)

theorem distinct_memberExists : Distinct "member_already_exists" :=
  distinct_of_head (show _ = some 'm' by simp) (by decide)

theorem message_eq_iff {r : Response} {name : String} (hname : Distinct name) :
    (failureOf r).message = name ↔ ∃ e, Says r e ∧ e.error = some name := by
  have hreports := failureOf_reports r
  have hother := hname.2 r.status
  constructor
  · intro h
    by_cases hsays : ∃ e, Says r e
    · obtain ⟨e, he⟩ := hsays
      rw [hreports.message e he] at h
      refine ⟨e, he, ?_⟩
      cases herror : e.error with
      | none => rw [herror] at h; exact absurd h.symm hother
      | some x =>
        rw [herror, nonEmpty?_some] at h
        by_cases hx : x = ""
        · rw [if_pos hx] at h
          exact absurd h.symm hother
        · rw [if_neg hx] at h
          exact congrArg some h
    · rw [(hreports.silent fun e he => hsays ⟨e, he⟩).1] at h
      exact absurd h.symm hother
  · rintro ⟨e, he, herror⟩
    rw [hreports.message e he, herror, nonEmpty?_some, if_neg hname.1]
    rfl

theorem conflicts_iff {r : Response} {name : String} (hname : Distinct name) :
    Conflicts r name ↔ r.status = 409 ∧ (failureOf r).message = name := by
  rw [Conflicts, message_eq_iff hname]

/-! ## Readers -/

theorem expectStatus_refused {status : UInt16} {r : Response} (h : r.status ≠ status) :
    expectStatus status r = .error (.failure (failureOf r)) := if_neg h

theorem readToken_refused {r : Response} (h : r.status ≠ 200) :
    readToken r = .error (.failure (failureOf r)) := by
  rw [readToken, expectStatus_refused h]
  rfl

theorem readFound_refused {user : String} {r : Response} (h : r.status ≠ 200) :
    readFound user r = .error (.failure (failureOf r)) := by
  rw [readFound, expectStatus_refused h]
  rfl

theorem readGroups_refused {r : Response} (h : r.status ≠ 200) :
    readGroups r = .error (.failure (failureOf r)) := by
  rw [readGroups, expectStatus_refused h]
  rfl

theorem readCreation_refused {α : Type} {name : String} {created : Response → Except Fault α} {r : Response}
    (hname : Distinct name) (hstatus : r.status ≠ 201) (hconflict : ¬ Conflicts r name) :
    readCreation name created r = .error (.failure (failureOf r)) := by
  rw [readCreation, if_neg hstatus]
  exact if_neg fun h => hconflict ((conflicts_iff hname).mpr h)

theorem readCode_refused {r : Response} (h : r.isRedirection = false) :
    readCode r = .error (.failure (failureOf r)) := by
  rw [readCode, h]
  rfl

/-! ## Operations -/

variable {ε α : Type}

/-- An activity without its value. -/
def valueless (x : Timed ε (Except Fault α)) : Timed ε (Except Fault Unit) := do
  return (← x).map fun _ => ()

/-- An operation of a provider, whatever it returns. -/
def perform (p : Provider ε) : Call → Timed ε (Except Fault Unit)
  | .clientToken => valueless p.clientToken
  | .createUser token user password => valueless (p.createUser token user password)
  | .findUser token user => valueless (p.findUser token user)
  | .listGroups token => valueless (p.listGroups token)
  | .addMember token group user => valueless (p.addMember token group user)
  | .passwordToken user password => valueless (p.passwordToken user password)
  | .codeToken userToken => valueless (p.codeToken userToken)
  | .deleteUser token user => p.deleteUser token user

/-- The response to a request has a status that the operation goes on with. -/
def Expects : Call → Request → Response → Prop
  | .createUser .., _, r | .addMember .., _, r => r.status = 201
  | .codeToken _, q, r => if q.method = .get then r.isRedirection = true else r.status = 200
  | _, _, r => r.status = 200

/-- The response tells of the conflict that the operation tolerates. -/
def Tolerates : Call → Response → Prop
  | .createUser .., r => Conflicts r "scim_resource_already_exists"
  | .addMember .., r => Conflicts r "member_already_exists"
  | _, _ => False

/-- The activity ends like this at the tick. -/
def EndsAt (c : Course ε α) (t : Nat) (v : α) : Prop := ∃ tok, c.ending = .returned t tok v

theorem valueless_apply (x : Timed ε (Except Fault α)) (tok : Token) :
    valueless x tok = ⟨(x tok).calls, (x tok).ending.map (·.map fun _ => ())⟩ :=
  Timed.bind_pure_apply x _ tok

section
variable {t : Transport} {s : Settings} {tok : Token} {k d : Nat} {q : Request} {r : Response}
  {request : Except Fault Request} {read : Response → Except Fault α} {e : Fault}

theorem calls_valueless (x : Timed ε (Except Fault α)) (tok : Token) :
    (valueless x tok).calls = (x tok).calls := by
  rw [valueless_apply]

theorem EndsAt.valueless {x : Timed ε (Except Fault α)} (h : EndsAt (x tok) k (.error e)) :
    EndsAt (valueless x tok) k (.error e) := by
  obtain ⟨tok', h⟩ := h
  exact ⟨tok', by rw [valueless_apply, h]; rfl⟩

theorem endsAt_pure (tok : Token) (v : α) : EndsAt ((pure v : Timed ε α) tok) 0 v := ⟨tok, rfl⟩

theorem EndsAt.bind {β : Type} {x : Timed ε α} {f : α → Timed ε β} {t₁ : Nat} {tok₁ : Token} {v : α} {w : β}
    (hx : (x tok).ending = .returned t₁ tok₁ v) (hf : EndsAt (f v tok₁) k w) :
    EndsAt ((x >>= f) tok) (t₁ + k) w := by
  obtain ⟨tok₂, hf⟩ := hf
  refine ⟨tok₂, ?_⟩
  rw [Timed.bind_returned hx, Course.following, hf]
  rfl

/-- An exchange whose request is answered in time ends with what is read of the response. -/
theorem exchange_endsAt (hcall : (k, q) ∈ (exchange t requestTimeout request read tok).calls)
    (hanswer : t.Answers requestTimeout q d r) :
    EndsAt (exchange t requestTimeout request read tok) (k + d) (read r) := by
  obtain ⟨rfl, hrequest⟩ := mem_exchange_calls.mp hcall
  rw [exchange_of_answers hrequest hanswer, Nat.zero_add]
  exact ⟨_, rfl⟩

theorem exchange_error (hcall : (k, q) ∈ (exchange t requestTimeout request read tok).calls)
    (hanswer : t.Answers requestTimeout q d r) (hread : read r = .error e) :
    EndsAt (exchange t requestTimeout request read tok) (k + d) (.error e) := by
  rw [← hread]
  exact exchange_endsAt hcall hanswer

theorem valueless_exchange_error
    (hcall : (k, q) ∈ (valueless (exchange t requestTimeout request read) tok).calls)
    (hanswer : t.Answers requestTimeout q d r) (hread : read r = .error e) :
    EndsAt (valueless (exchange t requestTimeout request read) tok) (k + d) (.error e) := by
  rw [calls_valueless] at hcall
  exact (exchange_error hcall hanswer hread).valueless

theorem codeToken_error {bearer : String} (hcall : (k, q) ∈ (codeToken t s bearer tok).calls)
    (hanswer : t.Answers requestTimeout q d r) (hstatus : ¬ Expects (.codeToken bearer) q r) :
    EndsAt (codeToken t s bearer tok) (k + d) (.error (.failure (failureOf r))) := by
  unfold codeToken at hcall ⊢
  rcases Timed.mem_calls_bind hcall with hfirst | ⟨t₁, tok₁, outcome, k', hending, hsecond, rfl⟩
  case inl =>
    -- The authorization itself was refused; no other request follows it.
    obtain ⟨u, -, -, -, rfl⟩ := authorizeRequest_eq_ok.mp (outgoing_eq_ok.mp (mem_exchange_calls.mp hfirst).2).1
    have hredirection : r.isRedirection = false := by simpa [Expects] using hstatus
    obtain ⟨tok', hending⟩ := exchange_error hfirst hanswer (readCode_refused hredirection)
    rw [← Nat.add_zero (k + d)]
    exact EndsAt.bind hending (endsAt_pure tok' _)
  case inr =>
    -- There was a code, but no token for it.
    rw [Nat.add_assoc]
    refine EndsAt.bind hending ?_
    cases outcome with
    | error e => cases hsecond
    | ok code =>
      obtain ⟨u, -, -, hq⟩ := tokenRequest_eq_ok.mp (outgoing_eq_ok.mp (mem_exchange_calls.mp hsecond).2).1
      have hstatus : r.status ≠ 200 := by simpa [Expects, hq] using hstatus
      exact exchange_error hsecond hanswer (readToken_refused hstatus)

theorem perform_error {c : Call} (hcall : (k, q) ∈ (perform (provider t s) c tok).calls)
    (hanswer : t.Answers requestTimeout q d r) (hexpects : ¬ Expects c q r) (htolerates : ¬ Tolerates c r) :
    EndsAt (perform (provider t s) c tok) (k + d) (.error (.failure (failureOf r))) := by
  cases c with
  | clientToken | passwordToken =>
    simp only [perform, provider, token] at hcall ⊢
    exact valueless_exchange_error hcall hanswer (readToken_refused hexpects)
  | findUser =>
    simp only [perform, provider] at hcall ⊢
    exact valueless_exchange_error hcall hanswer (readFound_refused hexpects)
  | listGroups =>
    simp only [perform, provider] at hcall ⊢
    exact valueless_exchange_error hcall hanswer (readGroups_refused hexpects)
  | createUser =>
    simp only [perform, provider] at hcall ⊢
    exact valueless_exchange_error hcall hanswer
      (readCreation_refused distinct_userExists hexpects htolerates)
  | addMember =>
    simp only [perform, provider] at hcall ⊢
    exact valueless_exchange_error hcall hanswer
      (readCreation_refused distinct_memberExists hexpects htolerates)
  | codeToken bearer =>
    simp only [perform, provider, calls_valueless] at hcall ⊢
    exact (codeToken_error hcall hanswer hexpects).valueless
  | deleteUser =>
    simp only [perform, provider] at hcall ⊢
    exact exchange_error hcall hanswer (by rw [expectStatus_refused hexpects]; rfl)

theorem exchange_head : (exchange t requestTimeout request read tok).calls.head? = some (k, q) ↔
    k = 0 ∧ outgoing request = .ok q := by
  cases hrequest : outgoing request with
  | error e =>
    rw [exchange_unsent hrequest]
    exact ⟨nofun, nofun⟩
  | ok q' =>
    rw [exchange_calls hrequest, List.head?_cons, Option.some.injEq, Prod.mk.injEq, Except.ok.injEq,
      eq_comm (a := 0), eq_comm (a := q')]

/-- The authorization comes first, and nothing else is sent unless it is. -/
theorem codeToken_head {bearer : String} : (codeToken t s bearer tok).calls.head? = some (k, q) ↔
    k = 0 ∧ outgoing (authorizeRequest s bearer) = .ok q := by
  have hfirst : (exchange t requestTimeout (authorizeRequest s bearer) readCode tok).calls.head? = some (k, q) ↔
      k = 0 ∧ outgoing (authorizeRequest s bearer) = .ok q := exchange_head
  rw [← hfirst, codeToken]
  cases hrequest : outgoing (authorizeRequest s bearer) with
  | error e =>
    have hunsent : exchange t requestTimeout (authorizeRequest s bearer) readCode tok = _ :=
      exchange_unsent hrequest
    rw [Timed.bind_returned (congrArg Course.ending hunsent), hunsent]
    exact Iff.rfl
  | ok q' =>
    have hcalls : (exchange t requestTimeout (authorizeRequest s bearer) readCode tok).calls = _ :=
      exchange_calls hrequest
    rw [Timed.head?_calls_bind]
    rw [hcalls]
    exact List.cons_ne_nil _ _

/-- An operation begins with its request, as soon as that can be built and its URL may stand in one. -/
theorem perform_head {c : Call} : (perform (provider t s) c tok).calls.head? = some (k, q) ↔
    k = 0 ∧ Asks s c q ∧ isSendable q.url = true := by
  rw [← firstRequest_eq_ok, ← outgoing_eq_ok]
  cases c <;> simp only [perform, provider, token, calls_valueless, firstRequest]
  case codeToken => exact codeToken_head
  all_goals exact exchange_head

/-- An operation sends the request that it begins with, and a response that it neither goes on with nor
tolerates ends it, with a failure that tells of the response. -/
structure Performs (t : Transport) (s : Settings) (c : Call) (tok : Token) : Prop where
  /-- The request is sent at once if it can be built and its URL may stand in one, and nothing before it. -/
  sent : ∀ k q, (perform (provider t s) c tok).calls.head? = some (k, q) ↔
    k = 0 ∧ Asks s c q ∧ isSendable q.url = true
  refused : ∀ k q d r, (k, q) ∈ (perform (provider t s) c tok).calls → t.Answers requestTimeout q d r →
    ¬ Expects c q r → ¬ Tolerates c r →
      ∃ f, EndsAt (perform (provider t s) c tok) (k + d) (.error (.failure f)) ∧ Reports r f

theorem perform_refused (t : Transport) (s : Settings) (c : Call) (tok : Token) : Performs t s c tok where
  sent _ _ := perform_head
  refused _ _ _ r hcall hanswer hexpects htolerates :=
    ⟨failureOf r, perform_error hcall hanswer hexpects htolerates, failureOf_reports r⟩

/-- A service that answers everything with one response. -/
def answering (r : Response) : Transport := fun _ => .answers 5 (.ok r)

/-- A zone on this machine. -/
def localZone : Settings := ⟨"http://[::1]:8080", "client", "secret", "x:"⟩

/-- An error in the terms of two kinds of endpoints, one of which leaves its own empty. -/
def refusal : Response :=
  ⟨404, [], Text.Utf8.encode "\x7b\"error\":\"e\",\"error_description\":\"\",\"message\":\"m\"\x7d".toList⟩

theorem says_refusal : Says refusal ⟨some "e", some "", some "m"⟩ :=
  says_iff.mpr (by decide +kernel)

theorem deletion_isSent : ∃ q, (0, q) ∈
    (perform (provider (answering refusal) localZone) (.deleteUser "t" "u") .never).calls := by
  obtain ⟨q, hrequest⟩ := exists_eq_ok (x := outgoing (scimRequest localZone .delete "/Users/u" "t"))
    (by decide +kernel)
  exact ⟨q, mem_exchange_calls.mpr ⟨rfl, hrequest⟩⟩

theorem perform_refused_deletion : ∃ q, (0, q) ∈
      (perform (provider (answering refusal) localZone) (.deleteUser "t" "u") .never).calls ∧
    ∃ f, EndsAt (perform (provider (answering refusal) localZone) (.deleteUser "t" "u") .never) (0 + 5)
      (.error (.failure f)) ∧ Reports refusal f := by
  obtain ⟨q, hcall⟩ := deletion_isSent
  have hanswer : (answering refusal).Answers requestTimeout q 5 refusal := ⟨rfl, by decide⟩
  have hperforms := perform_refused (answering refusal) localZone (.deleteUser "t" "u") .never
  exact ⟨q, hcall, hperforms.refused 0 q 5 refusal hcall hanswer (show ¬ (404 : UInt16) = 200 by decide) id⟩

/-- The body carries a text in its message, and the failure has no detail. -/
theorem perform_hidesMessage : Says refusal ⟨some "e", some "", some "m"⟩ ∧
    ∃ f, EndsAt (perform (provider (answering refusal) localZone) (.deleteUser "t" "u") .never) 5
      (.error (.failure f)) ∧ f.message = "e" ∧ f.status = some 404 ∧ f.detail = none := by
  obtain ⟨q, hcall⟩ := deletion_isSent
  have hanswer : (answering refusal).Answers requestTimeout q 5 refusal := ⟨rfl, by decide⟩
  have hends := perform_error hcall hanswer (show ¬ (404 : UInt16) = 200 by decide) id
  have hreports := failureOf_reports refusal
  refine ⟨says_refusal, failureOf refusal, hends, ?_, hreports.status, ?_⟩
  · rw [hreports.message _ says_refusal, nonEmpty?_some]
    rfl
  · rw [hreports.described _ _ says_refusal rfl, nonEmpty?_some, if_pos rfl]

end

end Checkup.Identity.Client
