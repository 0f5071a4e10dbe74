import Checkup.Proofs.Http.Siblings
import Checkup.Proofs.Identity.Failure

/-!
# Authorization codes

An authorization code comes in the query of the place where the client is sent, and goes out in the form of
the request for a token. Whatever characters it consists of, the form gives it back: the pairs of the query
are read, the first that is named a code is taken, and it is written down again in the same way. A place
without a code ends the operation before anything else is sent.

**Assumptions.** None on the other side or on the settings. If the address of the zone is good enough for
the authorization, it is for the request for a token too.

Results:
* `tokenRequest_sendable`: that request can be built and sent.
* `readCode_redirect`: the code that is read of a response.
* `codeToken_redeems`: how the operation goes on from there, as the structure `Redeems`.
-/
namespace Checkup.Identity.Client

open Json Http

variable {t : Transport} {s : Settings} {userToken : String} {tok : Token} {q q' : Request} {r : Response}
  {d : Nat} {pairs : List (String × String)}

/-! ## The request for a token -/

/-- Where an authorization can be asked for, so can a token. -/
theorem tokenRequest_sendable (h : outgoing (authorizeRequest s userToken) = .ok q)
    (form : List (String × String)) : ∃ q', outgoing (tokenRequest s form) = .ok q' := by
  obtain ⟨hrequest, hsend⟩ := outgoing_eq_ok.mp h
  obtain ⟨u, hparse, hweb, -, rfl⟩ := authorizeRequest_eq_ok.mp hrequest
  have haddress (path : String) : (address s path).toList = s.authDomain.toList ++ path.toList :=
    String.toList_append
  have hoauth : Url.IsName "oauth".toList := Url.isName_of_lower rfl rfl rfl
  have hauthorize : Url.IsName "authorize".toList := Url.isName_of_lower rfl rfl rfl
  have htoken : Url.IsName "token".toList := Url.isName_of_lower rfl rfl rfl
  obtain ⟨v, ⟨hparse', hweb'⟩, hsiblings⟩ := Url.parse_siblings hoauth (List.cons_ne_nil _ _) hauthorize
    htoken (haddress "/oauth/authorize") (haddress "/oauth/token") ⟨hparse, hweb⟩
  have hsend' := Url.isSendable_sibling hsiblings hweb (authorizePairs s) htoken (by decide) hsend
  exact ⟨_, outgoing_eq_ok.mpr ⟨tokenRequest_eq_ok.mpr ⟨v, hparse', hweb', rfl⟩, hsend'⟩⟩

structure Redemption (s : Settings) (code : String) (q : Request) : Prop where
  method : q.method = .post
  url : ∃ u, Url.parse (address s "/oauth/token") = .ok u ∧ q.url = { u with fragment := none }
  form : ∃ body, q.body = some body ∧ Form.decodePairs body.toList =
    [("grant_type", "authorization_code"), ("code", code), ("redirect_uri", s.redirectUri)]

theorem redemption_of_eq_ok {code : String} (h : tokenRequest s (codeForm s code) = .ok q) :
    Redemption s code q := by
  obtain ⟨u, hparse, -, rfl⟩ := tokenRequest_eq_ok.mp h
  refine ⟨rfl, ⟨u, hparse, rfl⟩, _, rfl, ?_⟩
  rw [Form.text, String.toList_ofList, Form.decodePairs_encodePairs]
  rfl

/-! ## The code in a redirect -/

/-- The response sends the client to a place that carries the pairs. -/
structure Redirects (r : Response) (pairs : List (String × String)) : Prop where
  status : r.isRedirection = true
  location : ∃ location url, r.header? "location" = some location ∧ Url.parse location = .ok url ∧
    Url.Carries location pairs

/-- The code is that of the first pair which is named so. -/
def FirstCode (pairs : List (String × String)) (code : String) : Prop :=
  ∃ before after, pairs = before ++ ("code", code) :: after ∧ ∀ p ∈ before, p.1 ≠ "code"

theorem lookup_of_firstCode {code : String} (h : FirstCode pairs code) : pairs.lookup "code" = some code := by
  obtain ⟨before, after, rfl, hbefore⟩ := h
  induction before with
  | nil => exact List.lookup_cons_self
  | cons p before ih =>
    obtain ⟨hp, hbefore⟩ := List.forall_mem_cons.mp hbefore
    rw [List.cons_append, List.lookup_cons, beq_eq_false_iff_ne.mpr (Ne.symm hp)]
    exact ih hbefore

theorem readCode_redirect (h : Redirects r pairs) : ∃ url : Url, readCode r =
    match pairs.lookup "code" with
    | some code => .ok code
    | none => .error (.message s!"No authorization code in redirect to {url.text}") := by
  obtain ⟨hstatus, location, url, hheader, hparse, hcarries⟩ := h
  refine ⟨url, ?_⟩
  rw [readCode, hstatus, hheader]
  simp only [hparse, Url.queryPairs_of_carries hcarries hparse]
  rfl

/-! ## The grant -/

/-- The body of the response gives the token. -/
def GrantsToken (r : Response) (token : String) : Prop :=
  r.status = 200 ∧ ∃ syn, Syntax.parseBytes? r.body = some syn ∧ GivesToken syn token

theorem readToken_of_grants {token : String} (h : GrantsToken r token) : readToken r = .ok token := by
  rw [readToken, expectStatus, if_pos h.1]
  exact (decode_eq_ok fun _ _ => tokenOfSyntax?_eq_some).mpr h.2

/-- How the operation goes on whose first request has been answered at a tick, by sending the client to a
place that carries the pairs. -/
structure Redeems (s : Settings) (t : Transport) (c : Course Request (Except Fault String)) (q : Request)
    (d : Nat) (pairs : List (String × String)) : Prop where
  /-- A code is redeemed, and the token that it stands for is returned. -/
  coded : ∀ code, FirstCode pairs code → ∃ q', Redemption s code q' ∧ c.calls = [(0, q), (d, q')] ∧
    ∀ d' r token, t.Answers requestTimeout q' d' r → GrantsToken r token → EndsAt c (d + d') (.ok token)
  /-- Without a code nothing else is sent. -/
  uncoded : (∀ p ∈ pairs, p.1 ≠ "code") → c.calls = [(0, q)] ∧ ∃ e, EndsAt c d (.error e)

section
variable (hrequest : outgoing (authorizeRequest s userToken) = .ok q)
  (hanswer : t.Answers requestTimeout q d r)
include hrequest hanswer

theorem codeToken_of_code {code : String} (hcode : readCode r = .ok code) : codeToken t s userToken tok =
    Course.following [(0, q)] d (token t s (codeForm s code) (tok.after d)) := by
  have hfirst : exchange t requestTimeout (authorizeRequest s userToken) readCode tok = _ :=
    exchange_of_answers hrequest hanswer
  rw [codeToken, Timed.bind_returned (congrArg Course.ending hfirst), hfirst, hcode]

theorem codeToken_of_error {e : Fault} (hcode : readCode r = .error e) :
    codeToken t s userToken tok = ⟨[(0, q)], .returned d (tok.after d) (.error e)⟩ := by
  have hfirst : exchange t requestTimeout (authorizeRequest s userToken) readCode tok = _ :=
    exchange_of_answers hrequest hanswer
  rw [codeToken, Timed.bind_returned (congrArg Course.ending hfirst), hfirst, hcode]
  rfl

/-- The code that the other side gives comes back to it in the form of the request for a token, and the
token that it answers with is returned; without a code there is no such request. -/
theorem codeToken_redeems (hredirects : Redirects r pairs) (tok : Token) :
    Redeems s t ((provider t s).codeToken userToken tok) q d pairs := by
  dsimp only [provider]
  obtain ⟨url, hcode⟩ := readCode_redirect hredirects
  constructor
  case coded =>
    intro code hpairs
    rw [lookup_of_firstCode hpairs] at hcode
    obtain ⟨q', hrequest'⟩ := tokenRequest_sendable hrequest (codeForm s code)
    have hredemption := redemption_of_eq_ok (outgoing_eq_ok.mp hrequest').1
    rw [codeToken_of_code hrequest hanswer hcode]
    refine ⟨q', hredemption, ?_, fun d' r' token' hanswer' hgrants => ?_⟩
    · rw [Course.following, token, exchange_calls hrequest']
      rfl
    · rw [token, exchange_of_answers hrequest' hanswer', readToken_of_grants hgrants]
      exact ⟨_, rfl⟩
  case uncoded =>
    intro hpairs
    have hnone : pairs.lookup "code" = none :=
      List.lookup_eq_none_iff.mpr fun p hp => bne_iff_ne.mpr (Ne.symm (hpairs p hp))
    rw [hnone] at hcode
    rw [codeToken_of_error hrequest hanswer hcode]
    exact ⟨rfl, _, _, rfl⟩

end

/-- A code of signs that all mean something somewhere between the two requests. -/
def oddCode : String := "a&b=c+d %2B\x07\u00e9"

/-- What comes with it. -/
def oddPairs : List (String × String) := [("state", "1"), ("code", oddCode), ("code", "x")]

/-- Where the client is sent with it. -/
def oddRedirect : Response := ⟨302, [("location", "x:/cb?" ++ Form.text oddPairs)], []⟩

theorem redirects_odd : Redirects oddRedirect oddPairs := by
  obtain ⟨url, hurl⟩ := exists_eq_ok (x := Url.parse ("x:/cb?" ++ Form.text oddPairs)) (by decide +kernel)
  have hcarries : Url.Carries ("x:/cb?" ++ Form.text oddPairs) oddPairs :=
    ⟨"x:/cb".toList, _, [], by decide +kernel, .inl rfl, by simp, .inl rfl⟩
  exact ⟨rfl, _, url, by decide +kernel, hurl, hcarries⟩

/-- The answer to the request for a token. -/
def grant : Response := ⟨200, [], Text.Utf8.encode "\x7b\"access_token\":\"a\"\x7d".toList⟩

theorem grantsToken_grant : GrantsToken grant "a" :=
  ⟨rfl, (decode_eq_ok fun _ _ => tokenOfSyntax?_eq_some).mp (by decide +kernel)⟩

/-- A zone that gives the code, and the token for it. -/
def oddZone : Transport := fun q => .answers 5 (.ok (if q.method = .get then oddRedirect else grant))

theorem codeToken_redeems_odd : ∃ q, outgoing (authorizeRequest localZone "u") = .ok q ∧
    oddZone.Answers requestTimeout q 5 oddRedirect ∧ Redirects oddRedirect oddPairs ∧
    FirstCode oddPairs oddCode ∧
    Redeems localZone oddZone ((provider oddZone localZone).codeToken "u" .never) q 5 oddPairs ∧
    EndsAt ((provider oddZone localZone).codeToken "u" .never) 10 (.ok "a") := by
  obtain ⟨q, hrequest⟩ := exists_eq_ok (x := outgoing (authorizeRequest localZone "u")) (by decide +kernel)
  obtain ⟨u, -, -, -, hq⟩ := authorizeRequest_eq_ok.mp (outgoing_eq_ok.mp hrequest).1
  have hanswer : oddZone.Answers requestTimeout q 5 oddRedirect := ⟨by rw [hq]; rfl, by decide⟩
  have hcode : FirstCode oddPairs oddCode := ⟨[("state", "1")], [("code", "x")], rfl, by decide⟩
  have hredeems := codeToken_redeems hrequest hanswer redirects_odd .never
  obtain ⟨q', hq', -, hends⟩ := hredeems.coded oddCode hcode
  have hanswer' : oddZone.Answers requestTimeout q' 5 grant := by
    refine ⟨?_, by decide⟩
    rw [oddZone, hq'.method]
    rfl
  exact ⟨q, hrequest, hanswer, redirects_odd, hcode, hredeems, hends 5 grant "a" hanswer' grantsToken_grant⟩

end Checkup.Identity.Client
