import Checkup.Identity.Client
import Checkup.Proofs.Http.Request

/-!
# The requests of a client of an identity zone

Every operation begins with one request to the zone. `Asks` says what that is: its method, its URL, its
headers and its body, whole. It can be built if the address of the zone and the path make a URL of the web,
and if the token that it bears may stand in a header.

Results:
* `tokenRequest_eq_ok`, `scimRequest_eq_ok` and `authorizeRequest_eq_ok`: the three kinds of requests, and
  when they can be built.
* `firstRequest_eq_ok`: the same for every operation.
-/
namespace Checkup.Identity.Client

open Http Http.Request

variable {s : Settings} {bearer : String} {q : Request}

/-- A header that bears this token may stand in a request. -/
def Bearable (bearer : String) : Prop := (s!"Bearer {bearer}").toList.all isHeaderChar = true

theorem tokenRequest_eq_ok {form : List (String × String)} : tokenRequest s form = .ok q ↔
    ∃ u, Url.parse (address s "/oauth/token") = .ok u ∧ IsWeb u ∧
      q = ⟨.post, { u with fragment := none },
        [("accept", "application/json"), ("authorization", credentials s.clientId s.clientSecret),
          ("content-type", "application/x-www-form-urlencoded")], some (Form.text form)⟩ := by
  rw [tokenRequest, bind_pure_eq_ok]
  constructor
  · rintro ⟨r, hr, rfl⟩
    obtain ⟨u, hu, hweb, rfl⟩ := ofText_eq_ok.mp hr
    exact ⟨u, hu, hweb, rfl⟩
  · rintro ⟨u, hu, hweb, rfl⟩
    exact ⟨_, ofText_eq_ok.mpr ⟨u, hu, hweb, rfl⟩, rfl⟩

theorem scimRequest_eq_ok {method : Method} {path : String} : scimRequest s method path bearer = .ok q ↔
    ∃ u, Url.parse (address s path) = .ok u ∧ IsWeb u ∧ Bearable bearer ∧
      q = ⟨method, { u with fragment := none },
        [("accept", "application/json"), ("authorization", s!"Bearer {bearer}")], none⟩ := by
  rw [scimRequest, bind_eq_ok]
  constructor
  · rintro ⟨r, hr, h⟩
    obtain ⟨u, hu, hweb, rfl⟩ := ofText_eq_ok.mp hr
    obtain ⟨hbearer, rfl⟩ := withToken_eq_ok.mp h
    exact ⟨u, hu, hweb, hbearer, rfl⟩
  · rintro ⟨u, hu, hweb, hbearer, rfl⟩
    exact ⟨_, ofText_eq_ok.mpr ⟨u, hu, hweb, rfl⟩, withToken_eq_ok.mpr ⟨hbearer, rfl⟩⟩

/-- What an authorization is asked with. -/
def authorizePairs (s : Settings) : List (String × String) :=
  [("response_type", "code"), ("client_id", s.clientId), ("redirect_uri", s.redirectUri)]

theorem authorizeRequest_eq_ok : authorizeRequest s bearer = .ok q ↔
    ∃ u, Url.parse (address s "/oauth/authorize") = .ok u ∧ IsWeb u ∧ Bearable bearer ∧
      q = ⟨.get, { u with fragment := none }.withPairs (authorizePairs s),
        [("authorization", s!"Bearer {bearer}")], none⟩ := by
  rw [authorizeRequest, bind_eq_ok]
  constructor
  · rintro ⟨r, hr, h⟩
    obtain ⟨u, hu, hweb, rfl⟩ := ofText_eq_ok.mp hr
    obtain ⟨r', hr', h⟩ := bind_eq_ok.mp h
    obtain ⟨hbearer, rfl⟩ := withToken_eq_ok.mp hr'
    exact ⟨u, hu, hweb, hbearer, (Except.ok.inj h).symm⟩
  · rintro ⟨u, hu, hweb, hbearer, rfl⟩
    exact ⟨_, ofText_eq_ok.mpr ⟨u, hu, hweb, rfl⟩,
      bind_eq_ok.mpr ⟨_, withToken_eq_ok.mpr ⟨hbearer, rfl⟩, rfl⟩⟩

theorem createRequest_eq_ok {user password : String} : createRequest s bearer user password = .ok q ↔
    ∃ r, scimRequest s .post "/Users" bearer = .ok r ∧ q = r.withJson (userJson user password) := by
  rw [createRequest, bind_pure_eq_ok]

theorem memberRequest_eq_ok {group user : String} : memberRequest s bearer group user = .ok q ↔
    ∃ r, scimRequest s .post s!"/Groups/{group}/members" bearer = .ok r ∧
      q = r.withJson (memberJson user) := by
  rw [memberRequest, bind_pure_eq_ok]

theorem findRequest_eq_ok {user : String} : findRequest s bearer user = .ok q ↔
    ∃ r, scimRequest s .get "/Users" bearer = .ok r ∧
      q = r.withQuery [("filter", s!"userName eq \"{user}\"")] := by
  rw [findRequest, bind_pure_eq_ok]

/-! ## The first request of an operation -/

/-- The URL of a path in the zone. -/
def Zone (s : Settings) (path : String) (u : Url) : Prop :=
  ∃ v, Url.parse (s.authDomain ++ path) = .ok v ∧ IsWeb v ∧ u = { v with fragment := none }

/-- A request for a token, with a form that tells how it is to be granted. -/
def AsksToken (s : Settings) (form : List (String × String)) (q : Request) : Prop :=
  ∃ u, Zone s "/oauth/token" u ∧ q =
    { method := .post
      url := u
      headers := [("accept", "application/json"), ("authorization", credentials s.clientId s.clientSecret),
        ("content-type", "application/x-www-form-urlencoded")]
      body := some (Form.text form) }

/-- A request of who bears the token, with nothing but an address. -/
def AsksPlain (s : Settings) (bearer : String) (method : Method) (path : String)
    (pairs : List (String × String)) (q : Request) : Prop :=
  Bearable bearer ∧ ∃ u, Zone s path u ∧ q =
    { method := method
      url := if pairs = [] then u else u.withPairs pairs
      headers := [("accept", "application/json"), ("authorization", "Bearer " ++ bearer)]
      body := none }

/-- A request of who bears the token to create what is written in JSON. -/
def AsksCreation (s : Settings) (bearer path : String) (v : Json.Value) (q : Request) : Prop :=
  Bearable bearer ∧ ∃ u, Zone s path u ∧ q =
    { method := .post
      url := u
      headers := [("accept", "application/json"), ("authorization", "Bearer " ++ bearer),
        ("content-type", "application/json")]
      body := some v.text }

/-- The request that an operation begins with. -/
def Asks (s : Settings) : Call → Request → Prop
  | .clientToken => AsksToken s [("grant_type", "client_credentials")]
  | .createUser bearer user password => AsksCreation s bearer "/Users" (userJson user password)
  | .findUser bearer user => AsksPlain s bearer .get "/Users" [("filter", "userName eq \"" ++ user ++ "\"")]
  | .listGroups bearer => AsksPlain s bearer .get "/Groups" []
  | .addMember bearer group user =>
    AsksCreation s bearer ("/Groups/" ++ group ++ "/members") (memberJson user)
  | .passwordToken user password =>
    AsksToken s [("grant_type", "password"), ("username", user), ("password", password)]
  | .codeToken bearer => fun q => Bearable bearer ∧ ∃ u, Zone s "/oauth/authorize" u ∧ q =
    { method := .get
      url := u.withPairs
        [("response_type", "code"), ("client_id", s.clientId), ("redirect_uri", s.redirectUri)]
      headers := [("authorization", "Bearer " ++ bearer)]
      body := none }
  | .deleteUser bearer user => AsksPlain s bearer .delete ("/Users/" ++ user) []

/-- The request of an operation, before it is known whether it can be built. -/
def firstRequest (s : Settings) : Call → Except Fault Request
  | .clientToken => tokenRequest s [("grant_type", "client_credentials")]
  | .createUser bearer user password => createRequest s bearer user password
  | .findUser bearer user => findRequest s bearer user
  | .listGroups bearer => scimRequest s .get "/Groups" bearer
  | .addMember bearer group user => memberRequest s bearer group user
  | .passwordToken user password =>
    tokenRequest s [("grant_type", "password"), ("username", user), ("password", password)]
  | .codeToken bearer => authorizeRequest s bearer
  | .deleteUser bearer user => scimRequest s .delete s!"/Users/{user}" bearer

theorem tokenRequest_iff_asks {form : List (String × String)} :
    tokenRequest s form = .ok q ↔ AsksToken s form q := by
  rw [tokenRequest_eq_ok]
  constructor
  · intro ⟨u, hparse, hweb, hq⟩
    exact ⟨_, ⟨u, hparse, hweb, rfl⟩, hq⟩
  · rintro ⟨_, ⟨u, hparse, hweb, rfl⟩, hq⟩
    exact ⟨u, hparse, hweb, hq⟩

theorem scimRequest_iff_asks {method : Method} {path : String} :
    scimRequest s method path bearer = .ok q ↔ AsksPlain s bearer method path [] q := by
  rw [scimRequest_eq_ok]
  constructor
  · intro ⟨u, hparse, hweb, hbearer, hq⟩
    exact ⟨hbearer, _, ⟨u, hparse, hweb, rfl⟩, hq⟩
  · rintro ⟨hbearer, _, ⟨u, hparse, hweb, rfl⟩, hq⟩
    exact ⟨u, hparse, hweb, hbearer, hq⟩

/-- A request with a JSON body is one without, and that body. -/
theorem scimRequest_withJson {path : String} {v : Json.Value} :
    (∃ r, scimRequest s .post path bearer = .ok r ∧ q = r.withJson v) ↔ AsksCreation s bearer path v q := by
  simp only [scimRequest_iff_asks]
  constructor
  · rintro ⟨_, ⟨hbearer, u, hu, rfl⟩, hq⟩
    exact ⟨hbearer, u, hu, hq⟩
  · intro ⟨hbearer, u, hu, hq⟩
    exact ⟨_, ⟨hbearer, u, hu, rfl⟩, hq⟩

theorem scimRequest_withQuery {path : String} {pair : String × String} :
    (∃ r, scimRequest s .get path bearer = .ok r ∧ q = r.withQuery [pair]) ↔
      AsksPlain s bearer .get path [pair] q := by
  simp only [scimRequest_iff_asks]
  constructor
  · rintro ⟨_, ⟨hbearer, u, hu, rfl⟩, hq⟩
    exact ⟨hbearer, u, hu, hq⟩
  · intro ⟨hbearer, u, hu, hq⟩
    exact ⟨_, ⟨hbearer, u, hu, rfl⟩, hq⟩

theorem authorizeRequest_iff_asks : authorizeRequest s bearer = .ok q ↔ Asks s (.codeToken bearer) q := by
  rw [authorizeRequest_eq_ok]
  constructor
  · intro ⟨u, hparse, hweb, hbearer, hq⟩
    exact ⟨hbearer, _, ⟨u, hparse, hweb, rfl⟩, hq⟩
  · rintro ⟨hbearer, _, ⟨u, hparse, hweb, rfl⟩, hq⟩
    exact ⟨u, hparse, hweb, hbearer, hq⟩

/-- An operation begins with the request that it is to make, and with no other. -/
theorem firstRequest_eq_ok {c : Call} : firstRequest s c = .ok q ↔ Asks s c q := by
  cases c with
  | clientToken | passwordToken => exact tokenRequest_iff_asks
  | createUser => exact createRequest_eq_ok.trans scimRequest_withJson
  | findUser => exact findRequest_eq_ok.trans scimRequest_withQuery
  | listGroups | deleteUser => exact scimRequest_iff_asks
  | addMember => exact memberRequest_eq_ok.trans scimRequest_withJson
  | codeToken => exact authorizeRequest_iff_asks

end Checkup.Identity.Client
