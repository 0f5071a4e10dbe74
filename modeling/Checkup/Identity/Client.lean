import Checkup.Http.Exchange
import Checkup.Identity.Basic
import Checkup.Numeric.Power

/-!
# A client of an identity zone

The operations of an identity provider as requests to an OAuth 2 and SCIM service. A status that an
operation does not expect is a failure that tells what the service said about it; only the conflicts
that are named here are tolerated. The client never follows a redirect, since an authorization code is
read from the place where it would lead. Setting the client up is taken to succeed: it fails only on a
machine that can make no secure connection at all.

**Names.** The client is the program's `UaaClient`, with `create_user`, `find_user`, `list_groups`,
`add_group_member`, `authorization_code_token`, `delete_user` and `token`; `expectStatus`, `failureOf` and
`ErrorBody.failure` are its `expect_status`, `error_body` and `into_failure`.
-/
namespace Checkup.Identity.Client

open Json Http

/-- The limit on each request. -/
def requestTimeout : Span := Span.ofSeconds 15

/-! ## What a service answers -/

structure ErrorBody where
  error : Option String
  description : Option String
  message : Option String
  deriving DecidableEq, Repr

namespace ErrorBody

def silent : ErrorBody := ⟨none, none, none⟩

def ofSyntax? (s : Syntax) : Option ErrorBody := do
  let fields ← fields? ["error", "error_description", "message"] s
  let error ← optional? fields "error" none (readNullable? readText?)
  let description ← optional? fields "error_description" none (readNullable? readText?)
  let message ← optional? fields "message" none (readNullable? readText?)
  return ⟨error, description, message⟩

def failure (e : ErrorBody) (status : UInt16) : Failure :=
  let message := (e.error.filter (!·.isEmpty)).getD
    s!"Unexpected status code {Text.natText status.toNat}"
  let detail := e.description.orElse fun _ => e.message
  ⟨message, detail.filter (!·.isEmpty), some status⟩

end ErrorBody

/-- The failure that a response tells of; a body of another shape says nothing. -/
def failureOf (r : Response) : Failure :=
  (((Syntax.parseBytes? r.body).bind ErrorBody.ofSyntax?).getD .silent).failure r.status

/-- Passes a response on if it has the expected status. -/
def expectStatus (status : UInt16) (r : Response) : Except Fault Response :=
  if r.status = status then .ok r else .error (.failure (failureOf r))

/-- The token of an answer. -/
def tokenOfSyntax? (s : Syntax) : Option String := do
  required? (← fields? ["access_token"] s) "access_token" readText?

def User.ofSyntax? (s : Syntax) : Option User := do
  let fields ← fields? ["id", "userName"] s
  return ⟨← required? fields "id" readText?, ← optional? fields "userName" "" readText?⟩

def Group.ofSyntax? (s : Syntax) : Option Group := do
  let fields ← fields? ["id", "displayName"] s
  return ⟨← required? fields "id" readText?, ← optional? fields "displayName" "" readText?⟩

/-- The number of results of a search, and those that are listed. -/
structure Listing (α : Type) where
  total : Nat
  resources : List α

/-- The fields of a listing; its resources go by two names, of which one may be used. -/
def listingFields? : Syntax → Option (List (String × Syntax))
  | .object members => do
    let fields ← fields? ["totalResults", "resources", "Resources"] (.object members)
    let names := fields.map fun f => if f.1 = "Resources" then ("resources", f.2) else f
    if (names.map Prod.fst).Nodup then some names else none
  | s => fields? ["totalResults", "resources"] s

def Listing.ofSyntax? {α : Type} (item : Syntax → Option α) (s : Syntax) : Option (Listing α) := do
  let fields ← listingFields? s
  let total ← optional? fields "totalResults" 0 (readNatural? (2 ^ (64 : Nat) - 1))
  let resources ← optional? fields "resources" [] (readList? item)
  return ⟨total, resources⟩

/-! ## Tokens -/

def address (s : Settings) (path : String) : String := s.authDomain ++ path

def tokenRequest (s : Settings) (form : List (String × String)) : Except Fault Request := do
  let r ← Request.ofText .post (address s "/oauth/token")
  return (r.acceptingJson.withAccount s.clientId s.clientSecret).withForm form

def readToken (r : Response) : Except Fault String := do (← expectStatus 200 r).decode tokenOfSyntax?

def token (t : Transport) (s : Settings) (form : List (String × String)) :
    Timed Request (Except Fault String) :=
  exchange t requestTimeout (tokenRequest s form) readToken

/-! ## Users and groups -/

/-- A request to the administration of the zone. -/
def scimRequest (s : Settings) (method : Method) (path token : String) : Except Fault Request := do
  let r ← Request.ofText method (address s path)
  r.acceptingJson.withToken token

/-- The test user in the form in which it is created. -/
def userJson (user password : String) : Value :=
  .object [
    ("active", .bool true),
    ("emails", .array [.object [("value", .string s!"{user}@example.com")]]),
    ("name", .object [("familyName", .string "User"), ("formatted", .string "Smoke User"),
      ("givenName", .string "Smoke")]),
    ("origin", .string "uaa"),
    ("password", .string password),
    ("schemas", .array [.string "urn:scim:schemas:core:1.0"]),
    ("userName", .string user),
    ("verified", .bool true)]

/-- The membership of a user in the form in which it is created. -/
def memberJson (user : String) : Value :=
  .object [("origin", .string "uaa"), ("type", .string "USER"), ("value", .string user)]

def createRequest (s : Settings) (bearer user password : String) : Except Fault Request := do
  let r ← scimRequest s .post "/Users" bearer
  return r.withJson (userJson user password)

def findRequest (s : Settings) (bearer user : String) : Except Fault Request := do
  let r ← scimRequest s .get "/Users" bearer
  return r.withQuery [("filter", s!"userName eq \"{user}\"")]

def memberRequest (s : Settings) (bearer group user : String) : Except Fault Request := do
  let r ← scimRequest s .post s!"/Groups/{group}/members" bearer
  return r.withJson (memberJson user)

/-- The outcome of a creation; a conflict that is named by its error is tolerated. -/
def readCreation {α : Type} (conflict : String) (created : Response → Except Fault α) (r : Response) :
    Except Fault (Creation α) :=
  if r.status = 201 then (created r).map .created
  else
    let failure := failureOf r
    if r.status = 409 ∧ failure.message = conflict then .ok .existed
    else .error (.failure failure)

/-- The first user that is listed, if the search found any. -/
def readFound (user : String) (r : Response) : Except Fault User := do
  let listing ← (← expectStatus 200 r).decode (Listing.ofSyntax? User.ofSyntax?)
  if listing.total = 0 then
    throw (.failure ⟨"scim_resource_not_found", some s!"User {user} does not exist", some 200⟩)
  match listing.resources with
  | found :: _ => return found
  | [] => throw (.message "User list reported results but returned none")

def readGroups (r : Response) : Except Fault (List Group) := do
  return (← (← expectStatus 200 r).decode (Listing.ofSyntax? Group.ofSyntax?)).resources

/-! ## Authorization codes -/

def authorizeRequest (s : Settings) (userToken : String) : Except Fault Request := do
  let r ← Request.ofText .get (address s "/oauth/authorize")
  return (← r.withToken userToken).withQuery
    [("response_type", "code"), ("client_id", s.clientId), ("redirect_uri", s.redirectUri)]

/-- The code in the place where a response sends the client. -/
def readCode (r : Response) : Except Fault String :=
  if !r.isRedirection then .error (.failure (failureOf r))
  else
    match r.header? "location" with
    | none => .error (.message "Authorization response has no Location header")
    | some location =>
      match Url.parse location with
      | .error e => .error (.context "Invalid redirect location" (.message e.message))
      | .ok url =>
        match url.queryPairs.lookup "code" with
        | some code => .ok code
        | none => .error (.message s!"No authorization code in redirect to {url.text}")

/-- The form that turns a code into a token. -/
def codeForm (s : Settings) (code : String) : List (String × String) :=
  [("grant_type", "authorization_code"), ("code", code), ("redirect_uri", s.redirectUri)]

/-- Asks for a code and then for the token that it stands for. -/
def codeToken (t : Transport) (s : Settings) (userToken : String) :
    Timed Request (Except Fault String) := do
  match ← exchange t requestTimeout (authorizeRequest s userToken) readCode with
  | .error e => return .error e
  | .ok code => token t s (codeForm s code)

/-- The zone as an identity provider. -/
def provider (t : Transport) (s : Settings) : Provider Request where
  clientToken := token t s [("grant_type", "client_credentials")]
  createUser bearer user password :=
    exchange t requestTimeout (createRequest s bearer user password)
      (readCreation "scim_resource_already_exists" (·.decode User.ofSyntax?))
  findUser bearer user :=
    exchange t requestTimeout (findRequest s bearer user) (readFound user)
  listGroups bearer :=
    exchange t requestTimeout (scimRequest s .get "/Groups" bearer) readGroups
  addMember bearer group user :=
    exchange t requestTimeout (memberRequest s bearer group user)
      (readCreation "member_already_exists" fun _ => .ok ())
  passwordToken user password :=
    token t s [("grant_type", "password"), ("username", user), ("password", password)]
  codeToken userToken := codeToken t s userToken
  deleteUser bearer user :=
    exchange t requestTimeout (scimRequest s .delete s!"/Users/{user}" bearer)
      fun r => (expectStatus 200 r).map fun _ => ()

end Checkup.Identity.Client
