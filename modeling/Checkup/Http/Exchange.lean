import Checkup.Http.Target
import Checkup.Http.Url
import Checkup.Json.Bytes
import Checkup.Json.Printer
import Checkup.Json.Record
import Checkup.Text.Base64
import Checkup.Timed.Basic

/-!
# Requests and responses

A request is built from a URL and the headers and contents that are put into it, and building it may
fail. An `Exchange` sends it and reads the response; a transport says how the other side replies. A
request that gets no response in time has failed like one that could not be sent.
-/
namespace Checkup.Http

inductive Method where
  | get
  | post
  | delete
  deriving DecidableEq, Repr

def Method.text : Method → String
  | get => "GET"
  | post => "POST"
  | delete => "DELETE"

structure Request where
  method : Method
  url : Url
  headers : List (String × String)
  body : Option String
  deriving DecidableEq, Repr

structure Response where
  status : UInt16
  headers : List (String × String)
  body : List UInt8
  deriving DecidableEq, Repr

/-- How the other side replies to requests. -/
def Transport : Type := Request → Reply Response

/-! ## Building requests -/

/-- The fault of a request that could not be built. -/
def builderFault (reason : String) : Fault := .context "builder error" (.message reason)

namespace Request

/-- A request for a URL of the web, without headers and body. -/
def ofText (method : Method) (url : String) : Except Fault Request :=
  match Url.parse url with
  | .error e => .error (builderFault e.message)
  | .ok u =>
    if u.scheme = "http" ∨ u.scheme = "https" then .ok ⟨method, { u with fragment := none }, [], none⟩
    else .error (builderFault "URL scheme is not allowed")

/-- Whether a character may stand in the value of a header. -/
def isHeaderChar (c : Char) : Bool := c == '\t' || (c.toNat ≥ 0x20 && c.toNat != 0x7F)

def withHeader (r : Request) (name value : String) : Except Fault Request :=
  if value.toList.all isHeaderChar then .ok { r with headers := r.headers ++ [(name, value)] }
  else .error (builderFault "failed to parse header value")

def withToken (r : Request) (token : String) : Except Fault Request :=
  r.withHeader "authorization" s!"Bearer {token}"

/-- The name and the password of an account in the form of a header. -/
def credentials (name password : String) : String :=
  "Basic " ++ String.ofList (Text.Base64.encode (Text.Utf8.encode s!"{name}:{password}".toList))

def withAccount (r : Request) (name password : String) : Request :=
  { r with headers := r.headers ++ [("authorization", credentials name password)] }

def acceptingJson (r : Request) : Request :=
  { r with headers := r.headers ++ [("accept", "application/json")] }

/-- The request with pairs added to the query of its URL. -/
def withQuery (r : Request) (pairs : List (String × String)) : Request :=
  { r with url := r.url.withPairs pairs }

def withForm (r : Request) (pairs : List (String × String)) : Request :=
  { r with
    headers := r.headers ++ [("content-type", "application/x-www-form-urlencoded")]
    body := some (Form.text pairs) }

def withJson (r : Request) (v : Json.Value) : Request :=
  { r with headers := r.headers ++ [("content-type", "application/json")], body := some v.text }

end Request

/-! ## Reading responses -/

namespace Response

/-- The first header with a name in lower case, if it is plain text. -/
def header? (r : Response) (name : String) : Option String := do
  let isNamed (h : String × String) : Bool := String.ofList (h.1.toList.map Char.toLower) == name
  let (_, value) ← r.headers.find? isNamed
  let isPlain (c : Char) : Bool := c == '\t' || (c.toNat ≥ 0x20 && c.toNat < 0x7F)
  if value.toList.all isPlain then some value else none

/-- The body in the form that is asked for. -/
def decode {α : Type} (r : Response) (read : Json.Syntax → Option α) : Except Fault α :=
  match (Json.Syntax.parseBytes? r.body).bind read with
  | some v => .ok v
  | none => .error (.message "error decoding response body")

def isRedirection (r : Response) : Bool := 300 ≤ r.status && r.status < 400

end Response

/-! ## Exchanges -/

/-- The fault of a request that got no response. -/
def sendingFault (r : Request) (cause : Fault) : Fault :=
  .context s!"error sending request for url ({r.url.text})" cause

/-- The fault of a response that did not come in time. -/
def timedOut : Fault := .message "operation timed out"

/-- Whether a URL in its written form may stand in a request. -/
def isSendable (u : Url) : Bool := (Target.parse? u.text).isSome

/-- The fault of a request for a URL that may not stand in one. -/
def targetFault (r : Request) : Fault :=
  .context s!"builder error for url ({r.url.text})" (.message "Parsed Url is not a valid Uri")

/-- Sends a request and waits for its response, however long that takes. -/
def sendPatiently (transport : Transport) (r : Request) : Timed Request (Except Fault Response) := do
  if isSendable r.url then
    return (← Timed.call r (transport r)).mapError (sendingFault r)
  else return .error (targetFault r)

/-- Something that is done for a request, with a limit on its time. -/
def inTime {α : Type} (limit : Span) (r : Request) (x : Timed Request (Except Fault α)) :
    Timed Request (Except Fault α) := do
  match ← Timed.within limit x with
  | some outcome => return outcome
  | none => return .error (sendingFault r timedOut)

def send (transport : Transport) (limit : Span) (r : Request) : Timed Request (Except Fault Response) :=
  inTime limit r (sendPatiently transport r)

/-- Sends a request, if it could be built, and reads the response. -/
def exchange {α : Type} (transport : Transport) (limit : Span) (request : Except Fault Request)
    (read : Response → Except Fault α) : Timed Request (Except Fault α) := do
  match request with
  | .error e => return .error e
  | .ok r => return (← send transport limit r).bind read

/-- How many times a client goes where it is sent. -/
def maxRedirects : Nat := 10

/-- The statuses that send a client elsewhere. -/
def redirectStatuses : List UInt16 := [301, 302, 303, 307, 308]

/-- The request for the place where a response sends the client. -/
def redirected? (r : Request) (response : Response) : Option Request := do
  guard (redirectStatuses.contains response.status)
  let location ← response.header? "location"
  let url ← (Url.read (some r.url) location).toOption
  guard (isSendable url)
  let keeps := r.method = .get ∨ response.status = 307 ∨ response.status = 308
  return if keeps then { r with url := { url with fragment := none } }
    else { r with method := .get, url := { url with fragment := none }, body := none }

/-- Sends a request and goes where the responses send it, a number of times at most. -/
def follow (transport : Transport) : (left : Nat) → Request → Timed Request (Except Fault Response)
  | left, r => do
    match ← sendPatiently transport r with
    | .error e => return .error e
    | .ok response =>
      match left, redirected? r response with
      | _, none => return .ok response
      | 0, some _ => return .error (sendingFault r (.message "too many redirects"))
      | left + 1, some r => follow transport left r

end Checkup.Http
