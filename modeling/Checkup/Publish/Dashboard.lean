import Checkup.Harness
import Checkup.Http.Exchange
import Checkup.Node.Wire

/-!
# The dashboard

The dashboard takes the results of a run as one request and answers that there is nothing to say. Any
other answer is an error, even one that tells of success.

**Names.** `publisher` is `publish` of the program's `DashboardPublisher`.
-/
namespace Checkup.Dashboard

open Http

def publishTimeout : Span := Span.ofSeconds 10

def request (endpoint : String) (results : List Node) : Except Fault Request := do
  let r ← Request.ofText .post endpoint
  return r.withJson (.array (results.map Node.toJson))

def readResponse (r : Response) : Except PublishError Unit :=
  if r.status = 204 then .ok () else .error (.unexpectedStatus r.status)

/-- The error of a request that got no response. -/
def networkError (e : Fault) : PublishError := .network (e.messages.headD "")

def publisher (t : Transport) (limit : Span) (endpoint : String) : Publisher Request := fun results => do
  match request endpoint results with
  | .error e => return .error (networkError e)
  | .ok r =>
    match ← send t limit r with
    | .error e => return .error (networkError e)
    | .ok response => return readResponse response

end Checkup.Dashboard
