import Checkup.Http.Exchange

/-!
# Reaching a host

The status of a host is that of the response to a request for its root, after the redirects that it
answers with. Its certificate is not looked at, since test hosts often have none that others trust.
Setting the client up is taken to succeed.

**Names.** `status` is that of the program's `HttpsReachability`.
-/
namespace Checkup.Reachability

open Http

def requestTimeout : Span := Span.ofSeconds 5

def status (t : Transport) (url : String) : Timed Request (Except Fault UInt16) := do
  match Request.ofText .get url with
  | .error e => return .error e
  | .ok r => return (← inTime requestTimeout r (follow t maxRedirects r)).map (·.status)

/-- The same as a single reply, for a caller that does not ask what was requested. -/
def reply (t : Transport) (url : String) : Reply UInt16 :=
  match (status t url .never).ending with
  | .returned d _ result => .answers d result
  | .panicked d p => .panics d p
  | .never => .hangs

end Checkup.Reachability
