import Checkup.Text.Decimal

/-!
# How publishing fails

The results of a run are published once it is over. That may fail in the ways of `PublishError`, and
changes nothing of the results.
-/
namespace Checkup

inductive PublishError where
  | notConfigured (reason : String)
  | network (detail : String)
  | unexpectedStatus (code : UInt16)
  | serialization (detail : String)
  deriving DecidableEq, Repr

def PublishError.message : PublishError → String
  | notConfigured reason => s!"Publish endpoint not configured: {reason}"
  | network detail => s!"Network error: {detail}"
  | unexpectedStatus code =>
    s!"Received unexpected status code {Text.natText code.toNat} from dashboard"
  | serialization detail => s!"Serialization error: {detail}"

end Checkup
