import Checkup.Probe

/-!
# Probes that contact nobody

The presence probe always passes: that it ran shows that the battery is up, and its name tells the site.
The misconfiguration probe stands for a service that is bound but whose settings cannot be read; it
always fails and says why.

**Names.** The two are the program's `MeProbe` and `MisconfiguredProbe`.
-/
namespace Checkup

namespace Presence

def key : String := "me"

/-- The kind of site and the site, if both are known. -/
def name (siteType site : Option String) : String :=
  match siteType, site with
  | some t, some s => if t.isEmpty || s.isEmpty then "Me" else s!"{t}\n[{s}]"
  | _, _ => "Me"

/-- The probe of the battery itself. -/
def probe {ε : Type} (siteType site : Option String) : Probe ε :=
  let name := name siteType site
  .deaf key name (pure ((Node.pass name).withKey key))

end Presence

namespace Misconfiguration

/-- The step that reports an unusable binding. -/
def readBinding : String := "Read service binding"

/-- The node of a service whose settings cannot be read. -/
def node (key name step error : String) : Node := Node.aggregate key name [Node.fail step error]

/-- The probe of such a service. -/
def probe {ε : Type} (key name step error : String) : Probe ε :=
  .deaf key name (pure (node key name step error))

end Misconfiguration
end Checkup
