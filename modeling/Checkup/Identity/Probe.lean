import Checkup.Identity.Basic
import Checkup.Script

/-!
# The check of an identity provider

The script walks through the grants and the administration of users: a token for the client, a test
user, its membership in a group, a token by password and one by authorization code. The first step that
fails ends the script, but a user whose identifier is known is deleted in any case, exactly once and at
the end. A user or a membership left over from an earlier run does no harm; the leaf then shows the
status code of the conflict.

**Names.** `script`, `exercise` and `creationStep` are `run`, `exercise_user` and `create_step` of the
program's `IdentityProbe`.
-/
namespace Checkup.Identity

def key : String := "sso"
def name : String := "Single Sign-On"

def testUser : String := "smokeuser"
def testPassword : String := "smokepassword"

/-- The group that the user is added to. -/
def testGroup : String := "smoketest.extinguish"

/-- The status code that is shown for something that existed already. -/
def conflict : UInt16 := 409

/-- What to record of a creation. -/
def settleCreation {α : Type} (log : StepLog) (label : String) :
    Except Fault (Creation α) → Option (Creation α) × StepLog
  | .ok .existed => (some .existed, log.record ((Node.pass label).withStatusCode conflict))
  | outcome => log.settle label outcome

variable {ε : Type}

/-- A step that creates something or finds that it exists. -/
def creationStep {α : Type} (label : String) (x : Timed ε (Except Fault (Creation α))) :
    Script ε (Creation α) :=
  OptionT.mk fun log => do return settleCreation log label (← x)

/-- The user of a creation; one that existed is looked up. -/
def userOf (p : Provider ε) (token : String) : Creation User → Script ε User
  | .created user => return user
  | .existed => Script.step "Get local user" (p.findUser token testUser)

/-- The steps that need the user. -/
def exercise (p : Provider ε) (token : String) (user : User) : Script ε Unit := do
  let groups ← Script.step "Get local groups/scopes" (p.listGroups token)
  let _ ← match groups.find? (·.displayName == testGroup) with
    | some group => creationStep "Add local user to group" (p.addMember token group.id user.id)
    | none => Script.fail "Add local user to group" s!"Group {testGroup} not found"
  let userToken ← Script.step "Resource owner password credentials grant"
    (p.passwordToken testUser testPassword)
  let _ ← Script.step "Authorization code grant" (p.codeToken userToken)

def script (p : Provider ε) : Script ε Unit := do
  let token ← Script.step "Client credentials grant" p.clientToken
  let creation ← creationStep "Create local user" (p.createUser token testUser testPassword)
  let user ← userOf p token creation
  let _ ← Script.attempt (exercise p token user)
  Script.step "Delete local user" (p.deleteUser token user.id)

def probe (p : Provider ε) : Probe ε := .deaf key name ((script p).node key name)

end Checkup.Identity
