import Checkup.Identity.Client
import Checkup.Proofs.Json.Fields

/-!
# What the bodies of responses say

A body says something if its bytes are JSON and the record that they spell has the members that are asked
for, under their names and of their types. Other members make no difference, as long as they are JSON.

Results:
* `ErrorBody.ofSyntax?_eq_some`, `User.ofSyntax?_eq_some` and `tokenOfSyntax?_eq_some`: what is read is what
  the record has under the names.
* `says_iff` and `decode_eq_ok`: so is what is read of a body.
-/
namespace Checkup.Identity.Client

open Json Http

/-! ## Errors -/

/-- The names under which a service tells of an error. -/
def errorNames : List String := ["error", "error_description", "message"]

/-- The record says this of an error; any member may be left out or null. -/
structure ErrorBody.Describes (s : Syntax) (e : ErrorBody) : Prop where
  record : Record errorNames s
  error : HoldsNullable errorNames "error" s e.error
  description : HoldsNullable errorNames "error_description" s e.description
  message : HoldsNullable errorNames "message" s e.message

theorem errorNames_nodup : errorNames.Nodup := by decide

theorem ErrorBody.ofSyntax?_eq_some {s : Syntax} {e : ErrorBody} :
    ErrorBody.ofSyntax? s = some e ↔ e.Describes s := by
  obtain ⟨error, description, message⟩ := e
  simp only [ofSyntax?, Option.bind_eq_bind, Option.bind_eq_some_iff, Option.pure_def, Option.some.injEq,
    ErrorBody.mk.injEq]
  constructor
  · rintro ⟨fields, hfields, _, herror, _, hdescription, _, hmessage, rfl, rfl, rfl⟩
    exact ⟨fields?_iff_record.mp ⟨fields, hfields⟩,
      (optional?_nullable errorNames_nodup hfields (by decide)).mp herror,
      (optional?_nullable errorNames_nodup hfields (by decide)).mp hdescription,
      (optional?_nullable errorNames_nodup hfields (by decide)).mp hmessage⟩
  · rintro ⟨hrecord, herror, hdescription, hmessage⟩
    obtain ⟨fields, hfields⟩ := fields?_iff_record.mpr hrecord
    exact ⟨fields, hfields, _, (optional?_nullable errorNames_nodup hfields (by decide)).mpr herror,
      _, (optional?_nullable errorNames_nodup hfields (by decide)).mpr hdescription,
      _, (optional?_nullable errorNames_nodup hfields (by decide)).mpr hmessage, rfl, rfl, rfl⟩

/-- The body of the response says this of an error. -/
def Says (r : Response) (e : ErrorBody) : Prop :=
  ∃ s, Syntax.parseBytes? r.body = some s ∧ e.Describes s

theorem says_iff {r : Response} {e : ErrorBody} :
    Says r e ↔ (Syntax.parseBytes? r.body).bind ErrorBody.ofSyntax? = some e := by
  simp only [Says, Option.bind_eq_some_iff, ErrorBody.ofSyntax?_eq_some]

/-! ## Users and tokens -/

def userNames : List String := ["id", "userName"]

/-- The record tells of this user; only the name may be left out, and is empty then. -/
structure User.Describes (s : Syntax) (u : User) : Prop where
  record : Record userNames s
  id : HoldsText userNames "id" s u.id
  userName : HoldsText userNames "userName" s u.userName ∨ Lacks userNames "userName" s ∧ u.userName = ""

theorem userNames_nodup : userNames.Nodup := by decide

theorem User.ofSyntax?_eq_some {s : Syntax} {u : User} : User.ofSyntax? s = some u ↔ User.Describes s u := by
  obtain ⟨id, userName⟩ := u
  simp only [User.ofSyntax?, Option.bind_eq_bind, Option.bind_eq_some_iff, Option.pure_def,
    Option.some.injEq, User.mk.injEq]
  constructor
  · rintro ⟨fields, hfields, _, hid, _, hname, rfl, rfl⟩
    exact ⟨fields?_iff_record.mp ⟨fields, hfields⟩, (required?_text userNames_nodup hfields (by decide)).mp hid,
      (optional?_text userNames_nodup hfields (by decide)).mp hname⟩
  · rintro ⟨hrecord, hid, hname⟩
    obtain ⟨fields, hfields⟩ := fields?_iff_record.mpr hrecord
    exact ⟨fields, hfields, _, (required?_text userNames_nodup hfields (by decide)).mpr hid,
      _, (optional?_text userNames_nodup hfields (by decide)).mpr hname, rfl, rfl⟩

def tokenNames : List String := ["access_token"]

theorem tokenNames_nodup : tokenNames.Nodup := by decide

structure GivesToken (s : Syntax) (token : String) : Prop where
  record : Record tokenNames s
  token : HoldsText tokenNames "access_token" s token

theorem tokenOfSyntax?_eq_some {s : Syntax} {token : String} :
    tokenOfSyntax? s = some token ↔ GivesToken s token := by
  simp only [tokenOfSyntax?, Option.bind_eq_bind, Option.bind_eq_some_iff]
  constructor
  · rintro ⟨fields, hfields, htoken⟩
    exact ⟨fields?_iff_record.mp ⟨fields, hfields⟩,
      (required?_text tokenNames_nodup hfields (by decide)).mp htoken⟩
  · rintro ⟨hrecord, htoken⟩
    obtain ⟨fields, hfields⟩ := fields?_iff_record.mpr hrecord
    exact ⟨fields, hfields, (required?_text tokenNames_nodup hfields (by decide)).mpr htoken⟩

/-- The body of the response is read as this value, if it says so. -/
theorem decode_eq_ok {α : Type} {r : Response} {read : Syntax → Option α} {Describes : Syntax → α → Prop}
    (hread : ∀ s v, read s = some v ↔ Describes s v) {v : α} :
    r.decode read = .ok v ↔ ∃ s, Syntax.parseBytes? r.body = some s ∧ Describes s v := by
  have hbind : (Syntax.parseBytes? r.body).bind read = some v ↔
      ∃ s, Syntax.parseBytes? r.body = some s ∧ Describes s v := by
    simp only [Option.bind_eq_some_iff, hread]
  rw [← hbind, Response.decode]
  cases (Syntax.parseBytes? r.body).bind read with
  | none => simp
  | some w => simp

end Checkup.Identity.Client
