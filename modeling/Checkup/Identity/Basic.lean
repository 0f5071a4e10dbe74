import Checkup.Binding.Basic
import Checkup.Text.Quoted
import Checkup.Text.Split
import Checkup.Timed.Basic

/-!
# Identity providers

An identity provider gives tokens to clients and users and keeps users and groups. A `Provider` says how
each of its operations goes in time; what an operation calls outside is up to the provider.

**Names.** A provider is the program's `IdentityApi`, and a creation its `Created`.
-/
namespace Checkup.Identity

structure Settings where
  authDomain : String
  clientId : String
  clientSecret : String
  /-- The address that the client registered for the code grant. -/
  redirectUri : String
  deriving DecidableEq, Repr

namespace Settings

/-- The settings that a binding gives, with the redirect address of the battery. -/
def ofBinding (b : Binding) (redirectUri : String) : Except BindingError Settings := do
  let authDomain ← b.text "auth_domain"
  let clientId ← b.text "client_id"
  let clientSecret ← b.text "client_secret"
  return ⟨Text.withoutTrailing '/' authDomain, clientId, clientSecret, redirectUri⟩

/-- A text that tells no secret. -/
def summary (s : Settings) : String :=
  Text.summary "IdentitySettings" [("auth_domain", Text.quoted s.authDomain),
    ("client_id", Text.quoted s.clientId), ("redirect_uri", Text.quoted s.redirectUri)] false

end Settings

structure User where
  id : String
  userName : String
  deriving DecidableEq, Repr

/-- A group of users, which is also a scope. -/
structure Group where
  id : String
  displayName : String
  deriving DecidableEq, Repr

inductive Creation (α : Type) where
  | created (value : α)
  | existed
  deriving DecidableEq, Repr

structure Provider (ε : Type) where
  /-- A token for the client itself. -/
  clientToken : Timed ε (Except Fault String)
  createUser : (token user password : String) → Timed ε (Except Fault (Creation User))
  findUser : (token user : String) → Timed ε (Except Fault User)
  listGroups : (token : String) → Timed ε (Except Fault (List Group))
  addMember : (token group user : String) → Timed ε (Except Fault (Creation Unit))
  /-- A token for a user, given the password. -/
  passwordToken : (user password : String) → Timed ε (Except Fault String)
  /-- A token by way of an authorization code, given a token of the user who authorizes. -/
  codeToken : (userToken : String) → Timed ε (Except Fault String)
  deleteUser : (token user : String) → Timed ε (Except Fault Unit)

inductive Call where
  | clientToken
  | createUser (token user password : String)
  | findUser (token user : String)
  | listGroups (token : String)
  | addMember (token group user : String)
  | passwordToken (user password : String)
  | codeToken (userToken : String)
  | deleteUser (token user : String)
  deriving DecidableEq, Repr

/-- How a provider replies, whatever the arguments. -/
structure Service where
  clientToken : Reply String
  createUser : Reply (Creation User)
  findUser : Reply User
  listGroups : Reply (List Group)
  addMember : Reply (Creation Unit)
  passwordToken : Reply String
  codeToken : Reply String
  deleteUser : Reply Unit

/-- The provider that replies like a service. -/
def Service.provider (s : Service) : Provider Call where
  clientToken := Timed.call .clientToken s.clientToken
  createUser token user password := Timed.call (.createUser token user password) s.createUser
  findUser token user := Timed.call (.findUser token user) s.findUser
  listGroups token := Timed.call (.listGroups token) s.listGroups
  addMember token group user := Timed.call (.addMember token group user) s.addMember
  passwordToken user password := Timed.call (.passwordToken user password) s.passwordToken
  codeToken userToken := Timed.call (.codeToken userToken) s.codeToken
  deleteUser token user := Timed.call (.deleteUser token user) s.deleteUser

end Checkup.Identity
