import Checkup.Cluster.Client
import Checkup.Cluster.Credential
import Checkup.Files.System
import Checkup.Http.Target
import Checkup.Yaml.Record

/-!
# Access files

An access file names clusters, users and contexts; a context pairs a cluster with a user, and one of the
contexts is the current one. Reading the file may fail, and so may loading what it says: there must be a
current context, the cluster and the user that it names must be described, and what is said of both must
be usable. The documents of one file add to each other, the first description of a name being the one that
counts.

**Names.** `load` is the program's `from_kubeconfig`.
-/
namespace Checkup.Cluster

open Yaml

structure ClusterEntry where
  server : Option String
  authority : Material
  proxy : Option String
  deriving DecidableEq, Repr

structure ContextEntry where
  cluster : String
  user : String
  deriving DecidableEq, Repr

/-- The descriptions in an access file, by their names. -/
structure Kubeconfig where
  clusters : List (String × Option ClusterEntry)
  users : List (String × Option UserEntry)
  contexts : List (String × Option ContextEntry)
  currentContext : Option String
  kind : Option String
  apiVersion : Option String
  deriving DecidableEq, Repr

namespace Kubeconfig

/-- A file that says nothing. -/
def empty : Kubeconfig := ⟨[], [], [], none, none, none⟩

/-! ## Reading -/

/-- A part that must be well-formed and is not looked at. -/
def skipped {α : Type} (read : Option α) : Option Unit := read.map fun _ => ()

/-- An extension: a name, and anything that other notations can tell too. -/
def extension? (v : Value) : Option Unit := do
  let fields ← fields? ["name", "extension"] v
  let _ ← required? fields "name" readText?
  required? fields "extension" fun v => if isPortable v then some () else none

/-- The extensions of a part, which are not looked at. -/
def extensions? (fields : List (String × Value)) : Option Unit :=
  skipped (optional? fields "extensions" (readList? extension?))

/-- Settings that are not looked at. -/
def preferences? (v : Value) : Option Unit := do
  let fields ← fields? ["colors", "extensions"] v
  let _ ← optional? fields "colors" readBool?
  extensions? fields

def clusterOf? (v : Value) : Option ClusterEntry := do
  let fields ← fields? ["server", "insecure-skip-tls-verify", "certificate-authority",
    "certificate-authority-data", "proxy-url", "tls-server-name", "extensions"] v
  let text (name : String) : Option (Option String) := optional? fields name readText?
  let _ ← optional? fields "insecure-skip-tls-verify" readBool?
  let _ ← text "tls-server-name"
  extensions? fields
  let authority : Material :=
    ⟨← text "certificate-authority-data", ← text "certificate-authority"⟩
  return ⟨← text "server", authority, ← text "proxy-url"⟩

def provider? (v : Value) : Option TokenProvider := do
  let fields ← fields? ["name", "config"] v
  let settings ← match fields.lookup "config" with
    | none => some []
    | some v => readTexts? v
  return ⟨← required? fields "name" readText?, settings⟩

/-- When a command that finds tokens may ask its user: the name of a variant, or a tag of that name. -/
def interactiveMode? (v : Value) : Option Unit := do
  let name ← match v with
    | .text s => some s
    | .tagged name v => if v.untagged matches .null then some name else none
    | _ => none
  if ["Never", "IfAvailable", "Always"].contains name then return () else none

def command? (v : Value) : Option TokenCommand := do
  let fields ← fields? ["apiVersion", "command", "args", "env", "interactiveMode",
    "provideClusterInfo"] v
  let _ ← optional? fields "apiVersion" readText?
  let program ← optional? fields "command" readText?
  let _ ← optional? fields "args" (readList? readText?)
  let _ ← optional? fields "env" (readList? readTexts?)
  let _ ← optional? fields "interactiveMode" interactiveMode?
  let _ ← match fields.lookup "provideClusterInfo" with
    | none => some false
    | some v => readBool? v
  return ⟨program⟩

def userOf? (v : Value) : Option UserEntry := do
  let fields ← fields? ["username", "password", "token", "tokenFile", "client-certificate",
    "client-certificate-data", "client-key", "client-key-data", "as", "as-groups", "auth-provider",
    "exec"] v
  let text (name : String) : Option (Option String) := optional? fields name readText?
  let _ ← text "as"
  let _ ← optional? fields "as-groups" (readList? readText?)
  let certificate : Material := ⟨← text "client-certificate-data", ← text "client-certificate"⟩
  let key : Material := ⟨← text "client-key-data", ← text "client-key"⟩
  return ⟨← optional? fields "auth-provider" provider?, ← text "username", ← text "password",
    ← text "token", ← text "tokenFile", ← optional? fields "exec" command?, certificate, key⟩

def contextOf? (v : Value) : Option ContextEntry := do
  let fields ← fields? ["cluster", "user", "namespace", "extensions"] v
  let _ ← optional? fields "namespace" readText?
  extensions? fields
  return ⟨← required? fields "cluster" readText?, ← required? fields "user" readText?⟩

/-- A description with its name, under a key of its own. -/
def named? {α : Type} (key : String) (read : Value → Option α) (v : Value) :
    Option (String × Option α) := do
  let fields ← fields? ["name", key] v
  return (← required? fields "name" readText?, ← optional? fields key read)

/-- The descriptions of one document. -/
def ofValue? (v : Value) : Option Kubeconfig := do
  let fields ← fields? ["preferences", "clusters", "users", "contexts", "current-context",
    "extensions", "kind", "apiVersion"] v
  let text (name : String) : Option (Option String) := optional? fields name readText?
  let list {α : Type} (key inner : String) (read : Value → Option α) :
      Option (List (String × Option α)) := do
    return (← optional? fields key (readList? (named? inner read))).getD []
  let _ ← optional? fields "preferences" preferences?
  extensions? fields
  return ⟨← list "clusters" "cluster" clusterOf?, ← list "users" "user" userOf?,
    ← list "contexts" "context" contextOf?, ← text "current-context", ← text "kind",
    ← text "apiVersion"⟩

/-- Whether two things are not known to differ. -/
def agree (a b : Option String) : Bool := a.isNone || b.isNone || a == b

/-- The descriptions of two documents, which must be of one kind and version. -/
def add? (a b : Kubeconfig) : Option Kubeconfig :=
  if agree a.kind b.kind ∧ agree a.apiVersion b.apiVersion then
    some ⟨a.clusters ++ b.clusters, a.users ++ b.users, a.contexts ++ b.contexts,
      a.currentContext <|> b.currentContext, a.kind <|> b.kind, a.apiVersion <|> b.apiVersion⟩
  else none

/-- The descriptions of a text, which may begin with a mark. -/
def parse? (text : String) : Option Kubeconfig := do
  let values ← Value.parse? (String.ofList (withoutMark text.toList))
  (← values.mapM ofValue?).foldlM add? empty

/-- The descriptions with their paths, which are relative to a directory. -/
def inDirectory (dir : String) (k : Kubeconfig) : Kubeconfig :=
  let place (c : ClusterEntry) : ClusterEntry := { c with authority := c.authority.inDirectory dir }
  { k with
    clusters := k.clusters.map fun e => (e.1, e.2.map place)
    users := k.users.map fun e => (e.1, e.2.map (·.inDirectory dir)) }

def read (fs : Files.FileSystem) (path : String) : Except Fault Kubeconfig :=
  let failed (why : String) : Except Fault Kubeconfig :=
    .error (.context s!"reading kubeconfig {path}" (.message why))
  match fs.read path with
  | .error e => failed e.message
  | .ok text =>
    match parse? text with
    | some k => .ok (k.inDirectory (Files.directory path))
    | none => failed "failed to parse kubeconfig YAML"

/-! ## Loading -/

/-- The fault of a file that was read and cannot be used. -/
def unusable (why : String) : Fault := .context "loading kubeconfig" (.message why)

def find {α : Type} (entries : List (String × Option α)) (name what : String) : Except Fault α :=
  match (entries.lookup name).join with
  | some e => .ok e
  | none => .error (unusable s!"unable to load {what}: {name}")

/-- Whether a text may be the address of a server: the target of a request, in plain characters. -/
def isAddress (text : String) : Bool :=
  text.toList.all (·.toNat < 0x7F) && (Http.Target.parse? text).isSome

/-- The certificates of the authority that certifies a cluster. -/
def roots (fs : Files.FileSystem) (c : ClusterEntry) : Except Fault (List (List UInt8)) := do
  let bytes ← (c.authority.load fs).mapError unusable
  match Certificate.parse? (bytes.getD []) with
  | some certificates => return certificates
  | none => throw (unusable "failed to parse PEM certificates")

/-- How to reach a namespace of the cluster of the current context. -/
def access (k : Kubeconfig) (fs : Files.FileSystem) (clusterNamespace : String) :
    Except Fault Access := do
  let some current := k.currentContext | throw (unusable "current context is not set")
  let context ← find k.contexts current "context"
  let cluster ← find k.clusters context.cluster "cluster of context"
  let user ← find k.users context.user "user"
  let some server := cluster.server | throw (unusable "cluster url is missing")
  if !isAddress server then throw (unusable "cluster url is invalid")
  let certificates ← roots fs cluster
  if cluster.proxy.any fun proxy => !proxy.isEmpty && !isAddress proxy then
    throw (unusable "proxy url is invalid")
  let credential ← (user.credential fs).mapError (·.fault)
  checkRoots certificates
  (user.identity? fs).forM checkIdentity
  return ⟨server, credential, clusterNamespace⟩

/-- How to reach a namespace of the cluster that a file describes. -/
def load (fs : Files.FileSystem) (path clusterNamespace : String) : Except Fault Access := do
  (← read fs path).access fs clusterNamespace

/-- The paths of the other files that the descriptions name. -/
def paths (k : Kubeconfig) : List String :=
  let ofUser (u : UserEntry) : List (Option String) := [u.tokenFile, u.certificate.path, u.key.path]
  let clusters := k.clusters.map fun e => e.2.bind (·.authority.path)
  let users := k.users.flatMap fun e => (e.2.map ofUser).getD []
  (clusters ++ users).filterMap id

end Kubeconfig
end Checkup.Cluster
