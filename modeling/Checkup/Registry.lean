import Checkup.Config.Basic
import Checkup.FileShare
import Checkup.Identity.Probe
import Checkup.Platform
import Checkup.Presence
import Checkup.Publish.Dashboard

/-!
# The registry

The registry decides which probes make up the battery, and in which order. A service that is not bound
has no probe. One that is bound has its probe whatever its credentials are: if they cannot be used, the
probe says so instead of contacting anyone.

The probes of two mounted volumes may meet in the same directory, so each probe is made for the file
system that those before it leave behind.

**Names.** `bound`, `identity`, `cluster` and `registrations` are the program's `bound`, `identity_probe`,
`kubernetes_probe` and `build_probes`; `harness` and `publisher` are what its `build_state` puts together.
-/
namespace Checkup

/-- A probe of the battery, given the file system that it finds, and what it leaves of that. -/
structure Registration where
  key : String
  name : String
  probe : Files.FileSystem → Probe Call
  leaves : Files.FileSystem → Files.FileSystem

namespace Registration

/-- A probe that has nothing to do with files. -/
def ofProbe (p : Probe Call) : Registration := ⟨p.key, p.name, fun _ => p, id⟩

/-- The probe of a mounted volume. -/
def ofShare (s : FileShare) (timestamp : String) : Registration :=
  ⟨s.key, s.name, s.probe timestamp, s.leaves timestamp⟩

/-- A service whose settings cannot be read. -/
def unusable (key name step error : String) : Registration :=
  .ofProbe (Misconfiguration.probe key name step error)

/-- The probes, each on the file system that those before it leave. -/
def assemble (fs : Files.FileSystem) : List Registration → List (Probe Call)
  | [] => []
  | r :: rest => r.probe fs :: assemble (r.leaves fs) rest

end Registration

namespace Registry

/-- The registration of a service if it is bound. -/
def bound {α : Type} (key name : String) (binding : Option Binding)
    (read : Binding → Except BindingError α) (build : α → Registration) : List Registration :=
  match binding with
  | none => []
  | some b =>
    match read b with
    | .ok settings => [build settings]
    | .error e => [.unusable key name Misconfiguration.readBinding e.message]

/-- The labels of the brokers, which are their keys, and their names. -/
def brokers : List (String × String) :=
  [("p-rabbitmq", "RabbitMQ Shared Cluster"), ("p.rabbitmq", "RabbitMQ On-Demand")]

/-- The labels of the caches, which are their keys, and their names. -/
def caches : List (String × String) :=
  [("p-redis", "Redis Shared Cluster"), ("p.redis", "Redis On-Demand")]

/-- The tags of network file systems and of object stores. -/
def nfsTag : String := "nfs"
def objectStoreTag : String := "s3-bucket"

variable (c : Config) (p : Platform)

def database (label key name : String) (read : Binding → Except BindingError Database.Settings) :
    List Registration :=
  bound key name (c.bindings.withLabel? label) read fun s =>
    .ofProbe ((Database.probe key name s.dialect Database.connectTimeout (p.database s)).mapCalls
      .database)

def broker (label name : String) : List Registration :=
  bound label name (c.bindings.withLabel? label) Broker.Settings.ofBinding fun s =>
    .ofProbe ((Broker.probe label name s Broker.receiveTimeout p.timestamp (p.broker s)).mapCalls
      .broker)

def cache (label name : String) : List Registration :=
  bound label name (c.bindings.withLabel? label) Cache.Settings.ofBinding fun s =>
    .ofProbe ((Cache.probe label name s p.identifier p.timestamp (p.cache s)).mapCalls .cache)

def share (key name : String) (binding : Option Binding) (file : Option String) :
    List Registration :=
  bound key name binding FileShare.mountDirOf fun dir =>
    .ofShare (.ofFileName key name dir file) p.timestamp

def objectStore : List Registration :=
  bound ObjectStore.key ObjectStore.name (c.bindings.withTag? objectStoreTag)
    ObjectStore.Settings.ofBinding fun s =>
      .ofProbe ((ObjectStore.probe p.date (p.objectStore s)).mapCalls .objectStore)

/-- The identity provider, for which the redirect address must be known too. -/
def identity : List Registration :=
  match c.redirectUrl with
  | none => []
  | some url =>
    bound Identity.key Identity.name (c.bindings.withLabel? "p-identity")
      (Identity.Settings.ofBinding · url) fun s =>
        .ofProbe ((Identity.probe (Identity.Client.provider p.web s)).mapCalls .request)

/-- The cluster, whose access file may turn out to be unusable. -/
def cluster : List Registration :=
  match c.cluster with
  | none => []
  | some k =>
    match Cluster.Kubeconfig.load p.files k.kubeconfig k.clusterNamespace with
    | .ok access =>
      [.ofProbe ((Cluster.probe k.settings (p.clusterService access) p.random).mapCalls .cluster)]
    | .error e => [.unusable Cluster.key Cluster.name "Load kubeconfig" e.text]

/-- The volumes that may be mounted: their keys, their names, their bindings and the files there. -/
def shares : List (String × String × Option Binding × Option String) := [
  ("shared-volume", "Shared SMB volume", c.bindings.withLabel? "shared-volume", c.shareFile),
  (FileShare.nfsKey, FileShare.nfsName, c.bindings.withTag? nfsTag, some FileShare.nfsFile)]

/-- The battery that a configuration asks for, in the order in which it runs. -/
def registrations : List Registration :=
  [.ofProbe (Presence.probe c.siteType c.site)]
    ++ database c p "p.mysql" "mySQL" "MySQL" Database.Settings.mySql
    ++ brokers.flatMap (fun b => broker c p b.1 b.2)
    ++ caches.flatMap (fun b => cache c p b.1 b.2)
    ++ database c p "postgres-db" "postgres-db" "Postgres" Database.Settings.postgres
    ++ (shares c).flatMap (fun (key, name, binding, file) => share p key name binding file)
    ++ objectStore c p
    ++ identity c p
    ++ cluster c p

def probes : List (Probe Call) := Registration.assemble p.files (registrations c p)

/-- The file system that the battery leaves behind. -/
def leaves : Files.FileSystem :=
  (registrations c p).foldl (fun fs r => r.leaves fs) p.files

/-- The paths of the files that the battery may read or write, as far as they can be known from what is
known of the file system. -/
def paths (fs : Files.FileSystem) : List String :=
  let volumes := (shares c).filterMap fun (key, name, binding, file) => do
    let dir ← (FileShare.mountDirOf (← binding)).toOption
    (FileShare.ofFileName key name dir file).path?
  let access := match c.cluster with
    | none => []
    | some k =>
      k.kubeconfig :: match Cluster.Kubeconfig.read fs k.kubeconfig with
        | .ok entries => entries.paths
        | .error _ => []
  volumes ++ access

def harness : Harness Call :=
  ⟨probes c p, ⟨c.probeTimeout, Limits.standard.cleanupGrace⟩⟩

def publisher : Publisher Call :=
  match c.dashboardEndpoint with
  | none => .silent
  | some endpoint => fun results =>
    (Dashboard.publisher p.web Dashboard.publishTimeout endpoint results).mapCalls .request

end Registry
end Checkup
