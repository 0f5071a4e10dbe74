import Checkup.Broker
import Checkup.Cache
import Checkup.Cluster.Kubeconfig
import Checkup.Cluster.Reachability
import Checkup.Database
import Checkup.Identity.Client
import Checkup.ObjectStore

/-!
# The platform

All that the probes of a battery contact: the services behind the settings of the bindings, the web, the
mounted volumes, and the clock and the chance that make a run differ from the one before.
-/
namespace Checkup

structure Platform where
  database : Database.Settings → Database.Service
  cache : Cache.Settings → Cache.Service
  broker : Broker.Settings → Broker.Service
  objectStore : ObjectStore.Settings → ObjectStore.Service
  web : Http.Transport
  files : Files.FileSystem
  /-- The seconds since the epoch, in decimal. -/
  timestamp : String
  /-- The date and the time of day. -/
  date : String
  /-- A text that no other run has. -/
  identifier : String
  random : Nat → Nat

inductive Call where
  | database (c : Database.Call)
  | cache (c : Cache.Call)
  | broker (c : Broker.Call)
  | objectStore (c : ObjectStore.Call)
  | request (r : Http.Request)
  | cluster (c : Cluster.Call)

namespace Platform

def isLocal (host : String) : Bool :=
  match Address.readV4? host.toList, Address.readV6? host.toList with
  | some numbers, _ => numbers.head? == some 127 || numbers == [0, 0, 0, 0]
  | _, some groups => groups.dropLast.all (· == 0) && groups.getLast?.any (· < 2)
  | none, none => String.ofList (host.toList.map Char.toLower) == "localhost"

/-- Why a host cannot be reached without a network: on the machine itself nothing listens, and the name of
another one is not even resolved. -/
def unreachable (host : String) : String :=
  let cs := host.toList
  if isLocal host then "Connection refused (os error 111)"
  else if (Address.readV4? cs).isSome || (Address.readV6? cs).isSome then
    "Network is unreachable (os error 101)"
  else "failed to lookup address information: Temporary failure in name resolution"

/-- The reply to every call without a connection. -/
def refused {α : Type} (fault : Fault) : Reply α := .answers 0 (.error fault)

/-- A fault with what is behind it, which it repeats. -/
def repeated (before cause : String) : Fault := .context (before ++ cause) (.message cause)

/-- The host in an address of a service, without brackets; a service without one is on the machine itself. -/
def hostOf (u : Http.Url) : String :=
  match (u.host.getD "").toList.filter fun c => c != '[' && c != ']' with
  | [] => "localhost"
  | host => String.ofList host

/-- Why a database cannot be connected to: its address cannot be read, or its host cannot be reached. -/
def databaseFault (s : Database.Settings) : Fault :=
  let reach (host : String) : Fault :=
    repeated "error communicating with database: " (unreachable host)
  match s.target with
  | .parts host _ _ _ _ => reach host
  | .uri uri =>
    match Http.Url.parse uri with
    | .ok u => reach (hostOf u)
    | .error e =>
      let name := match s.dialect with
        | .postgres => "Postgres"
        | .mySql => "MySQL"
      .context s!"Invalid {name} URI" (repeated "error with configuration: " e.message)

/-- Why a broker cannot be connected to, with the same causes. -/
def brokerFault (s : Broker.Settings) : Fault :=
  repeated "IO error: " <|
    match Http.Url.parse s.uri with
    | .error e => e.message
    | .ok u =>
      if u.host.isNone && u.path.toList.head? != some '/' then s!"Invalid URL: '{s.uri}'"
      else if u.scheme = "amqp" ∨ u.scheme = "amqps" then unreachable (hostOf u)
      else s!"Invalid AMQP scheme: {u.scheme}"

/-- Why an object store cannot be reached. -/
def storeFault (s : ObjectStore.Settings) : Fault :=
  .message <| unreachable <|
    match Http.Url.parse s.endpoint with
    | .ok u => hostOf u
    | .error _ => ""

/-- A machine without a network, on which nothing can be reached but the mounted volumes. -/
def isolated (files : Files.FileSystem) (timestamp date identifier : String) : Platform where
  database s :=
    let fault := databaseFault s
    ⟨refused fault, fun _ => refused fault, refused fault, refused fault⟩
  cache s :=
    let fault := .message (unreachable s.host)
    ⟨refused fault, refused fault, refused fault, refused fault, refused fault⟩
  broker s :=
    let fault := brokerFault s
    { connect := refused fault, openChannel := refused fault, declareQueue := refused fault,
      publish := refused fault, closeChannel := refused fault, disconnect := refused fault,
      listenerOpen := refused fault, consume := refused fault, next := fun _ => refused fault,
      listenerClose := refused fault }
  objectStore s :=
    let fault := storeFault s
    ⟨refused fault, refused fault, refused fault⟩
  web r := refused (.message (unreachable (hostOf r.url)))
  files := files
  timestamp := timestamp
  date := date
  identifier := identifier
  random := randomStream 1

/-- The cluster that can be reached with some access data, and the hosts in front of it. -/
def clusterService (p : Platform) (a : Cluster.Access) : Cluster.Service :=
  Cluster.Client.service p.web a fun _ url => Reachability.reply p.web url

end Platform
end Checkup
