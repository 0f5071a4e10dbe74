import Checkup.Binding.Basic
import Checkup.Script
import Checkup.Text.Quoted

/-!
# The check of an object store

The script uploads an object, downloads it and deletes it. Once the upload succeeded the object is
deleted even if it could not be downloaded.

**Names.** The script is `run` of the program's `ObjectStoreProbe`.
-/
namespace Checkup.ObjectStore

structure Settings where
  endpoint : String
  accessKeyId : String
  secretAccessKey : String
  bucket : String
  region : String
  pathStyle : Bool
  deriving DecidableEq, Repr

structure Bucket where
  name : String
  region : Option String
  deriving DecidableEq, Repr

open Json in
/-- A region may be absent or null. -/
def regionOf? : Option Value → Option (Option String)
  | none => some none
  | some .null => some none
  | some (.string r) => some (some r)
  | some _ => none

open Json in
/-- An entry, as an object or with its fields in order. -/
def Bucket.ofJson? : Value → Option Bucket
  | .object members => do
    let some (.string name) := members.lookup "bucket" | none
    return ⟨name, ← regionOf? (members.lookup "region")⟩
  | .array [.string name] => some ⟨name, none⟩
  | .array [.string name, region] => do return ⟨name, ← regionOf? (some region)⟩
  | _ => none

namespace Settings

/-- The region of a bucket that names none. -/
def defaultRegion : String := "us-east-1"

/-- The first bucket of the list, which must be well-formed as a whole. -/
def firstBucket (b : Binding) : Except BindingError Bucket :=
  match b.credential? "buckets" with
  | none => .error (b.missing "buckets")
  | some (.array items) =>
    match items.mapM Bucket.ofJson? with
    | some (bucket :: _) => .ok bucket
    | _ => .error (b.invalid "buckets" "list of buckets")
  | some _ => .error (b.invalid "buckets" "list of buckets")

def ofBinding (b : Binding) : Except BindingError Settings := do
  let bucket ← firstBucket b
  let endpoint ← b.text "endpoint"
  let accessKeyId ← b.text "access_key_id"
  let secretAccessKey ← b.text "secret_access_key"
  let region := (bucket.region.filter (!·.isEmpty)).getD defaultRegion
  let pathStyle ← b.flag "pathStyleAccess" false
  return ⟨endpoint, accessKeyId, secretAccessKey, bucket.name, region, pathStyle⟩

/-- A text that tells no secret. -/
def summary (s : Settings) : String :=
  Text.summary "ObjectStoreSettings" [("endpoint", Text.quoted s.endpoint),
    ("bucket", Text.quoted s.bucket), ("region", Text.quoted s.region),
    ("path_style", if s.pathStyle then "true" else "false")] false

end Settings

inductive Call where
  | put (key body : String)
  | get (key : String)
  | delete (key : String)
  deriving DecidableEq, Repr

structure Service where
  put : Reply Unit
  get : Reply String
  delete : Reply Unit

def key : String := "s3"
def name : String := "S3"

/-- The key of the object that is written. -/
def objectKey : String := "s3testfile"

/-- The object that was downloaded must be the one that was uploaded. -/
def checkBody (body : String) : Except Fault String → Except Fault Unit
  | .ok b =>
    if b = body then .ok ()
    else .error (.message "Downloaded content differs from uploaded content")
  | .error e => .error e

/-- The whole script, for a body that is new in each run. -/
def script (body : String) (store : Service) : Script Call Unit := do
  Script.step "Upload object" (Timed.call (.put objectKey body) store.put)
  let _ ← Script.attempt
    (Script.step "Download object" (checkBody body <$> Timed.call (.get objectKey) store.get))
  Script.step "Delete object" (Timed.call (.delete objectKey) store.delete)

/-- The body of a run at a date. -/
def bodyAt (date : String) : String := s!"smoketest {date}"

/-- The probe of an object store, for a run at a date. -/
def probe (date : String) (store : Service) : Probe Call :=
  .deaf key name ((script (bodyAt date) store).node key name)

end Checkup.ObjectStore
