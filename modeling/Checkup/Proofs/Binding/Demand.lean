import Checkup.Broker
import Checkup.Cache
import Checkup.Database
import Checkup.FileShare
import Checkup.Identity.Basic
import Checkup.ObjectStore
import Checkup.Proofs.Binding.Port
import Checkup.Proofs.Guards

/-!
# Why a binding is rejected

A reader makes settings out of a binding. What it demands of the binding is a list of credentials, each
of some kind, which it goes through in a fixed order; it rejects the binding for the first of them that
is absent or of no use, and its error names the service and that demand. What a credential holds is not
part of an error, nor is anything of the credentials behind the one that is rejected.

Results:
* `Obeys.bind`: a reader that goes on obeys the demands one after another.
* `obeys_text`, `obeys_port`, `obeys_flag`, `obeys_firstBucket`, `obeys_firstMount`: what each accessor
  demands.
* `error?_eq_some`: all seven readers reject exactly what does not meet their demands, for the first of
  these that is not met.
-/
namespace Checkup.Binding

open Json

/-! ## Demands -/

inductive IsRegion : Option Value → Prop where
  | absent : IsRegion none
  | null : IsRegion (some .null)
  | text (r : String) : IsRegion (some (.string r))

/-- An entry of a list of buckets: an object, or an array with the fields in their order. -/
inductive IsBucket : Value → Prop where
  | object {members : List (String × Value)} {name : String} :
      members.lookup "bucket" = some (.string name) → IsRegion (members.lookup "region") →
      IsBucket (.object members)
  | bare (name : String) : IsBucket (.array [.string name])
  | array {name : String} {region : Value} : IsRegion (some region) →
      IsBucket (.array [.string name, region])

inductive Kind where
  | text
  | port
  | flag
  | buckets
  deriving DecidableEq, Repr

namespace Kind

def expected : Kind → String
  | text => "string"
  | port => "port number"
  | flag => "boolean"
  | buckets => "list of buckets"

/-- Whether a credential of the kind may be absent. -/
def Optional (k : Kind) : Prop := k = flag

inductive Usable : Kind → Value → Prop where
  | text (s : String) : Usable text (.string s)
  | port {v : Value} {n : Nat} : Says v n → n ≤ maxPort → Usable port v
  | bool (x : Bool) : Usable flag (.bool x)
  | spelled {s : String} : s = "true" ∨ s = "false" → Usable flag (.string s)
  | null : Usable flag .null
  | buckets {first : Value} {rest : List Value} : (∀ v ∈ first :: rest, IsBucket v) →
      Usable buckets (.array (first :: rest))

end Kind

inductive Demand where
  | credential (key : String) (kind : Kind)
  | mount
  deriving DecidableEq, Repr

inductive Objection where
  | absent (key : String)
  | unusable (key : String) (kind : Kind)
  | unmounted
  deriving DecidableEq, Repr

/-- The error of an objection against the binding of a service. -/
def Objection.error (service : String) : Objection → BindingError
  | absent key => .missingCredential service key
  | unusable key kind => .invalidCredential service key kind.expected
  | unmounted => .missingVolumeMount service

variable {b : Binding} {d : Demand} {ds : List Demand} {o : Objection} {key : String} {k : Kind}

inductive Fails (b : Binding) : Demand → Objection → Prop where
  | absent {key : String} {k : Kind} : b.credential? key = none → ¬ k.Optional →
      Fails b (.credential key k) (.absent key)
  | unusable {key : String} {k : Kind} {v : Value} : b.credential? key = some v → ¬ k.Usable v →
      Fails b (.credential key k) (.unusable key k)
  | unmounted : b.volumeMounts = [] → Fails b .mount .unmounted

/-- The objection is against the first demand that the binding does not meet. -/
inductive Objects (b : Binding) : List Demand → Objection → Prop where
  | here {d : Demand} {ds : List Demand} {o : Objection} : Fails b d o → Objects b (d :: ds) o
  | later {d : Demand} {ds : List Demand} {o : Objection} : (∀ o', ¬ Fails b d o') → Objects b ds o →
      Objects b (d :: ds) o

theorem fails_credential {v : Value} (hv : b.credential? key = some v) :
    Fails b (.credential key k) o ↔ ¬ k.Usable v ∧ o = .unusable key k := by
  constructor
  · intro h
    cases h with
    | absent hv' => rw [hv] at hv'; cases hv'
    | unusable hv' hbad => rw [hv] at hv'; cases hv'; exact ⟨hbad, rfl⟩
  · intro ⟨hbad, ho⟩
    subst ho
    exact .unusable hv hbad

theorem fails_absent (hv : b.credential? key = none) :
    Fails b (.credential key k) o ↔ ¬ k.Optional ∧ o = .absent key := by
  constructor
  · intro h
    cases h with
    | absent _ hk => exact ⟨hk, rfl⟩
    | unusable hv' => rw [hv] at hv'; cases hv'
  · intro ⟨hk, ho⟩
    subst ho
    exact .absent hv hk

/-! ## Readers that obey their demands -/

/-- The outcome of reading the binding is an error exactly if not all demands are met, and then the one of
the objection to the first that is not. -/
def Obeys {α : Type} (b : Binding) (ds : List Demand) (x : Except BindingError α) : Prop :=
  ∀ e, x = .error e ↔ ∃ o, Objects b ds o ∧ e = o.error b.name

section
variable {α β : Type} {x : Except BindingError α} {f : α → Except BindingError β}

theorem objects_singleton : Objects b [d] o ↔ Fails b d o := by
  constructor
  · intro h
    cases h with
    | here h => exact h
    | later _ h => cases h
  · exact .here

/-- One demand, and what is said where it is not met. -/
theorem obeys_singleton : Obeys b [d] x ↔ ∀ e, x = .error e ↔ ∃ o, Fails b d o ∧ e = o.error b.name := by
  unfold Obeys
  simp only [objects_singleton]

theorem Obeys.ok (v : α) : Obeys b [] (.ok v) := by
  intro e
  constructor
  · exact nofun
  · intro ⟨o, h, _⟩
    cases h

theorem Obeys.bind (hx : Obeys b [d] x) (hf : ∀ v, Obeys b ds (f v)) :
    Obeys b (d :: ds) (x >>= f) := by
  rw [obeys_singleton] at hx
  intro e
  rw [bind_eq_error]
  constructor
  · intro h
    obtain he | ⟨v, hv, he⟩ := h
    · obtain ⟨o, ho, heo⟩ := (hx e).mp he
      exact ⟨o, .here ho, heo⟩
    · obtain ⟨o, ho, heo⟩ := (hf v e).mp he
      have hmet : ∀ o', ¬ Fails b d o' := by
        intro o' ho'
        have herror := (hx _).mpr ⟨o', ho', rfl⟩
        rw [hv] at herror
        cases herror
      exact ⟨o, .later hmet ho, heo⟩
  · intro ⟨o, ho, heo⟩
    cases ho with
    | here hd => exact .inl ((hx e).mpr ⟨o, hd, heo⟩)
    | later hmet ho =>
      cases hv : x with
      | error e' =>
        obtain ⟨o', ho', _⟩ := (hx e').mp hv
        exact absurd ho' (hmet o')
      | ok v => exact .inr ⟨v, rfl, (hf v e).mpr ⟨o, ho, heo⟩⟩

/-- A credential that is there is read if it is of use, and rejected if it is not. -/
theorem obeys_credential {v : Value} (hv : b.credential? key = some v)
    (hgood : k.Usable v → ∃ y, x = .ok y)
    (hbad : ¬ k.Usable v → x = .error (b.invalid key k.expected)) : Obeys b [.credential key k] x := by
  rw [obeys_singleton]
  intro e
  simp only [fails_credential hv]
  by_cases hk : k.Usable v
  · obtain ⟨y, hy⟩ := hgood hk
    simp [hk, hy]
  · simp [hk, hbad hk, Objection.error, invalid, eq_comm]

theorem obeys_missing (hv : b.credential? key = none) (hk : ¬ k.Optional) :
    Obeys b [.credential key k] (.error (b.missing key) : Except BindingError α) := by
  rw [obeys_singleton]
  intro e
  simp only [fails_absent hv, Except.error.injEq]
  constructor
  · intro he
    exact ⟨_, ⟨hk, rfl⟩, he.symm⟩
  · intro ⟨o, ⟨_, ho⟩, he⟩
    subst ho
    exact he.symm

end

/-! ## What each accessor demands -/

theorem obeys_text (b : Binding) (key : String) : Obeys b [.credential key .text] (b.text key) := by
  unfold Binding.text
  cases hv : b.credential? key with
  | none => exact obeys_missing hv nofun
  | some v =>
    refine obeys_credential hv (fun hgood => ?_) fun hbad => ?_
    · cases hgood with
      | text s => exact ⟨s, rfl⟩
    · split
      · rename_i s hs
        cases hs
        exact absurd (.text s) hbad
      · rfl
      · rename_i hnone
        cases hnone

theorem obeys_port (b : Binding) (key : String) : Obeys b [.credential key .port] (b.port key) := by
  cases hv : b.credential? key with
  | none =>
    unfold Binding.port
    rw [hv]
    exact obeys_missing hv nofun
  | some v =>
    refine obeys_credential hv (fun hgood => ?_) fun hbad => ?_
    · cases hgood with
      | port hs hle => exact ⟨_, port_of_some hv (portOf?_eq_some.mpr ⟨hs, hle⟩)⟩
    · cases hport : portOf? v with
      | none => exact port_of_none hv hport
      | some n =>
        obtain ⟨hs, hle⟩ := portOf?_eq_some.mp hport
        exact absurd (.port hs hle) hbad

/-- A flag may be absent. -/
theorem obeys_flag (b : Binding) (key : String) (absent : Bool) :
    Obeys b [.credential key .flag] (b.flag key absent) := by
  unfold Binding.flag
  cases hv : b.credential? key with
  | none => simp [obeys_singleton, fails_absent hv, Kind.Optional]
  | some v =>
    refine obeys_credential hv (fun hgood => ?_) fun hbad => ?_
    · cases hgood with
      | bool x => exact ⟨x, rfl⟩
      | spelled hs => obtain hs | hs := hs <;> subst hs <;> exact ⟨_, rfl⟩
      | null => exact ⟨absent, rfl⟩
    · split
      · rename_i x hx
        cases hx
        exact absurd (.bool x) hbad
      · rename_i hs
        cases hs
        exact absurd (.spelled (.inl rfl)) hbad
      · rename_i hs
        cases hs
        exact absurd (.spelled (.inr rfl)) hbad
      · rename_i hnull
        cases hnull
        exact absurd .null hbad
      · rename_i hnone
        cases hnone
      · rfl

theorem regionOf?_isSome {v : Option Value} : (ObjectStore.regionOf? v).isSome ↔ IsRegion v := by
  unfold ObjectStore.regionOf?
  split
  · simp [IsRegion.absent]
  · simp [IsRegion.null]
  · simp [IsRegion.text]
  · rename_i hnull htext
    refine iff_of_false nofun fun h => ?_
    cases h with
    | null => exact hnull rfl
    | text r => exact htext r rfl

theorem bucketOfJson?_isSome {v : Value} : (ObjectStore.Bucket.ofJson? v).isSome ↔ IsBucket v := by
  have hregion : ∀ (name : String) (region : Option Value),
      (do return ⟨name, ← ObjectStore.regionOf? region⟩ : Option ObjectStore.Bucket).isSome ↔
        IsRegion region := by
    intro name region
    rw [← regionOf?_isSome]
    cases ObjectStore.regionOf? region <;> simp
  unfold ObjectStore.Bucket.ofJson?
  split
  · rename_i members
    split
    · rename_i name hname
      rw [hregion]
      constructor
      · exact .object hname
      · intro h
        cases h with
        | object _ h => exact h
    · rename_i hno
      refine iff_of_false nofun fun h => ?_
      cases h with
      | object hname => exact hno _ hname
  · simp [IsBucket.bare]
  · rename_i name region
    rw [hregion]
    constructor
    · exact .array
    · intro h
      cases h with
      | array h => exact h
  · rename_i hobject hbare harray
    refine iff_of_false nofun fun h => ?_
    cases h with
    | object => exact hobject _ rfl
    | bare name => exact hbare name rfl
    | array => exact harray _ _ rfl

theorem obeys_firstBucket (b : Binding) :
    Obeys b [.credential "buckets" .buckets] (ObjectStore.Settings.firstBucket b) := by
  unfold ObjectStore.Settings.firstBucket
  cases hv : b.credential? "buckets" with
  | none => exact obeys_missing hv nofun
  | some v =>
    refine obeys_credential hv (fun hgood => ?_) fun hbad => ?_
    · cases hgood with
      | @buckets first rest h =>
        have hsome : ((first :: rest).mapM ObjectStore.Bucket.ofJson?).isSome :=
          isSome_mapM.mpr fun item hitem => bucketOfJson?_isSome.mpr (h item hitem)
        obtain ⟨buckets, hbuckets⟩ := Option.isSome_iff_exists.mp hsome
        cases mapM_eq_some_iff.mp hbuckets
        simp only [hbuckets]
        exact ⟨_, rfl⟩
    · split
      · rename_i hnone
        cases hnone
      · rename_i items hitems
        cases hitems
        split
        · rename_i bucket buckets hbuckets
          have hsome : (items.mapM ObjectStore.Bucket.ofJson?).isSome := by rw [hbuckets]; rfl
          have hall := isSome_mapM.mp hsome
          cases mapM_eq_some_iff.mp hbuckets
          exact absurd (.buckets fun item hitem => bucketOfJson?_isSome.mp (hall item hitem)) hbad
        · rfl
      · rfl

theorem obeys_firstMount (b : Binding) : Obeys b [.mount] b.firstMount := by
  rw [obeys_singleton]
  intro e
  unfold Binding.firstMount
  split
  · rename_i m rest hm
    refine iff_of_false nofun ?_
    intro ⟨o, h, _⟩
    cases h with
    | unmounted h => rw [hm] at h; cases h
  · rename_i hm
    constructor
    · intro he
      cases he
      exact ⟨_, .unmounted hm, rfl⟩
    · intro ⟨o, h, he⟩
      cases h
      rw [he]
      rfl

/-! ## The readers -/

/-- The readers of the battery; the settings of an identity provider take its redirect address too. -/
inductive Reader where
  | mySql
  | postgres
  | broker
  | cache
  | objectStore
  | identity (redirectUri : String)
  | volume
  deriving DecidableEq, Repr

namespace Reader

/-- What a reader demands of a binding, in its order. -/
def demands : Reader → List Demand
  | mySql => [.credential "hostname" .text, .credential "port" .port, .credential "name" .text,
      .credential "username" .text, .credential "password" .text]
  | postgres => [.credential "uri" .text]
  | broker => [.credential "uri" .text]
  | cache => [.credential "host" .text, .credential "port" .port]
  | objectStore => [.credential "buckets" .buckets, .credential "endpoint" .text,
      .credential "access_key_id" .text, .credential "secret_access_key" .text,
      .credential "pathStyleAccess" .flag]
  | identity _ => [.credential "auth_domain" .text, .credential "client_id" .text,
      .credential "client_secret" .text]
  | volume => [.mount]

/-- The error of what may have failed. -/
def errorOf? {ε α : Type} : Except ε α → Option ε
  | .ok _ => none
  | .error e => some e

/-- The error with which a reader rejects a binding, if it does. -/
def error? : Reader → Binding → Option BindingError
  | mySql, b => errorOf? (Database.Settings.mySql b)
  | postgres, b => errorOf? (Database.Settings.postgres b)
  | broker, b => errorOf? (Broker.Settings.ofBinding b)
  | cache, b => errorOf? (Cache.Settings.ofBinding b)
  | objectStore, b => errorOf? (ObjectStore.Settings.ofBinding b)
  | identity redirectUri, b => errorOf? (Identity.Settings.ofBinding b redirectUri)
  | volume, b => errorOf? (FileShare.mountDirOf b)

end Reader

theorem errorOf?_eq_some {ε α : Type} {x : Except ε α} {e : ε} :
    Reader.errorOf? x = some e ↔ x = .error e := by
  cases x <;> simp [Reader.errorOf?]

theorem obeys_mySql (b : Binding) : Obeys b Reader.mySql.demands (Database.Settings.mySql b) :=
  (obeys_text b _).bind fun _ => (obeys_port b _).bind fun _ => (obeys_text b _).bind fun _ =>
    (obeys_text b _).bind fun _ => (obeys_text b _).bind fun _ => .ok _

theorem obeys_postgres (b : Binding) :
    Obeys b Reader.postgres.demands (Database.Settings.postgres b) :=
  (obeys_text b _).bind fun _ => .ok _

theorem obeys_broker (b : Binding) : Obeys b Reader.broker.demands (Broker.Settings.ofBinding b) :=
  (obeys_text b _).bind fun _ => .ok _

theorem obeys_cache (b : Binding) : Obeys b Reader.cache.demands (Cache.Settings.ofBinding b) :=
  (obeys_text b _).bind fun _ => (obeys_port b _).bind fun _ => .ok _

theorem obeys_objectStore (b : Binding) :
    Obeys b Reader.objectStore.demands (ObjectStore.Settings.ofBinding b) :=
  (obeys_firstBucket b).bind fun _ => (obeys_text b _).bind fun _ => (obeys_text b _).bind fun _ =>
    (obeys_text b _).bind fun _ => (obeys_flag b _ _).bind fun _ => .ok _

theorem obeys_identity (b : Binding) (redirectUri : String) :
    Obeys b (Reader.identity redirectUri).demands (Identity.Settings.ofBinding b redirectUri) :=
  (obeys_text b _).bind fun _ => (obeys_text b _).bind fun _ => (obeys_text b _).bind fun _ => .ok _

theorem obeys_volume (b : Binding) : Obeys b Reader.volume.demands (FileShare.mountDirOf b) :=
  (obeys_firstMount b).bind fun _ => .ok _

/-- A reader rejects a binding for the first of its demands that is not met, and for no other reason. -/
theorem error?_eq_some {r : Reader} {e : BindingError} :
    r.error? b = some e ↔ ∃ o, Objects b r.demands o ∧ e = o.error b.name := by
  cases r with
  | mySql => exact errorOf?_eq_some.trans (obeys_mySql b e)
  | postgres => exact errorOf?_eq_some.trans (obeys_postgres b e)
  | broker => exact errorOf?_eq_some.trans (obeys_broker b e)
  | cache => exact errorOf?_eq_some.trans (obeys_cache b e)
  | objectStore => exact errorOf?_eq_some.trans (obeys_objectStore b e)
  | identity redirectUri => exact errorOf?_eq_some.trans (obeys_identity b redirectUri e)
  | volume => exact errorOf?_eq_some.trans (obeys_volume b e)

end Checkup.Binding
