import Checkup.Binding.Document
import Checkup.Proofs.Json.Meaning

/-!
# What a record says of a binding

`Binding.Describes s b` says that the syntax `s` is a record of the binding `b`. It has a name. A label, tags,
credentials and volume mounts that it lacks are empty, and whatever it has of them must be well-formed. The
credentials are any object, and keep the nesting that the document leaves them: three of its 127 levels are
open around them.

Results:
* `VolumeMount.ofSyntax?_eq_some` and `Binding.ofSyntax?_eq_some`: what is read of syntax is what the syntax
  describes, and nothing is read of any other syntax.
-/
namespace Checkup

open Json

/-- The record says where a volume is mounted, and how unless it does not tell. -/
structure VolumeMount.Describes (s : Syntax) (m : VolumeMount) : Prop where
  record : Record ["container_dir", "mode"] s
  dir : HoldsText ["container_dir", "mode"] "container_dir" s m.containerDir
  mode : HoldsNullable ["container_dir", "mode"] "mode" s m.mode

/-- The syntax means an object with these members. -/
def SpellsCredentials (v : Syntax) (members : List (String × Value)) : Prop :=
  Means 124 v (.object members)

structure Binding.Describes (s : Syntax) (b : Binding) : Prop where
  record : Record Binding.fieldNames s
  name : HoldsText Binding.fieldNames "name" s b.name
  label : HoldsOr Binding.fieldNames "label" SpellsText "" s b.label
  tags : HoldsOr Binding.fieldNames "tags" (SpellsList SpellsText) [] s b.tags
  credentials : HoldsOr Binding.fieldNames "credentials" SpellsCredentials [] s b.credentials
  volumeMounts :
    HoldsOr Binding.fieldNames "volume_mounts" (SpellsList VolumeMount.Describes) [] s b.volumeMounts

theorem VolumeMount.ofSyntax?_eq_some {s : Syntax} {m : VolumeMount} :
    VolumeMount.ofSyntax? s = some m ↔ VolumeMount.Describes s m := by
  have hnames : ["container_dir", "mode"].Nodup := by decide
  simp only [VolumeMount.ofSyntax?, Option.bind_eq_bind, Option.bind_eq_some_iff, Option.pure_def,
    Option.some.injEq]
  constructor
  · rintro ⟨fields, hfields, dir, hdir, mode, hmode, rfl⟩
    rw [required?_text hnames hfields (by decide)] at hdir
    rw [optional?_nullable hnames hfields (by decide)] at hmode
    exact ⟨fields?_iff_record.mp ⟨fields, hfields⟩, hdir, hmode⟩
  · intro ⟨hrecord, hdir, hmode⟩
    obtain ⟨fields, hfields⟩ := fields?_iff_record.mpr hrecord
    rw [← required?_text hnames hfields (by decide)] at hdir
    rw [← optional?_nullable hnames hfields (by decide)] at hmode
    exact ⟨fields, hfields, _, hdir, _, hmode, rfl⟩

theorem readEntries?_eq_some {v : Syntax} {members : List (String × Value)} :
    readEntries? Binding.credentialNesting v = some members ↔ SpellsCredentials v members := by
  rw [SpellsCredentials, ← value_eq_some, readEntries?]
  have hnesting : Binding.credentialNesting = 124 := rfl
  rw [hnesting]
  cases Value.ofSyntax? 124 v with
  | none => exact ⟨nofun, nofun⟩
  | some w => cases w <;> simp

namespace Binding

theorem fieldNames_nodup : fieldNames.Nodup := by decide

theorem readTags?_eq_some {v : Syntax} {tags : List String} :
    readList? readText? v = some tags ↔ SpellsList SpellsText v tags :=
  readList?_eq_some fun _ _ => readText?_eq_some

theorem readMounts?_eq_some {v : Syntax} {mounts : List VolumeMount} :
    readList? VolumeMount.ofSyntax? v = some mounts ↔ SpellsList VolumeMount.Describes v mounts :=
  readList?_eq_some fun _ _ => VolumeMount.ofSyntax?_eq_some

theorem ofSyntax?_eq_some {s : Syntax} {b : Binding} : ofSyntax? s = some b ↔ Describes s b := by
  have hread {fields : List (String × Syntax)} (hfields : fields? fieldNames s = some fields) :
      (required? fields "name" readText? = some b.name ↔ HoldsText fieldNames "name" s b.name) ∧
      (optional? fields "label" "" readText? = some b.label ↔
        HoldsOr fieldNames "label" SpellsText "" s b.label) ∧
      (optional? fields "tags" [] (readList? readText?) = some b.tags ↔
        HoldsOr fieldNames "tags" (SpellsList SpellsText) [] s b.tags) ∧
      (optional? fields "credentials" [] (readEntries? credentialNesting) = some b.credentials ↔
        HoldsOr fieldNames "credentials" SpellsCredentials [] s b.credentials) ∧
      (optional? fields "volume_mounts" [] (readList? VolumeMount.ofSyntax?) = some b.volumeMounts ↔
        HoldsOr fieldNames "volume_mounts" (SpellsList VolumeMount.Describes) [] s b.volumeMounts) :=
    ⟨required?_text fieldNames_nodup hfields (by decide),
      optional?_text fieldNames_nodup hfields (by decide),
      optional?_eq_some fieldNames_nodup hfields (by decide) fun _ _ => readTags?_eq_some,
      optional?_eq_some fieldNames_nodup hfields (by decide) fun _ _ => readEntries?_eq_some,
      optional?_eq_some fieldNames_nodup hfields (by decide) fun _ _ => readMounts?_eq_some⟩
  simp only [ofSyntax?, Option.bind_eq_bind, Option.bind_eq_some_iff, Option.pure_def, Option.some.injEq]
  constructor
  · rintro ⟨fields, hfields, name, hname, label, hlabel, tags, htags, credentials, hcredentials, mounts,
      hmounts, rfl⟩
    obtain ⟨hname', hlabel', htags', hcredentials', hmounts'⟩ := hread hfields
    exact ⟨fields?_iff_record.mp ⟨fields, hfields⟩, hname'.mp hname, hlabel'.mp hlabel, htags'.mp htags,
      hcredentials'.mp hcredentials, hmounts'.mp hmounts⟩
  · intro h
    obtain ⟨fields, hfields⟩ := fields?_iff_record.mpr h.record
    obtain ⟨hname, hlabel, htags, hcredentials, hmounts⟩ := hread hfields
    exact ⟨fields, hfields, _, hname.mpr h.name, _, hlabel.mpr h.label, _, htags.mpr h.tags, _,
      hcredentials.mpr h.credentials, _, hmounts.mpr h.volumeMounts, rfl⟩

end Binding
end Checkup
