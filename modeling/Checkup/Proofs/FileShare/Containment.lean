import Checkup.FileShare
import Checkup.Proofs.Files.Path

/-!
# Whether a check stays inside its share

The check of a mounted volume writes one file and reads it back. The file is inside the share exactly if
its name leads below the mount by itself, and then the check leaves everything alone that is not below
the mount. Nothing keeps a name from climbing out of the share or from being absolute, and then the check
may overwrite a file elsewhere and pass.

**Assumptions.** There are no symbolic links. The mount is any text, and so is the name, which must not
be blank.

Results:
* `leaves_outside`: what a check leaves alone.
* `kept_inside_iff`: when the file of a name is inside the share.
* `kept_outside`: two names of which it is not.
-/
namespace Checkup.FileShare

open Files

/-- The name leads below the directory by itself: it is relative and never climbs, or it is absolute and
inside. -/
def LeadsBelow (dir file : String) : Prop :=
  if isAbsolute file then Inside dir file else StaysBelow 0 (components file)

theorem inside_join_iff (dir file : String) : Inside dir (join dir file) ↔ LeadsBelow dir file := by
  unfold LeadsBelow
  by_cases h : isAbsolute file = true
  · have hjoin : join dir file = file := by rw [join, if_pos h]
    rw [hjoin, if_pos h]
  · rw [if_neg h]
    exact inside_join dir (Bool.eq_false_iff.mpr h)

variable {s : FileShare} {path : String} {l : Location}

/-- A check changes nothing, or only what stands where its path leads. -/
theorem leaves_cases (hpath : s.path? = some path) (timestamp : String) (fs : FileSystem) :
    s.leaves timestamp fs = fs ∨
      ∃ content, s.leaves timestamp fs = fs.put (fs.locate path) (.file content) := by
  unfold leaves run
  rw [hpath]
  dsimp only [exercise]
  split
  · exact .inl rfl
  · rename_i fs' hwrite
    exact (write_eq_ok hwrite).imp_right fun h => ⟨_, h⟩

/-- A check whose file is inside the share leaves everything alone that is not below the mount. -/
theorem leaves_outside (hpath : s.path? = some path) (hinside : Inside s.mountDir path)
    (timestamp : String) (fs : FileSystem) (hl : ¬ fs.locate s.mountDir <+: l) :
    FileSystem.entry? (s.leaves timestamp fs) l = fs.entry? l := by
  obtain h | ⟨content, h⟩ := leaves_cases hpath timestamp fs
  · rw [h]
  · have hne : l ≠ fs.locate path := by
      intro heq
      subst heq
      exact hl (locate_of_inside fs hinside)
    rw [h, entry?_put_of_ne _ hne]

theorem path?_ofFileName {key name dir file : String} (hfile : Text.isBlank file = false) :
    (ofFileName key name dir (some file)).path? = some (join dir file) := by
  simp [path?, ofFileName, hfile]

/-- The name that is written to network file systems leads below any mount. -/
theorem inside_nfsFile (dir : String) : Inside dir (join dir nfsFile) := by
  have hrelative : isAbsolute nfsFile = false := by decide
  have hcomponents : components nfsFile = [.name nfsFile] := by decide
  rw [inside_join dir hrelative, hcomponents]
  trivial

/-- The path of a name that is kept is inside the share exactly if the name leads below the mount by itself;
then a check of the share, whenever it runs and whatever file system it finds, leaves everything alone that
is not below the mount. The name that is written to network file systems is such a name. -/
theorem kept_inside_iff (key name dir file : String) (hfile : Text.isBlank file = false) :
    (∃ path, (ofFileName key name dir (some file)).path? = some path ∧
      (Inside dir path ↔ LeadsBelow dir file) ∧
      (Inside dir path → ∀ (timestamp : String) (fs : FileSystem) (l : Location),
        ¬ fs.locate dir <+: l →
          FileSystem.entry? ((ofFileName key name dir (some file)).leaves timestamp fs) l =
            fs.entry? l)) ∧
    Inside dir (join dir nfsFile) := by
  have hpath : (ofFileName key name dir (some file)).path? = some (join dir file) :=
    path?_ofFileName hfile
  refine ⟨⟨_, hpath, inside_join_iff dir file, fun hinside timestamp fs l hl => ?_⟩,
    inside_nfsFile dir⟩
  exact leaves_outside hpath hinside timestamp fs hl

/-- A name that goes down and up again, and an entry beside the share. -/
theorem kept_inside_iff_detour :
    let s := ofFileName "shared-volume" "Shared SMB volume" "/mnt/share" (some "./a/..//smb")
    let fs : FileSystem := ⟨[(["mnt"], .directory), (["mnt", "share"], .directory),
      (["mnt", "share", "a"], .directory), (["mnt", "outside"], .file "precious")], []⟩
    Text.isBlank "./a/..//smb" = false ∧ Inside "/mnt/share" "/mnt/share/./a/..//smb" ∧
      FileSystem.entry? (s.leaves "1700000000" fs) ["mnt", "share", "smb"] = some (.file "test 1700000000") ∧
      FileSystem.entry? (s.leaves "1700000000" fs) ["mnt", "outside"] = some (.file "precious") := by
  intro s fs
  have hfile : Text.isBlank "./a/..//smb" = false := by decide
  obtain ⟨⟨path, hpath, hiff, hleaves⟩, -⟩ :=
    kept_inside_iff "shared-volume" "Shared SMB volume" "/mnt/share" "./a/..//smb" hfile
  have hjoin : join "/mnt/share" "./a/..//smb" = "/mnt/share/./a/..//smb" := by decide
  rw [path?_ofFileName hfile, hjoin] at hpath
  cases hpath
  have hinside : Inside "/mnt/share" "/mnt/share/./a/..//smb" := by
    have hcomponents : components "./a/..//smb" = [.current, .name "a", .parent, .name "smb"] := by decide
    have hrelative : isAbsolute "./a/..//smb" = false := by decide
    rw [hiff, LeadsBelow, hrelative, if_neg Bool.false_ne_true, hcomponents]
    simp [StaysBelow]
  have hmount : ¬ fs.locate "/mnt/share" <+: ["mnt", "outside"] := by decide
  refine ⟨hfile, hinside, by decide, ?_⟩
  rw [hleaves hinside "1700000000" fs _ hmount]
  rfl

/-- A name that climbs out of the share, and an absolute one: the file is beside the share. If one is there,
the check overwrites it and passes. -/
theorem kept_outside :
    let climbing := ofFileName "shared-volume" "Shared SMB volume" "/mnt/share" (some "../outside")
    let absolute := ofFileName "shared-volume" "Shared SMB volume" "/mnt/share" (some "/mnt/outside")
    let fs : FileSystem := ⟨[(["mnt"], .directory), (["mnt", "share"], .directory),
      (["mnt", "outside"], .file "precious")], []⟩
    (climbing.path? = some "/mnt/share/../outside" ∧ absolute.path? = some "/mnt/outside") ∧
    (¬ Inside "/mnt/share" "/mnt/share/../outside" ∧ ¬ Inside "/mnt/share" "/mnt/outside") ∧
    ∀ s ∈ [climbing, absolute],
      ((s.run "1700000000" fs).1.finish s.key s.name).passed = true ∧
      FileSystem.entry? (s.leaves "1700000000" fs) ["mnt", "outside"] = some (.file "test 1700000000") := by
  intro climbing absolute fs
  have hshare : components "/mnt/share" = [.root, .name "mnt", .name "share"] := by decide
  have hclimbing : components "/mnt/share/../outside" =
      [.root, .name "mnt", .name "share", .parent, .name "outside"] := by decide
  have habsolute : components "/mnt/outside" = [.root, .name "mnt", .name "outside"] := by decide
  refine ⟨by decide, ⟨?_, ?_⟩, by decide⟩
  · intro ⟨rest, hrest, hbelow⟩
    rw [hclimbing, hshare] at hrest
    have hrest' : rest = [.parent, .name "outside"] := by simpa using hrest.symm
    rw [hrest'] at hbelow
    exact Nat.lt_irrefl 0 hbelow.1
  · intro ⟨rest, hrest, hbelow⟩
    rw [habsolute, hshare] at hrest
    simp at hrest

end Checkup.FileShare
