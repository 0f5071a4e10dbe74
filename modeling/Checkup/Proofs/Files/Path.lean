import Checkup.Files.System
import Checkup.Proofs.Guards
import Checkup.Proofs.Text.Split

/-!
# What a path leads to

A path is a list of components: the root, if it is absolute, and then names and steps to the parent.
Repeated slashes and `.` count for nothing, except for a `.` at the front of a relative path. A path is
inside a directory if it begins with the components of the directory and the others never climb above
it.

**Assumptions.** A name leads to an entry of the directory and nowhere else: there are no symbolic links.

Results:
* `components_join`: the components of a path that was put below a directory.
* `inside_join`: such a path is inside the directory exactly if it does not climb above it by itself.
* `locate_of_inside`: a path inside a directory leads below the place to which the directory leads.
-/
namespace Checkup.Files

/-! ## Components -/

inductive Component where
  | root
  | current
  | parent
  | name (s : String)
  deriving DecidableEq, Repr

/-- What a piece behind the front of a path stands for, if for anything. -/
def Component.ofPiece (piece : String) : Option Component :=
  if piece = "." then none else if piece = ".." then some .parent else some (.name piece)

/-- What stands at the front of a path before its names. -/
def front (path : String) : List Component :=
  if isAbsolute path then [.root]
  else if (pieces path).head? = some "." then [.current]
  else []

def components (path : String) : List Component :=
  front path ++ (pieces path).filterMap Component.ofPiece

/-- Components that, so many levels below a directory, never lead above it. -/
def StaysBelow : (depth : Nat) → List Component → Prop
  | _, [] => True
  | _, .root :: _ => False
  | d, .current :: rest => StaysBelow d rest
  | d, .parent :: rest => 0 < d ∧ StaysBelow (d - 1) rest
  | d, .name _ :: rest => StaysBelow (d + 1) rest

/-- The path begins with the components of the directory, and the others never lead above it. -/
def Inside (dir path : String) : Prop :=
  ∃ rest, components path = components dir ++ rest ∧ StaysBelow 0 rest

variable {dir path : String}

/-! ## Paths that are put together -/

theorem isAbsolute_cons {s : String} {c : Char} {cs : List Char} (hs : s.toList = c :: cs) :
    isAbsolute s = (c == '/') := by
  simp [isAbsolute, hs]

theorem pieces_eq (path : String) : pieces path =
    ((Text.splitChars '/' path.toList).map String.ofList).filter (!·.isEmpty) := rfl

theorem pieces_append (front back : String) :
    pieces (front ++ "/" ++ back) = pieces front ++ pieces back := by
  have hsplit : (front ++ "/" ++ back).toList = front.toList ++ '/' :: back.toList := by
    simp [String.toList_append]
  simp only [pieces_eq, hsplit, Text.splitChars_append, List.map_append, List.filter_append]

theorem pieces_empty : pieces "" = [] := by decide

/-- A relative path has a piece, unless it is empty. -/
theorem pieces_ne_nil (hrelative : isAbsolute path = false) (hne : path ≠ "") : pieces path ≠ [] := by
  cases hs : path.toList with
  | nil => exact absurd (String.toList_eq_nil_iff.mp hs) hne
  | cons c cs =>
    have hc : c ≠ '/' := by
      rw [isAbsolute_cons hs] at hrelative
      simpa using hrelative
    rw [pieces_eq, hs, Text.splitChars, if_neg hc]
    split <;> simp

theorem pieces_join (h : isAbsolute path = false) : pieces (join dir path) = pieces dir ++ pieces path := by
  rw [join, if_neg (by simp [h])]
  split
  · rename_i hdir
    by_cases hempty : dir = ""
    · subst hempty
      rw [pieces_empty, String.empty_append, List.nil_append]
    · -- The slash at the end of the directory is the one between the two.
      have hlast : dir.toList.getLast? = some '/' := by simpa [hempty] using hdir
      obtain ⟨cs, hcs⟩ := List.getLast?_eq_some_iff.mp hlast
      have hd : dir = String.ofList cs ++ "/" ++ "" := by
        rw [← String.toList_inj]
        simp [hcs]
      have hsum : dir ++ path = String.ofList cs ++ "/" ++ path := by
        rw [hd]
        simp
      rw [hsum, pieces_append, hd, pieces_append, pieces_empty, List.append_nil]
  · exact pieces_append dir path

theorem isAbsolute_append (hdir : dir ≠ "") (s : String) : isAbsolute (dir ++ s) = isAbsolute dir := by
  cases hcs : dir.toList with
  | nil => exact absurd (String.toList_eq_nil_iff.mp hcs) hdir
  | cons c cs =>
    have happend : (dir ++ s).toList = c :: (cs ++ s.toList) := by rw [String.toList_append, hcs]; rfl
    rw [isAbsolute_cons hcs, isAbsolute_cons happend]

theorem isAbsolute_join (h : isAbsolute path = false) (hdir : dir ≠ "") :
    isAbsolute (join dir path) = isAbsolute dir := by
  rw [join, if_neg (by simp [h])]
  split
  · exact isAbsolute_append hdir path
  · rw [String.append_assoc]
    exact isAbsolute_append hdir _

theorem front_join (h : isAbsolute path = false) (hdir : dir ≠ "") : front (join dir path) = front dir := by
  unfold front
  rw [isAbsolute_join h hdir, pieces_join h]
  by_cases hroot : isAbsolute dir = true
  · rw [if_pos hroot, if_pos hroot]
  · have hpieces := pieces_ne_nil (Bool.eq_false_iff.mpr hroot) hdir
    rw [List.head?_append, List.head?_eq_some_head hpieces, Option.some_or]

/-- The front of a relative path makes no difference behind a directory. -/
theorem staysBelow_components (h : isAbsolute path = false) (d : Nat) :
    StaysBelow d (components path) ↔ StaysBelow d ((pieces path).filterMap Component.ofPiece) := by
  unfold components front
  rw [if_neg (by simp [h])]
  split
  · rfl
  · rfl

/-- The components of the directory come first, and those behind them lead as far up as the path. -/
theorem components_join (dir : String) (h : isAbsolute path = false) :
    ∃ rest, components (join dir path) = components dir ++ rest ∧
      ∀ d, StaysBelow d rest ↔ StaysBelow d (components path) := by
  by_cases hdir : dir = ""
  · subst hdir
    refine ⟨components path, ?_, fun _ => .rfl⟩
    have hjoin : join "" path = path := by simp [join, h]
    have hempty : components "" = [] := by decide
    rw [hjoin, hempty, List.nil_append]
  · refine ⟨(pieces path).filterMap Component.ofPiece, ?_, fun d => (staysBelow_components h d).symm⟩
    rw [components, front_join h hdir, pieces_join h, List.filterMap_append, ← List.append_assoc]
    rfl

/-- A relative path is inside the directory below which it was put if it does not climb by itself. -/
theorem inside_join (dir : String) (h : isAbsolute path = false) :
    Inside dir (join dir path) ↔ StaysBelow 0 (components path) := by
  obtain ⟨rest, hrest, hbelow⟩ := components_join dir h
  unfold Inside
  rw [hrest, ← hbelow 0]
  constructor
  · intro ⟨rest', heq, hrest'⟩
    rwa [List.append_cancel_left heq]
  · intro hrest'
    exact ⟨rest, rfl, hrest'⟩

/-! ## Locations -/

/-- The location to which a component leads. -/
def Component.follow (l : Location) : Component → Location
  | root => []
  | current => l
  | parent => l.dropLast
  | name s => l ++ [s]

/-- The location to which a path leads, as far as its components tell. -/
def FileSystem.locate (fs : FileSystem) (path : String) : Location :=
  (components path).foldl Component.follow fs.workingDirectory

/-- Components that stay below a directory lead to a location below it, however many levels below they
begin. -/
theorem prefix_of_staysBelow {cs : List Component} {l m : Location} (h : StaysBelow m.length cs) :
    l <+: cs.foldl Component.follow (l ++ m) := by
  induction cs generalizing m with
  | nil => exact List.prefix_append l m
  | cons c cs ih =>
    cases c with
    | root => cases h
    | current => exact ih h
    | name s =>
      have hm : StaysBelow (m ++ [s]).length cs := by
        rw [List.length_append]
        exact h
      simpa [Component.follow] using ih hm
    | parent =>
      obtain ⟨hpos, h⟩ := h
      have hm : StaysBelow m.dropLast.length cs := by rwa [List.length_dropLast]
      have hdrop : (l ++ m).dropLast = l ++ m.dropLast :=
        List.dropLast_append_of_ne_nil (List.length_pos_iff.mp hpos)
      rw [List.foldl_cons, Component.follow, hdrop]
      exact ih hm

/-- A path inside a directory leads to a location below the one to which the directory leads. -/
theorem locate_of_inside (fs : FileSystem) (h : Inside dir path) :
    fs.locate dir <+: fs.locate path := by
  obtain ⟨rest, hrest, hbelow⟩ := h
  unfold FileSystem.locate
  rw [hrest, List.foldl_append]
  simpa using prefix_of_staysBelow (m := []) hbelow

/-! ## Where a file is written -/

/-- Behind the front the pieces of a path lead where its components do. -/
theorem foldl_components (fs : FileSystem) (path : String) :
    fs.locate path = ((pieces path).filterMap Component.ofPiece).foldl Component.follow (fs.start path) := by
  unfold FileSystem.locate components front FileSystem.start
  rw [List.foldl_append]
  split
  · rfl
  · split <;> rfl

theorem step_eq_ok {fs : FileSystem} {l l' : Location} {piece : String} {e : Entry}
    (h : fs.step l piece = .ok (l', e)) :
    l' = ([piece].filterMap Component.ofPiece).foldl Component.follow l := by
  unfold FileSystem.step at h
  simp only [List.filterMap_cons, List.filterMap_nil, Component.ofPiece]
  split at h
  · rename_i hcurrent
    cases h
    rw [if_pos hcurrent]
    rfl
  · rename_i hcurrent
    rw [if_neg hcurrent]
    split at h
    · rename_i hparent
      cases h
      rw [if_pos hparent]
      rfl
    · rename_i hparent
      rw [if_neg hparent]
      split at h
      · cases h
      · split at h
        · cases h; rfl
        · cases h

/-- What is not found is looked for by its name. -/
theorem ofPiece_of_notFound {fs : FileSystem} {l : Location} {piece : String}
    (h : fs.step l piece = .error .notFound) : Component.ofPiece piece = some (.name piece) := by
  unfold FileSystem.step at h
  unfold Component.ofPiece
  split at h
  · cases h
  · rename_i hcurrent
    split at h
    · cases h
    · rename_i hparent
      rw [if_neg hcurrent, if_neg hparent]

theorem descend_eq_ok {fs : FileSystem} {l l' : Location} {names : List String}
    (h : fs.descend l names = .ok l') :
    l' = (names.filterMap Component.ofPiece).foldl Component.follow l := by
  induction names generalizing l with
  | nil => cases h; rfl
  | cons piece rest ih =>
    rw [FileSystem.descend] at h
    split at h
    · rename_i l₁ hstep
      have hl₁ := step_eq_ok hstep
      rw [ih h, hl₁, ← List.foldl_append, ← List.filterMap_append]
      rfl
    · cases h
    · cases h

/-- Writing changes nothing but the location to which the path leads. -/
theorem write_eq_ok {fs fs' : FileSystem} {content : String} (h : fs.write path content = .ok fs') :
    fs' = fs ∨ fs' = fs.put (fs.locate path) (.file content) := by
  unfold FileSystem.write at h
  obtain ⟨⟨dir, last⟩, hparent, h⟩ := bind_eq_ok.mp h
  unfold FileSystem.parent at hparent
  obtain ⟨-, -, hparent⟩ := bind_eq_ok.mp hparent
  obtain ⟨dir', hdescend, hparent⟩ := bind_eq_ok.mp hparent
  cases hparent
  dsimp only at h
  cases hlast : (pieces path).getLast? with
  | none => rw [hlast] at h; cases h
  | some piece =>
    have hpieces : (pieces path).dropLast ++ [piece] = pieces path :=
      List.dropLast_append_getLast? piece hlast
    have hlocate : fs.locate path = ([piece].filterMap Component.ofPiece).foldl Component.follow dir := by
      rw [foldl_components, ← hpieces, List.filterMap_append, List.foldl_append,
        ← descend_eq_ok hdescend]
    simp only [hlast] at h
    by_cases hslash : endsWithSlash path = true
    · rw [if_pos hslash] at h
      cases h
    · rw [if_neg hslash] at h
      split at h
      · cases h
      · rename_i l old hstep
        cases h
        rw [hlocate, ← step_eq_ok hstep]
        exact .inr rfl
      · split at h
        · cases h
          exact .inl rfl
        · cases h
      · rename_i hstep
        cases h
        rw [hlocate, List.filterMap_cons_some (ofPiece_of_notFound hstep)]
        exact .inr rfl
      · cases h

theorem entry?_put_of_ne {fs : FileSystem} {l l' : Location} (e : Entry) (h : l' ≠ l) :
    FileSystem.entry? (fs.put l e) l' = fs.entry? l' := by
  have hlookup : ∀ entries : List (Location × Entry),
      (entries.filter (·.1 != l)).lookup l' = entries.lookup l' := by
    intro entries
    induction entries with
    | nil => rfl
    | cons entry entries ih =>
      obtain ⟨k, v⟩ := entry
      by_cases hk : k = l
      · have hne : (l' == k) = false := by simpa [hk] using h
        rw [List.filter_cons_of_neg (by simpa using hk), ih, List.lookup_cons, hne]
      · rw [List.filter_cons_of_pos (by simpa using hk), List.lookup_cons, List.lookup_cons, ih]
  have hne : (l' == l) = false := by simpa using h
  simp only [FileSystem.entry?, FileSystem.put, List.lookup_cons, hne, hlookup]

end Checkup.Files
