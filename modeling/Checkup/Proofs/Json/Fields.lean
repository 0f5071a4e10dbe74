import Checkup.Proofs.Guards
import Checkup.Proofs.Json.Compact
import Checkup.Proofs.Json.Entries

/-!
# What a record says, however it is spelled

`Denotes` is the text that the pieces of a string literal stand for, whichever of its characters are
escaped. `Holds known name s v` says that the record `s` has the field `name`, with the syntax `v`: in an
object under any spelling of that name, in an array at the place of that name. The fields that are read
are the ones that the record holds, and there are some unless a known name is repeated, an item is
surplus or a key is no text.

Results:
* `stringOf?_eq_some`: the text of the pieces is what they denote.
* `lookup_fields?`: what is looked up among the fields is what the record holds.
* `fields?_iff_record`: a well-formed record has fields, and nothing else has.
* `fields?_repeated` and `fields?_surplus`: two ways in which a record is not well-formed.
* `required?_eq_some` and `optional?_eq_some`: what is read of a field, in terms of the record; so
  `required?_text`, `optional?_text` and `optional?_nullable` if the field is a text.
-/
namespace Checkup.Json

/-! ## Texts -/

/-- The text that the pieces of a string literal denote. A code unit is a character of its own, unless it is
a surrogate: a character beyond the first plane is escaped as a pair of these. -/
inductive Denotes : List Piece → List Char → Prop where
  | nil : Denotes [] []
  | char {ps : List Piece} {cs : List Char} (c : Char) : Denotes ps cs →
      Denotes (.char c :: ps) (c :: cs)
  | unit {ps : List Piece} {cs : List Char} {code : Nat} : ¬ (0xD800 ≤ code ∧ code < 0xE000) →
      Denotes ps cs → Denotes (.unit code :: ps) (Char.ofNat code :: cs)
  | pair {ps : List Piece} {cs : List Char} {high low : Nat} {c : Char} :
      0xD800 ≤ high ∧ high < 0xDC00 → 0xDC00 ≤ low ∧ low < 0xE000 →
      c.toNat = 0x10000 + (high - 0xD800) * 0x400 + (low - 0xDC00) → Denotes ps cs →
      Denotes (.unit high :: .unit low :: ps) (c :: cs)

theorem toNat_ofNat {n : Nat} (h : n < 0xD800 ∨ (0xDFFF < n ∧ n < 0x110000)) :
    (Char.ofNat n).toNat = n := by
  rw [Char.ofNat, dif_pos h]
  rfl

/-- Pieces are read as what they denote. -/
theorem textOf?_of_denotes {ps : List Piece} {cs : List Char} (h : Denotes ps cs) :
    textOf? ps = some cs := by
  induction h with
  | nil => rfl
  | char c _ ih => rw [textOf?, ih, Option.map_some]
  | @unit _ _ code hcode _ ih =>
    rw [textOf?.eq_def]
    simp only [show ¬ (0xD800 ≤ code ∧ code < 0xDC00) by omega,
      show ¬ (0xDC00 ≤ code ∧ code < 0xE000) by omega, if_false, ih, Option.map_some]
  | pair hhigh hlow hc _ ih =>
    rw [textOf?, if_pos hhigh]
    simp only [hlow, and_self, if_true, ih, ← hc, Option.map_some, Char.ofNat_toNat]

/-- Pieces denote what they are read as. -/
theorem denotes_of_textOf? {ps : List Piece} {cs : List Char} (h : textOf? ps = some cs) : Denotes ps cs := by
  fun_induction textOf? ps generalizing cs with
  | case1 =>
    cases h
    exact .nil
  | case2 c ps ih =>
    obtain ⟨cs, hcs, rfl⟩ := Option.map_eq_some_iff.mp h
    exact .char c (ih hcs)
  | case3 code hhigh low ps hlow c =>
    rename_i ih
    obtain ⟨cs, hcs, rfl⟩ := Option.map_eq_some_iff.mp h
    exact .pair hhigh hlow (toNat_ofNat (by omega)) (ih hcs)
  | case4 | case5 | case6 => cases h
  | case7 code ps hhigh hlow ih =>
    obtain ⟨cs, hcs, rfl⟩ := Option.map_eq_some_iff.mp h
    exact .unit (by omega) (ih hcs)

theorem stringOf?_eq_some {ps : List Piece} {s : String} : stringOf? ps = some s ↔ Denotes ps s.toList := by
  rw [stringOf?, Option.map_eq_some_iff]
  constructor
  · rintro ⟨cs, hcs, rfl⟩
    rw [String.toList_ofList]
    exact denotes_of_textOf? hcs
  · intro h
    exact ⟨s.toList, textOf?_of_denotes h, String.ofList_toList⟩

theorem Denotes.unique {ps : List Piece} {s s' : String} (h : Denotes ps s.toList)
    (h' : Denotes ps s'.toList) : s = s' :=
  Option.some.inj ((stringOf?_eq_some.mpr h).symm.trans (stringOf?_eq_some.mpr h'))

/-- The syntax is a string literal that denotes the text. -/
def SpellsText (v : Syntax) (text : String) : Prop := ∃ ps, v = .string ps ∧ Denotes ps text.toList

theorem readText?_eq_some {v : Syntax} {text : String} : readText? v = some text ↔ SpellsText v text := by
  cases v <;> simp [readText?, SpellsText, stringOf?_eq_some]

/-! ## Fields -/

/-- The record has the syntax `v` under the name. -/
inductive Holds (known : List String) (name : String) : Syntax → Syntax → Prop where
  | member {ms : List (List Piece × Syntax)} {m : List Piece × Syntax} : m ∈ ms →
      Denotes m.1 name.toList → Holds known name (.object ms) m.2
  | item {items : List Syntax} {i : Nat} {v : Syntax} : known[i]? = some name →
      items[i]? = some v → Holds known name (.array items) v

/-- The record has this text under the name. -/
def HoldsText (known : List String) (name : String) (s : Syntax) (x : String) : Prop :=
  ∃ v, Holds known name s v ∧ SpellsText v x

/-- The record has nothing under the name. -/
def Lacks (known : List String) (name : String) (s : Syntax) : Prop := ∀ v, ¬ Holds known name s v

/-- The record has this text under the name, or nothing or `null` for none. -/
def HoldsNullable (known : List String) (name : String) (s : Syntax) : Option String → Prop
  | some x => HoldsText known name s x
  | none => ∀ v, Holds known name s v → v = .null

/-- The record has the spelling of `x` under the name; or nothing, and `x` is what this stands for. -/
def HoldsOr {α : Type} (known : List String) (name : String) (spells : Syntax → α → Prop) (absent : α)
    (s : Syntax) (x : α) : Prop :=
  (∃ v, Holds known name s v ∧ spells v x) ∨ Lacks known name s ∧ x = absent

/-- An array of the spellings of these. -/
def SpellsList {α : Type} (spells : Syntax → α → Prop) (v : Syntax) (xs : List α) : Prop :=
  ∃ items, v = .array items ∧ List.Forall₂ spells items xs

/-- Both members have one and the same known name. -/
def Repeats (known : List String) (m m' : List Piece × Syntax) : Prop :=
  ∃ name ∈ known, Denotes m.1 name.toList ∧ Denotes m'.1 name.toList

/-- An object whose keys are texts and whose members do not repeat a known name; or an array with no more
items than there are known names. -/
inductive Record (known : List String) : Syntax → Prop where
  | object {ms : List (List Piece × Syntax)} : (∀ m ∈ ms, ∃ key, Denotes m.1 key) →
      ms.Pairwise (fun m m' => ¬ Repeats known m m') → Record known (.object ms)
  | array {items : List Syntax} : items.length ≤ known.length → Record known (.array items)

theorem readList?_eq_some {α : Type} {read : Syntax → Option α} {spells : Syntax → α → Prop}
    (hread : ∀ v x, read v = some x ↔ spells v x) {v : Syntax} {xs : List α} :
    readList? read v = some xs ↔ SpellsList spells v xs := by
  cases v with
  | array items => simp [readList?, SpellsList, mapM_eq_some_iff, hread]
  | _ => simp [readList?, SpellsList]

section
variable {known : List String} {ms : List (List Piece × Syntax)} {entries : List (String × Syntax)}

theorem knownMembers?_cons (m : List Piece × Syntax) :
    knownMembers? known (m :: ms) = (stringOf? m.1).bind fun key =>
      (knownMembers? known ms).map fun entries =>
        if known.contains key then (key, m.2) :: entries else entries := by
  simp only [knownMembers?, List.mapM_cons, Option.bind_eq_bind, Option.pure_def]
  cases stringOf? m.1 with
  | none => rfl
  | some key =>
    cases ms.mapM fun m => (stringOf? m.1).map fun key => (key, m.2) with
    | none => rfl
    | some entries => simp [List.filter_cons]

theorem knownMembers?_cons_eq_some {m : List Piece × Syntax} :
    knownMembers? known (m :: ms) = some entries ↔ ∃ key rest, stringOf? m.1 = some key ∧
      knownMembers? known ms = some rest ∧
        entries = if known.contains key then (key, m.2) :: rest else rest := by
  rw [knownMembers?_cons]
  constructor
  · intro h
    obtain ⟨key, hkey, h⟩ := Option.bind_eq_some_iff.mp h
    obtain ⟨rest, hrest, rfl⟩ := Option.map_eq_some_iff.mp h
    exact ⟨key, rest, hkey, hrest, rfl⟩
  · rintro ⟨key, rest, hkey, hrest, rfl⟩
    rw [hkey, hrest]
    rfl

theorem knownMembers?_of_denotes (h : ∀ m ∈ ms, ∃ key, Denotes m.1 key) :
    ∃ entries, knownMembers? known ms = some entries := by
  induction ms with
  | nil => exact ⟨[], rfl⟩
  | cons m ms ih =>
    obtain ⟨key, hkey⟩ := h m List.mem_cons_self
    obtain ⟨rest, hrest⟩ := ih fun m' hm' => h m' (List.mem_cons_of_mem m hm')
    have htext : stringOf? m.1 = some (String.ofList key) := by
      rw [stringOf?, textOf?_of_denotes hkey, Option.map_some]
    exact ⟨_, knownMembers?_cons_eq_some.mpr ⟨_, rest, htext, hrest, rfl⟩⟩

theorem denotes_of_knownMembers? (h : knownMembers? known ms = some entries) :
    ∀ m ∈ ms, ∃ key, Denotes m.1 key := by
  induction ms generalizing entries with
  | nil => exact nofun
  | cons m ms ih =>
    obtain ⟨key, rest, hkey, hrest, -⟩ := knownMembers?_cons_eq_some.mp h
    exact List.forall_mem_cons.mpr ⟨⟨_, stringOf?_eq_some.mp hkey⟩, ih hrest⟩

theorem mem_knownMembers? (h : knownMembers? known ms = some entries) {name : String} {v : Syntax} :
    (name, v) ∈ entries ↔ name ∈ known ∧ ∃ m ∈ ms, stringOf? m.1 = some name ∧ m.2 = v := by
  induction ms generalizing entries with
  | nil =>
    cases h
    simp
  | cons m ms ih =>
    obtain ⟨key, rest, hkey, hrest, rfl⟩ := knownMembers?_cons_eq_some.mp h
    simp only [List.mem_cons, exists_eq_or_imp, hkey, Option.some.injEq, and_or_left, ← ih hrest]
    by_cases hknown : key ∈ known
    · rw [if_pos (List.elem_eq_true_of_mem hknown), List.mem_cons, Prod.mk.injEq]
      refine or_congr_left ⟨?_, ?_⟩
      · rintro ⟨rfl, rfl⟩
        exact ⟨hknown, rfl, rfl⟩
      · rintro ⟨-, rfl, rfl⟩
        exact ⟨rfl, rfl⟩
    · rw [if_neg fun h => hknown (List.mem_of_elem_eq_true h)]
      refine (or_iff_right ?_).symm
      rintro ⟨hname, rfl, -⟩
      exact hknown hname

theorem map_fst_zip_sublist (names : List String) (items : List Syntax) :
    ((names.zip items).map Prod.fst).Sublist names := by
  induction names generalizing items with
  | nil => simp
  | cons name names ih =>
    cases items with
    | nil => simp
    | cons v items => simpa using ih items

theorem lookup_zip (h : known.Nodup) {items : List Syntax} {name : String} {v : Syntax} :
    (known.zip items).lookup name = some v ↔
      ∃ i : Nat, known[i]? = some name ∧ items[i]? = some v := by
  have hnodup : ((known.zip items).map Prod.fst).Nodup :=
    h.sublist (map_fst_zip_sublist known items)
  simp only [lookup_eq_some_iff_mem hnodup, List.mem_iff_getElem?, List.getElem?_zip_eq_some]

theorem nodup_knownMembers? (h : knownMembers? known ms = some entries) :
    (entries.map Prod.fst).Nodup ↔ ms.Pairwise fun m m' => ¬ Repeats known m m' := by
  induction ms generalizing entries with
  | nil =>
    cases h
    simp
  | cons m ms ih =>
    obtain ⟨key, rest, hkey, hrest, rfl⟩ := knownMembers?_cons_eq_some.mp h
    rw [List.pairwise_cons, ← ih hrest]
    have hname : ∀ name, Denotes m.1 name.toList → name = key := fun name hm =>
      hm.unique (stringOf?_eq_some.mp hkey)
    by_cases hknown : key ∈ known
    · rw [if_pos (List.elem_eq_true_of_mem hknown), List.map_cons, List.nodup_cons]
      refine and_congr_left fun _ => ⟨fun hno m' hm' => ?_, fun hno hmem => ?_⟩
      · rintro ⟨name, -, hm, hdenotes⟩
        obtain rfl := hname name hm
        rw [← stringOf?_eq_some] at hdenotes
        exact hno (List.mem_map.mpr
          ⟨(name, m'.2), (mem_knownMembers? hrest).mpr ⟨hknown, m', hm', hdenotes, rfl⟩, rfl⟩)
      · obtain ⟨⟨_, v⟩, he, rfl⟩ := List.mem_map.mp hmem
        obtain ⟨-, m', hm', hkey', -⟩ := (mem_knownMembers? hrest).mp he
        rw [stringOf?_eq_some] at hkey hkey'
        exact hno m' hm' ⟨_, hknown, hkey, hkey'⟩
    · rw [if_neg fun h => hknown (List.mem_of_elem_eq_true h)]
      refine (and_iff_right fun m' _ => ?_).symm
      rintro ⟨name, hmem, hm, -⟩
      exact hknown (hname name hm ▸ hmem)

/-- A record has fields, and nothing else has. -/
theorem fields?_iff_record {s : Syntax} : (∃ entries, fields? known s = some entries) ↔ Record known s := by
  constructor
  · rintro ⟨entries, h⟩
    unfold fields? at h
    split at h
    case h_1 ms =>
      obtain ⟨entries, hentries, h⟩ := Option.bind_eq_some_iff.mp h
      obtain ⟨hnodup, -⟩ := Option.ite_none_right_eq_some.mp h
      exact .object (denotes_of_knownMembers? hentries) ((nodup_knownMembers? hentries).mp hnodup)
    case h_2 => exact .array (Option.ite_none_right_eq_some.mp h).1
    case h_3 => cases h
  · intro h
    cases h with
    | @object ms hkeys hnodup =>
      obtain ⟨entries, hentries⟩ : ∃ entries, knownMembers? known ms = some entries :=
        knownMembers?_of_denotes hkeys
      refine ⟨entries, ?_⟩
      simp only [fields?, hentries, Option.bind_eq_bind, Option.bind_some,
        if_pos ((nodup_knownMembers? hentries).mpr hnodup)]
    | array hlength => exact ⟨_, if_pos hlength⟩

/-- An object that repeats a known name has no fields. -/
theorem fields?_repeated {m m' : List Piece × Syntax} (h : [m, m'].Sublist ms)
    (hrepeats : Repeats known m m') : fields? known (.object ms) = none := by
  refine Option.eq_none_iff_forall_ne_some.mpr fun entries hentries => ?_
  cases fields?_iff_record.mp ⟨entries, hentries⟩ with
  | object _ hnodup =>
    exact (List.pairwise_cons.mp (hnodup.sublist h)).1 m' List.mem_cons_self hrepeats

/-- An array with more items than there are known names has no fields. -/
theorem fields?_surplus {items : List Syntax} (h : known.length < items.length) :
    fields? known (.array items) = none :=
  if_neg (Nat.not_le.mpr h)

variable (hnames : known.Nodup)
include hnames

/-- An array holds what stands at the place of the name. -/
theorem holds_array {items : List Syntax} {name : String} {v : Syntax} :
    Holds known name (.array items) v ↔ (known.zip items).lookup name = some v := by
  rw [lookup_zip hnames]
  constructor
  · rintro ⟨⟩
    rename_i i hi hv
    exact ⟨i, hi, hv⟩
  · rintro ⟨i, hi, hv⟩
    exact .item hi hv

/-- The fields of a record are looked up under their names. -/
theorem lookup_fields? {s : Syntax} (h : fields? known s = some entries) {name : String}
    (hname : name ∈ known) {v : Syntax} :
    entries.lookup name = some v ↔ Holds known name s v := by
  unfold fields? at h
  split at h
  case h_1 ms =>
    obtain ⟨entries', hentries, h⟩ := Option.bind_eq_some_iff.mp h
    obtain ⟨hnodup, h⟩ := Option.ite_none_right_eq_some.mp h
    cases h
    rw [lookup_eq_some_iff_mem hnodup, mem_knownMembers? hentries]
    simp only [stringOf?_eq_some]
    constructor
    · rintro ⟨-, m, hm, hdenotes, rfl⟩
      exact .member hm hdenotes
    · rintro (⟨hm, hdenotes⟩ | _)
      exact ⟨hname, _, hm, hdenotes, rfl⟩
  case h_2 items =>
    obtain ⟨-, h⟩ := Option.ite_none_right_eq_some.mp h
    cases h
    exact (holds_array hnames).symm
  case h_3 => cases h

section
variable {s : Syntax} (h : fields? known s = some entries) {name : String} (hname : name ∈ known)
include h hname

theorem lookup_eq_none_iff : entries.lookup name = none ↔ Lacks known name s := by
  simp only [Option.eq_none_iff_forall_ne_some, ne_eq, lookup_fields? hnames h hname, Lacks]

theorem required?_eq_some {α : Type} {read : Syntax → Option α} {x : α} :
    required? entries name read = some x ↔ ∃ v, Holds known name s v ∧ read v = some x := by
  simp only [required?, Option.bind_eq_some_iff, lookup_fields? hnames h hname]

/-- A field that may be missing is read if the record holds it. -/
theorem optional?_eq_some {α : Type} {read : Syntax → Option α} {spells : Syntax → α → Prop}
    (hread : ∀ v x, read v = some x ↔ spells v x) {x absent : α} :
    optional? entries name absent read = some x ↔ HoldsOr known name spells absent s x := by
  simp only [optional?, HoldsOr, ← lookup_fields? hnames h hname, ← lookup_eq_none_iff hnames h hname]
  cases entries.lookup name with
  | none => simp [eq_comm]
  | some v => simp [hread]

theorem required?_text {x : String} :
    required? entries name readText? = some x ↔ HoldsText known name s x := by
  simp only [required?_eq_some hnames h hname, readText?_eq_some, HoldsText]

theorem optional?_text {x absent : String} : optional? entries name absent readText? = some x ↔
    HoldsText known name s x ∨ Lacks known name s ∧ x = absent :=
  optional?_eq_some hnames h hname fun _ _ => readText?_eq_some

theorem optional?_nullable {x : Option String} :
    optional? entries name none (readNullable? readText?) = some x ↔ HoldsNullable known name s x := by
  have hnone : HoldsNullable known name s none ↔ ∀ v, entries.lookup name = some v → v = .null := by
    simp only [HoldsNullable, lookup_fields? hnames h hname]
  have hsome : ∀ y, HoldsNullable known name s (some y) ↔
      ∃ v, entries.lookup name = some v ∧ readText? v = some y := by
    simp only [HoldsNullable, HoldsText, lookup_fields? hnames h hname, readText?_eq_some, implies_true]
  rw [optional?]
  cases hlookup : entries.lookup name with
  | none => cases x <;> simp [hnone, hsome, hlookup]
  | some v =>
    dsimp only
    by_cases hnull : v = .null
    · subst hnull
      cases x <;> simp [hnone, hsome, hlookup, readNullable?, readText?]
    · have hread : readNullable? readText? v = (readText? v).map some := by
        unfold readNullable?
        split
        · exact absurd rfl hnull
        · rfl
      cases x <;> simp [hnone, hsome, hlookup, hread, hnull]

end

end

/-! ## Written records -/

section
variable {known : List String} {members : List (String × Value)}

theorem denotes_map_charPiece (cs : List Char) : Denotes (cs.map charPiece) cs := by
  induction cs with
  | nil => exact .nil
  | cons c cs ih =>
    rw [List.map_cons, charPiece]
    split
    · have hunit := Denotes.unit (show ¬ (0xD800 ≤ c.toNat ∧ c.toNat < 0xE000) by omega) ih
      rwa [Char.ofNat_toNat] at hunit
    · exact .char c ih

theorem spelledMembers_eq_map : spelledMembers members =
    members.map fun m => (m.1.toList.map charPiece, m.2.spelled) := by
  induction members with
  | nil => rfl
  | cons m ms ih => rw [spelledMembers, ih, List.map_cons]

/-- The pieces of a string denote it alone. -/
theorem eq_of_denotes_charPiece {s s' : String} (h : Denotes (s.toList.map charPiece) s'.toList) :
    s = s' := by
  have htext := textOf?_of_denotes h
  rw [textOf?_of_denotes (denotes_map_charPiece _)] at htext
  exact String.toList_injective (Option.some.inj htext)

/-- An object that was written holds what was written. -/
theorem holds_spelled {name : String} {s : Syntax} :
    Holds known name (Value.object members).spelled s ↔
      ∃ v, (name, v) ∈ members ∧ s = v.spelled := by
  rw [Value.spelled, spelledMembers_eq_map]
  constructor
  · rintro (⟨hm, hdenotes⟩ | _)
    obtain ⟨⟨key, v⟩, hmem, rfl⟩ := List.mem_map.mp hm
    obtain rfl := eq_of_denotes_charPiece hdenotes
    exact ⟨v, hmem, rfl⟩
  · rintro ⟨v, hmem, rfl⟩
    exact .member (m := (name.toList.map charPiece, v.spelled)) (List.mem_map.mpr ⟨_, hmem, rfl⟩)
      (denotes_map_charPiece _)

/-- An object that was written is a record, if it has no name twice. -/
theorem record_spelled (h : (members.map Prod.fst).Nodup) :
    Record known (Value.object members).spelled := by
  rw [Value.spelled, spelledMembers_eq_map]
  refine .object ?_ ?_
  · intro m hm
    obtain ⟨⟨key, v⟩, -, rfl⟩ := List.mem_map.mp hm
    exact ⟨_, denotes_map_charPiece _⟩
  · rw [List.pairwise_map]
    refine (List.pairwise_map.mp h).imp ?_
    rintro ⟨key, v⟩ ⟨key', v'⟩ hne ⟨name, -, hkey, hkey'⟩
    exact hne ((eq_of_denotes_charPiece hkey).trans (eq_of_denotes_charPiece hkey').symm)

end

end Checkup.Json
