import Checkup.Proofs.Guards
import Checkup.Proofs.Json.Fields
import Checkup.Proofs.Node.RoundTrip

/-!
# What a document says of a result tree

`Describes n s t` says that the syntax `s` says the tree `t`, with no more than `n` levels of nodes. Each node
is a record of its own: an object with the fields in any order and with any other members between them,
or an array with the fields in the order of their names. A detail that a node lacks is not there or
`null`, and so for an empty list of children, which is not there or empty. The one thing that a spelling
costs is nesting: a list of children that is written takes a level, also if it is empty.

Results:
* `Scalars.ofSyntax?_childless` and `Scalars.ofSyntax?_children`: one step of reading a node, from its
  details and the list of its children.
* `ofSyntax?_of_describes` and `ofSyntax?_of_defective`: what is said is read, and a defect anywhere is an
  error, by induction over the levels and over the place of the defect.
* `parse?_spelling`: both of them, for texts.
* `parse?_emptyList`: a text that says a tree of height 64, and has a level too many for an empty list.
-/
namespace Checkup.Node

open Json

/-- The syntax is the decimal spelling of the code. -/
def SpellsCode (v : Syntax) (code : UInt16) : Prop :=
  v = .number ⟨false, Text.decimal code.toNat, none, none⟩

/-- What a record says of a detail: its value; or nothing but `null`, if there is none. -/
def SpellsDetail {α : Type} (spells : Syntax → α → Prop) (s : Syntax) (name : String) :
    Option α → Prop
  | some a => ∃ v, Holds fieldNames name s v ∧ spells v a
  | none => ∀ v, Holds fieldNames name s v → v = .null

/-- What a record says of a node, apart from its children. -/
structure Scalars (s : Syntax) (t : Node) : Prop where
  record : Record fieldNames s
  key : SpellsDetail SpellsText s "key" t.key
  name : ∃ v, Holds fieldNames "name" s v ∧ SpellsText v t.name
  passed : Holds fieldNames "result" s (.bool t.passed)
  error : SpellsDetail SpellsText s "error" t.error
  errorDetail : SpellsDetail SpellsText s "errorDescription" t.errorDetail
  statusCode : SpellsDetail SpellsCode s "statusCode" t.statusCode

/-- The syntax says the tree, in the given number of levels. -/
def Describes : Nat → Syntax → Node → Prop
  | 0, _, _ => False
  | n + 1, s, t => Scalars s t ∧
      ((t.children = [] ∧ ∀ v, ¬ Holds fieldNames "results" s v) ∨
        ∃ items, Holds fieldNames "results" s (.array items) ∧ 0 < n ∧
          List.Forall₂ (Describes n) items t.children)

/-- A node of the document repeats a field, lacks its name or its flag, has `null` for the list of its
children or has a surplus item. -/
inductive Defective : Syntax → Prop where
  | repeated {ms : List (List Piece × Syntax)} {m m' : List Piece × Syntax} : [m, m'].Sublist ms →
      Repeats fieldNames m m' → Defective (.object ms)
  | lacking {s : Syntax} {name : String} : name = "name" ∨ name = "result" →
      (∀ v, ¬ Holds fieldNames name s v) → Defective s
  | nullList {s : Syntax} : Holds fieldNames "results" s .null → Defective s
  | surplus {items : List Syntax} : fieldNames.length < items.length → Defective (.array items)
  | child {s item : Syntax} {items : List Syntax} : Holds fieldNames "results" s (.array items) →
      item ∈ items → Defective item → Defective s

theorem fieldNames_nodup : fieldNames.Nodup := by decide

/-! ## Details -/

section
variable {s : Syntax} {fields : List (String × Syntax)} {name : String}

theorem lookup_eq_none (hs : fields? fieldNames s = some fields) (hname : name ∈ fieldNames)
    (h : ∀ v, ¬ Holds fieldNames name s v) : fields.lookup name = none := by
  rw [Option.eq_none_iff_forall_ne_some]
  intro v hv
  exact h v ((lookup_fields? fieldNames_nodup hs hname).mp hv)

theorem readNatural?_of_spells {v : Syntax} {code : UInt16} (h : SpellsCode v code) :
    readNatural? 65535 v = some code.toNat := by
  obtain rfl := h
  have hcode := code.toNat_lt
  exact readNatural?_spelled (by omega) (by omega)

/-- A detail is read as the record says it. -/
theorem optional?_of_spells {α β : Type} {spells : Syntax → α → Prop} {read : Syntax → Option β}
    {f : α → β} {o : Option α} (hs : fields? fieldNames s = some fields) (hname : name ∈ fieldNames)
    (h : SpellsDetail spells s name o) (hread : ∀ v a, spells v a → read v = some (f a))
    (hnull : ∀ a, ¬ spells .null a) :
    optional? fields name none (readNullable? read) = some (o.map f) := by
  cases o with
  | none =>
    cases hv : fields.lookup name with
    | none => simp [optional?, hv]
    | some v =>
      obtain rfl := h v ((lookup_fields? fieldNames_nodup hs hname).mp hv)
      simp [optional?, hv, readNullable?]
  | some a =>
    obtain ⟨v, hv, ha⟩ := h
    rw [optional?, (lookup_fields? fieldNames_nodup hs hname).mpr hv]
    have hsome : readNullable? read v = (read v).map some := by
      unfold readNullable?
      split
      case h_1 => exact (hnull a ha).elim
      case h_2 => rfl
    simp [hsome, hread v a ha]

end

theorem not_spellsText_null (text : String) : ¬ SpellsText .null text := by
  rintro ⟨ps, h, -⟩
  cases h

theorem not_spellsCode_null (code : UInt16) : ¬ SpellsCode .null code := nofun

/-! ## One node -/

section
variable {s : Syntax} {t : Node} (h : Scalars s t)
include h

/-- The details of a node are read, and what is left is the list of its children. -/
theorem Scalars.ofSyntax?_eq (budget : Nat) :
    ∃ fields, fields? fieldNames s = some fields ∧ ofSyntax? (budget + 1) s =
      (optional? fields "results" [] fun s =>
        match budget with
        | 0 => none
        | budget + 1 => readList? (ofSyntax? budget) s).map fun us => { t with children := us } := by
  obtain ⟨fields, hs⟩ := fields?_iff_record.mpr h.record
  refine ⟨fields, hs, ?_⟩
  have htext : ∀ {name : String} {o : Option String}, name ∈ fieldNames →
      SpellsDetail SpellsText s name o →
        optional? fields name none (readNullable? readText?) = some o := fun hname hdetail => by
    have hread := optional?_of_spells hs hname hdetail (fun _ _ => readText?_eq_some.mpr)
      not_spellsText_null
    rwa [Option.map_id'] at hread
  have hkey := htext (by decide) h.key
  have herror := htext (by decide) h.error
  have hdetail := htext (by decide) h.errorDetail
  have hcode := optional?_of_spells hs (by decide) h.statusCode
    (fun _ _ => readNatural?_of_spells) not_spellsCode_null
  have hname : required? fields "name" readText? = some t.name := by
    obtain ⟨v, hv, htext⟩ := h.name
    rw [required?, (lookup_fields? fieldNames_nodup hs (by decide)).mpr hv]
    exact readText?_eq_some.mpr htext
  have hpassed : required? fields "result" readBool? = some t.passed := by
    rw [required?, (lookup_fields? fieldNames_nodup hs (by decide)).mpr h.passed]
    rfl
  have hback : (t.statusCode.map UInt16.toNat).map UInt16.ofNat = t.statusCode := by
    cases t.statusCode <;> simp
  simp only [ofSyntax?, hs, hkey, hname, hpassed, herror, hdetail, hcode, hback,
    Option.bind_eq_bind, Option.bind_some]
  exact Option.map_eq_bind.symm

/-- A node without a list of children is childless. -/
theorem Scalars.ofSyntax?_childless (hc : t.children = [])
    (habsent : ∀ v, ¬ Holds fieldNames "results" s v) (budget : Nat) :
    ofSyntax? (budget + 1) s = some t := by
  obtain ⟨fields, hs, hread⟩ := h.ofSyntax?_eq budget
  rw [hread, optional?, lookup_eq_none hs (by decide) habsent, Option.map_some, ← hc]
  cases t
  rfl

/-- The list of children takes a level of nesting, and then they are read one by one. -/
theorem Scalars.ofSyntax?_children {items : List Syntax}
    (hitems : Holds fieldNames "results" s (.array items)) (budget : Nat) :
    ofSyntax? 1 s = none ∧ ofSyntax? (budget + 2) s =
      (items.mapM (ofSyntax? budget)).map fun us => { t with children := us } := by
  refine ⟨?_, ?_⟩
  · obtain ⟨fields, hs, hread⟩ := h.ofSyntax?_eq 0
    rw [hread, optional?, (lookup_fields? fieldNames_nodup hs (by decide)).mpr hitems]
    rfl
  · obtain ⟨fields, hs, hread⟩ := h.ofSyntax?_eq (budget + 1)
    rw [hread, optional?, (lookup_fields? fieldNames_nodup hs (by decide)).mpr hitems]
    rfl

end

/-! ## Trees -/

theorem forall₂_imp {α β : Type} {R S : α → β → Prop} {l : List α} {bs : List β}
    (h : List.Forall₂ R l bs) (hS : ∀ a ∈ l, ∀ b ∈ bs, R a b → S a b) : List.Forall₂ S l bs := by
  induction h with
  | nil => exact .nil
  | cons hab _ ih =>
    exact .cons (hS _ List.mem_cons_self _ List.mem_cons_self hab)
      (ih fun a ha b hb => hS a (List.mem_cons_of_mem _ ha) b (List.mem_cons_of_mem _ hb))

/-- What is said in `n` levels of nodes is read with the levels of nesting that these may take. -/
theorem ofSyntax?_of_describes {n : Nat} {s : Syntax} {t : Node} (h : Describes n s t) {budget : Nat}
    (hbudget : 2 * n ≤ budget + 1) : ofSyntax? budget s = some t := by
  induction n generalizing s t budget with
  | zero => exact h.elim
  | succ n ih =>
    obtain ⟨hscalars, ⟨hc, habsent⟩ | ⟨items, hitems, hn, hchildren⟩⟩ := h
    · obtain ⟨budget, rfl⟩ : ∃ b, budget = b + 1 := ⟨budget - 1, by omega⟩
      exact hscalars.ofSyntax?_childless hc habsent budget
    · obtain ⟨budget, rfl⟩ : ∃ b, budget = b + 2 := ⟨budget - 2, by omega⟩
      have hread : items.mapM (ofSyntax? budget) = some t.children :=
        mapM_eq_some_iff.mpr (forall₂_imp hchildren fun _ _ _ _ hu => ih hu (by omega))
      rw [(hscalars.ofSyntax?_children hitems budget).2, hread, Option.map_some]
      cases t
      rfl

/-- What takes more than `n` levels is refused with the levels of nesting for these. -/
theorem ofSyntax?_of_not_describes {n m : Nat} {s : Syntax} {t : Node} (h : Describes m s t)
    (hn : ¬ Describes n s t) {budget : Nat} (hbudget : budget ≤ 2 * n - 1) :
    ofSyntax? budget s = none := by
  induction m generalizing n s t budget with
  | zero => exact h.elim
  | succ m ih =>
    obtain ⟨hscalars, ⟨hc, habsent⟩ | ⟨items, hitems, -, hchildren⟩⟩ := h
    · cases n with
      | zero =>
        obtain rfl : budget = 0 := by omega
        rfl
      | succ n => exact absurd ⟨hscalars, .inl ⟨hc, habsent⟩⟩ hn
    · match budget with
      | 0 => rfl
      | 1 => exact (hscalars.ofSyntax?_children hitems 0).1
      | budget + 2 =>
        obtain ⟨n, rfl⟩ : ∃ k, n = k + 1 := ⟨n - 1, by omega⟩
        have hno : ¬ List.Forall₂ (Describes n) items t.children := fun hall =>
          hn ⟨hscalars, .inr ⟨items, hitems, by omega, hall⟩⟩
        have hnone : items.mapM (ofSyntax? budget) = none := by
          refine Classical.byContradiction fun hsome => hno ?_
          refine forall₂_imp hchildren fun item hitem u _ hu => ?_
          refine Classical.byContradiction fun hu' => hsome ?_
          exact mapM_eq_none hitem (ih hu hu' (by omega))
        rw [(hscalars.ofSyntax?_children hitems budget).2, hnone]
        rfl

/-- If the tree is lower than the levels allow, it does not matter where empty lists are written. -/
theorem Describes.of_height {n m : Nat} {s : Syntax} {t : Node} (h : Describes n s t)
    (hm : t.height < m) : Describes m s t := by
  induction n generalizing s t m with
  | zero => exact h.elim
  | succ n ih =>
    obtain ⟨m, rfl⟩ : ∃ k, m = k + 1 := ⟨m - 1, by omega⟩
    obtain ⟨hscalars, ⟨hc, habsent⟩ | ⟨items, hitems, -, hchildren⟩⟩ := h
    · exact ⟨hscalars, .inl ⟨hc, habsent⟩⟩
    · have hheight := height_eq t
      refine ⟨hscalars, .inr ⟨items, hitems, by omega, forall₂_imp hchildren fun _ _ u hu hitem => ?_⟩⟩
      have hlt := height_lt_of_mem hu
      exact ih hitem (by omega)

theorem ofSyntax?_of_fields {s : Syntax} (h : fields? fieldNames s = none) (budget : Nat) :
    ofSyntax? budget s = none := by
  cases budget with
  | zero => rfl
  | succ budget => simp [ofSyntax?, h]

/-- A document with a defect is no tree. -/
theorem ofSyntax?_of_defective {s : Syntax} (h : Defective s) (budget : Nat) :
    ofSyntax? budget s = none := by
  induction h generalizing budget with
  | repeated hms hrepeats =>
    exact ofSyntax?_of_fields (fields?_repeated hms hrepeats) budget
  | surplus hlength => exact ofSyntax?_of_fields (fields?_surplus hlength) budget
  | lacking hname habsent =>
    rw [Option.eq_none_iff_forall_ne_some]
    intro t ht
    obtain ⟨b, fields, -, hs, hread, hflag, -⟩ := record_of_ofSyntax? ht
    rcases hname with rfl | rfl
    · rw [required?, lookup_eq_none hs (by decide) habsent] at hread
      cases hread
    · rw [required?, lookup_eq_none hs (by decide) habsent] at hflag
      cases hflag
  | nullList hnull =>
    rw [Option.eq_none_iff_forall_ne_some]
    intro t ht
    obtain ⟨b, fields, -, hs, -, -, hread⟩ := record_of_ofSyntax? ht
    rw [optional?, (lookup_fields? fieldNames_nodup hs (by decide)).mpr hnull] at hread
    cases b <;> cases hread
  | child hitems hmem _ ih =>
    rw [Option.eq_none_iff_forall_ne_some]
    intro t ht
    obtain ⟨b, fields, -, hs, -, -, hread⟩ := record_of_ofSyntax? ht
    rw [optional?, (lookup_fields? fieldNames_nodup hs (by decide)).mpr hitems] at hread
    cases b with
    | zero => cases hread
    | succ b =>
      dsimp only [readList?] at hread
      rw [mapM_eq_none hmem (ih b)] at hread
      cases hread

/-! ## Texts -/

theorem parse?_eq_of_spells {s : Syntax} {text : String} (h : Spells s text) :
    parse? text = ofSyntax? 127 s := by
  rw [parse?, parse?_of_spells h]
  rfl

theorem spellsText_spelled (text : String) : SpellsText (Value.string text).spelled text :=
  ⟨_, rfl, denotes_map_charPiece _⟩

/-- A failed step, written as an array. -/
def positional : Value := .array [.null, .string "b", .bool false, .string "e"]

/-- A node that is written with the fields in an order of their own and an unknown one between them. -/
def permuted : Value :=
  .object [("results", .array [positional]), ("seen", .array [.null, .object []]),
    ("result", .bool false), ("error", .null), ("name", .string "a")]

theorem describes_positional : Describes 63 positional.spelled (.fail "b" "e") := by
  have hheld : ∀ {name : String} {v : Syntax}, Holds fieldNames name positional.spelled v ↔
      (fieldNames.zip [.null, (Value.string "b").spelled, .bool false,
        (Value.string "e").spelled]).lookup name = some v := holds_array fieldNames_nodup
  exact ⟨{
    record := .array (by decide)
    key := fun v hv => by simpa [fieldNames, eq_comm] using hheld.mp hv
    name := ⟨_, hheld.mpr rfl, spellsText_spelled "b"⟩
    passed := hheld.mpr rfl
    error := ⟨_, hheld.mpr rfl, spellsText_spelled "e"⟩
    errorDetail := fun v hv => by simpa [fieldNames, List.lookup_cons] using hheld.mp hv
    statusCode := fun v hv => by simpa [fieldNames, List.lookup_cons] using hheld.mp hv },
    .inl ⟨rfl, fun v hv => by simpa [fieldNames, List.lookup_cons] using hheld.mp hv⟩⟩

theorem describes_permuted : Describes 64 permuted.spelled
    ⟨none, "a", false, none, none, none, [.fail "b" "e"]⟩ := by
  have hheld : ∀ {name : String} {v : Syntax}, Holds fieldNames name permuted.spelled v ↔ _ :=
    holds_spelled
  exact ⟨{
    record := record_spelled (by decide)
    key := fun v hv => by simpa using hheld.mp hv
    name := ⟨_, hheld.mpr ⟨_, by simp, rfl⟩, spellsText_spelled "a"⟩
    passed := hheld.mpr ⟨.bool false, by simp, rfl⟩
    error := fun v hv => by simpa [Value.spelled] using hheld.mp hv
    errorDetail := fun v hv => by simpa using hheld.mp hv
    statusCode := fun v hv => by simpa using hheld.mp hv },
    .inr ⟨_, hheld.mpr ⟨.array [positional], by simp, rfl⟩, by decide,
      .cons describes_positional .nil⟩⟩

/-- A text that says a tree is read as that tree if 64 levels of nodes are enough for it, and refused
otherwise. They are enough for every tree of a height below 64; one of height 64 takes one more if an empty
list is written on its last level. A text with a defect anywhere is refused. -/
theorem parse?_spelling :
    (∀ (n : Nat) (s : Syntax) (text : String) (t : Node), Spells s text → Describes n s t →
      (Describes 64 s t → parse? text = some t) ∧ (¬ Describes 64 s t → parse? text = none)) ∧
    (∀ (n : Nat) (s : Syntax) (t : Node), Describes n s t → t.height < 64 → Describes 64 s t) ∧
    ∀ (s : Syntax) (text : String), Spells s text → Defective s → parse? text = none := by
  refine ⟨fun n s text t hs h => ⟨fun h64 => ?_, fun h64 => ?_⟩,
    fun n s t h hheight => h.of_height hheight, fun s text hs h => ?_⟩
  · rw [parse?_eq_of_spells hs]
    exact ofSyntax?_of_describes h64 (by omega)
  · rw [parse?_eq_of_spells hs]
    exact ofSyntax?_of_not_describes h h64 (by omega)
  · rw [parse?_eq_of_spells hs]
    exact ofSyntax?_of_defective h _

theorem parse?_spelling_permuted :
    parse? permuted.text = some ⟨none, "a", false, none, none, none, [.fail "b" "e"]⟩ ∧
    Describes 64 positional.spelled (.fail "b" "e") ∧
    parse? (Value.array [.null, .string "b"]).text = none := by
  obtain ⟨hread, hlow, hrefused⟩ := parse?_spelling
  refine ⟨(hread 64 _ _ _ (spells_text permuted) describes_permuted).1 describes_permuted,
    hlow 63 _ _ describes_positional (by decide), hrefused _ _ (spells_text _) ?_⟩
  refine .lacking (.inr rfl) fun v hv => ?_
  have hv := (holds_array fieldNames_nodup).mp hv
  simp [fieldNames, List.lookup_cons, spelledItems] at hv

/-- A node that writes the list of its children, whether it has any or not. -/
def written (children : List Value) : Value :=
  .object [("name", .string "a"), ("result", .bool true), ("results", .array children)]

/-- Nodes in each other; the last one has an empty list of children. -/
def chain : Nat → Value
  | 0 => written []
  | n + 1 => written [chain n]

/-- The tree of the chain. -/
def path : Nat → Node
  | 0 => .pass "a"
  | n + 1 => ⟨none, "a", true, none, none, none, [path n]⟩

theorem height_path (n : Nat) : (path n).height = n + 1 := by
  induction n with
  | zero => rfl
  | succ n ih => rw [path, height, listHeight, listHeight, ih]; omega

theorem scalars_written (children : List Value) (ts : List Node) :
    Scalars (written children).spelled ⟨none, "a", true, none, none, none, ts⟩ := by
  have habsent : ∀ name, name ∉ ["name", "result", "results"] →
      ∀ v, Holds fieldNames name (written children).spelled v → v = .null := by
    intro name hname v hv
    obtain ⟨w, hw, -⟩ := holds_spelled.mp hv
    exact absurd (List.mem_map_of_mem (f := Prod.fst) hw) hname
  exact {
    record := record_spelled (by simp)
    key := habsent _ (by decide)
    name := ⟨_, holds_spelled.mpr ⟨_, by simp, rfl⟩, spellsText_spelled "a"⟩
    passed := holds_spelled.mpr ⟨.bool true, by simp, rfl⟩
    error := habsent _ (by decide)
    errorDetail := habsent _ (by decide)
    statusCode := habsent _ (by decide) }

theorem holds_results_written {children : List Value} {s : Syntax} :
    Holds fieldNames "results" (written children).spelled s ↔
      s = .array (children.map Value.spelled) := by
  rw [written, holds_spelled]
  simp [Value.spelled, spelledItems_eq_map]

theorem describes_chain (n : Nat) : Describes (n + 2) (chain n).spelled (path n) := by
  induction n with
  | zero =>
    exact ⟨scalars_written [] [], .inr ⟨[], holds_results_written.mpr rfl, by decide, .nil⟩⟩
  | succ n ih =>
    exact ⟨scalars_written _ _, .inr ⟨_, holds_results_written.mpr rfl, by omega, .cons ih .nil⟩⟩

theorem not_describes_chain (n : Nat) : ¬ Describes (n + 1) (chain n).spelled (path n) := by
  induction n with
  | zero =>
    rintro ⟨-, ⟨-, habsent⟩ | ⟨_, -, hn, -⟩⟩
    · exact habsent _ (holds_results_written.mpr rfl)
    · exact absurd hn (by decide)
  | succ n ih =>
    rintro ⟨-, ⟨hc, -⟩ | ⟨items, hitems, -, hchildren⟩⟩
    · cases hc
    · cases holds_results_written.mp hitems
      cases hchildren with
      | cons h _ => exact ih h

/-- A tree of height 64 in a text that is refused for its nesting: an empty list is written on the last
level. -/
theorem parse?_emptyList : Spells (chain 63).spelled (chain 63).text ∧
    Describes 65 (chain 63).spelled (path 63) ∧ (path 63).height = 64 ∧
      parse? (chain 63).text = none := by
  refine ⟨spells_text _, describes_chain 63, height_path 63, ?_⟩
  rw [parse?_eq_of_spells (spells_text _)]
  exact ofSyntax?_of_not_describes (describes_chain 63) (not_describes_chain 63) (by omega)

end Checkup.Node
