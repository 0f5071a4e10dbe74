import Checkup.Proofs.Json.Indented
import Checkup.Proofs.Node.Spelling

/-!
# Texts that list result trees

`Lists text nodes` says that the text is a JSON array of records of these trees, one for one, however they are
spelled. A text lists no more than one sequence of trees, and both the compact and the indented text of an
array of trees list these. So whoever reads the text has them all, in their order.

Results:
* `describes_toJson`: what a tree is written as describes it, whatever its height.
* `Describes.unique` and `Lists.unique`: nothing else is described or listed.
* `lists_text` and `lists_prettyText`: an array of trees is written as a text that lists them and nothing else.
-/
namespace Checkup.Node

open Json

/-- The text is an array that describes the trees. -/
def Lists (text : String) (nodes : List Node) : Prop :=
  ∃ items, Spells (.array items) text ∧ List.Forall₂ (fun s t => ∃ n, Describes n s t) items nodes

theorem Describes.unique {n m : Nat} {s : Syntax} {t u : Node} (h : Describes n s t) (h' : Describes m s u) :
    t = u := by
  have ht : ofSyntax? (2 * max n m) s = some t := ofSyntax?_of_describes h (by omega)
  have hu : ofSyntax? (2 * max n m) s = some u := ofSyntax?_of_describes h' (by omega)
  exact Option.some.inj (ht.symm.trans hu)

theorem Lists.unique {text : String} {nodes nodes' : List Node} (h : Lists text nodes)
    (h' : Lists text nodes') : nodes = nodes' := by
  obtain ⟨items, hspells, hnodes⟩ := h
  obtain ⟨items', hspells', hnodes'⟩ := h'
  have hsame := (parse?_of_spells hspells).symm.trans (parse?_of_spells hspells')
  cases hsame
  clear hspells hspells'
  induction hnodes generalizing nodes' with
  | nil =>
    cases hnodes'
    rfl
  | cons ht _ ih =>
    obtain ⟨_, ht⟩ := ht
    cases hnodes' with
    | cons hu hrest =>
      obtain ⟨_, hu⟩ := hu
      rw [ht.unique hu, ih hrest]

/-! ## What is written -/

/-- The object that a node is written as holds its members and nothing else. -/
theorem holds_toJson (t : Node) {name : String} (hname : name ∈ fieldNames) {v : Syntax} :
    Holds fieldNames name t.toJson.spelled v ↔ (t.members.lookup name).map Value.spelled = some v := by
  rw [← lookup_fields? fieldNames_nodup (fields?_toJson t) hname, spelledFields, lookup_spelled]

/-- A detail is written as its value, or not at all. -/
theorem spellsDetail_toJson {α : Type} {spells : Syntax → α → Prop} {t : Node} {name : String}
    (hname : name ∈ fieldNames) {detail : Option α} {write : α → Value}
    (hlookup : t.members.lookup name = detail.map write) (hwrite : ∀ a, spells (write a).spelled a) :
    SpellsDetail spells t.toJson.spelled name detail := by
  cases detail with
  | none =>
    intro v hv
    rw [holds_toJson t hname, hlookup] at hv
    cases hv
  | some a =>
    refine ⟨_, ?_, hwrite a⟩
    rw [holds_toJson t hname, hlookup]
    rfl

theorem scalars_toJson (t : Node) : Scalars t.toJson.spelled t := by
  obtain ⟨hkey, hname, hresult, herror, hdetail, hcode, -⟩ := t.lookup_members
  rw [Option.map_map] at hcode
  have hrecord : Record fieldNames t.toJson.spelled := fields?_iff_record.mp ⟨_, fields?_toJson t⟩
  have hpassed : Holds fieldNames "result" t.toJson.spelled (.bool t.passed) := by
    rw [holds_toJson t (by decide), hresult]
    rfl
  have hheld : Holds fieldNames "name" t.toJson.spelled (Value.string t.name).spelled := by
    rw [holds_toJson t (by decide), hname]
    rfl
  exact {
    record := hrecord
    key := spellsDetail_toJson (by decide) hkey spellsText_spelled
    name := ⟨_, hheld, spellsText_spelled t.name⟩
    passed := hpassed
    error := spellsDetail_toJson (by decide) herror spellsText_spelled
    errorDetail := spellsDetail_toJson (by decide) hdetail spellsText_spelled
    statusCode := spellsDetail_toJson (by decide) hcode fun _ => rfl }

/-- What a tree is written as describes it. -/
theorem describes_toJson (t : Node) : Describes (t.height + 1) t.toJson.spelled t := by
  induction t using children_induction with
  | h t ih =>
    obtain ⟨-, -, -, -, -, -, hchildren⟩ := t.lookup_members
    refine ⟨scalars_toJson t, ?_⟩
    by_cases hc : t.children = []
    · rw [if_pos hc] at hchildren
      refine .inl ⟨hc, fun v hv => ?_⟩
      rw [holds_toJson t (by decide), hchildren] at hv
      cases hv
    · rw [if_neg hc] at hchildren
      have hheight := height_eq t
      refine .inr ⟨spelledItems (t.children.map toJson), ?_, by omega, ?_⟩
      · rw [holds_toJson t (by decide), hchildren, Option.map_some, Value.spelled]
      · rw [spelledItems_eq_map, List.map_map, List.forall₂_map_left_iff]
        exact List.forall₂_same.mpr fun u hu => (ih u hu).of_height (height_lt_of_mem hu)

/-- An array of trees is spelled as the list of these. -/
theorem lists_of_spells {nodes nodes' : List Node} {text : String}
    (h : Spells (Value.array (nodes.map toJson)).spelled text) : Lists text nodes' ↔ nodes' = nodes := by
  have hlists : Lists text nodes := by
    rw [Value.spelled, spelledItems_eq_map, List.map_map] at h
    refine ⟨_, h, List.forall₂_map_left_iff.mpr ?_⟩
    exact List.forall₂_same.mpr fun t _ => ⟨_, describes_toJson t⟩
  constructor
  · exact fun h' => h'.unique hlists
  · rintro rfl
    exact hlists

theorem lists_text {nodes nodes' : List Node} :
    Lists (Value.array (nodes.map toJson)).text nodes' ↔ nodes' = nodes :=
  lists_of_spells (spells_text _)

/-- The same, with every item and member on a line of its own and with a gap behind the text. -/
theorem lists_prettyText {nodes nodes' : List Node} {g : List Char} (hg : Gap g) :
    Lists ((Value.array (nodes.map toJson)).prettyText ++ String.ofList g) nodes' ↔ nodes' = nodes :=
  lists_of_spells (spells_prettyText _ hg)

end Checkup.Node
