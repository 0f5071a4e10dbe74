import Checkup.Proofs.Binding.Description
import Checkup.Proofs.Json.Grammar
import Checkup.Proofs.Text.Utf8

/-!
# What a document of service bindings says

A document is a JSON object from labels to lists of bindings, and of the groups with one label the last one
counts. What is read of it is told by these groups: the labels are in the order of their bytes, a binding is
as its record describes it except that it may take the label of its group, and a search by tag goes through
the groups in the order of their labels and through each group in the order of the document. So the order of
groups with different labels makes no difference.

**Documents (`Lists`).** A document may be any text. `Lists`, `IsLabel` and `IsGroup` tell what it says by the
grammar of JSON and the record of a binding, without the reader: labels are the texts that they spell, and
groups the bindings that they describe.

Results:
* `parse_eq_ok`: something is read of a document exactly if every member has a label and a group.
* `parse_of_sameGroups`: the order of the groups makes no difference.
* `holds_iff`: what the bindings of a document are and how they are found, as the structure `Holds`. Nothing
  else is true of them.
* `parse_orderFree`: all of this.
-/
namespace Checkup

open Json

/-- The first text stands before the second in the order of their bytes. -/
def BytesLt (a b : String) : Prop := Text.Utf8.encode a.toList < Text.Utf8.encode b.toList

theorem bytesLt_iff {a b : String} : BytesLt a b ↔ a < b := by
  have hlt {a b : String} (h : a < b) : BytesLt a b :=
    Text.Utf8.encode_lt_encode (String.lt_iff.mp h)
  refine ⟨fun h => Classical.byContradiction fun hnot => ?_, hlt⟩
  by_cases heq : a = b
  · exact List.lt_irrefl _ (heq ▸ h : BytesLt b b)
  · exact List.lt_asymm h (hlt (key_gt hnot heq))

/-- The binding is as it is listed, except that it has the label of its group if it lists none. -/
structure Binding.Fills (label : String) (own b : Binding) : Prop where
  label : b.label = if own.label = "" then label else own.label
  others : b = { own with label := b.label }

theorem Binding.fills_iff {label : String} {own b : Binding} :
    Binding.Fills label own b ↔ own.inGroup label = b := by
  unfold inGroup
  by_cases hempty : own.label = ""
  · rw [if_pos (by simpa using hempty)]
    constructor
    · rintro ⟨hlabel, hothers⟩
      rw [hothers, hlabel, if_pos hempty]
    · rintro rfl
      exact ⟨(if_pos hempty).symm, rfl⟩
  · rw [if_neg (by simpa using hempty)]
    constructor
    · rintro ⟨hlabel, hothers⟩
      rw [hothers, hlabel, if_neg hempty]
    · rintro rfl
      exact ⟨(if_neg hempty).symm, rfl⟩

namespace ServiceBindings

variable {document document' : String} {members members' : List (List Piece × Syntax)}
  {m m' : List Piece × Syntax} {label : String} {own bindings : List Binding}
  {groups : List (String × List Binding)}

/-! ## Documents -/

/-- The document is an object with these members. A blank document counts as one without members. -/
def Lists (document : String) (members : List (List Piece × Syntax)) : Prop :=
  (Text.isBlank document = true ∧ members = []) ∨ Spells (.object members) document

/-- The member has the label, in whatever way it is spelled. -/
def IsLabel (m : List Piece × Syntax) (label : String) : Prop := Denotes m.1 label.toList

/-- The member lists the records of these bindings. -/
def IsGroup (m : List Piece × Syntax) (own : List Binding) : Prop := SpellsList Binding.Describes m.2 own

theorem not_blank_of_spells (h : Spells (.object members) document) : Text.isBlank document = false := by
  obtain ⟨g, cs, g', -, hvalue, -, htext⟩ := h
  have hbrace : '{' ∈ document.toList := by
    rw [htext]
    apply List.mem_append_right
    cases hvalue <;> simp
  rw [Text.isBlank, List.all_eq_false]
  exact ⟨'{', hbrace, by decide⟩

theorem parse_of_lists (h : Lists document members) : parse document =
    match members.mapM groupOf? with
    | some groups => .ok ⟨sortEntries groups⟩
    | none => .error .malformed := by
  unfold parse
  rcases h with ⟨hblank, rfl⟩ | hspells
  · rw [if_pos hblank]
    rfl
  · have hblank : ¬ Text.isBlank document = true := by
      rw [not_blank_of_spells hspells]
      exact Bool.false_ne_true
    rw [if_neg hblank, parse?_eq_some.mpr hspells, Option.bind_some, ofSyntax?]
    cases members.mapM groupOf? <;> rfl

theorem exists_lists {s : ServiceBindings} (h : parse document = .ok s) :
    ∃ members, Lists document members := by
  unfold parse at h
  split at h
  · next hblank => exact ⟨[], .inl ⟨hblank, rfl⟩⟩
  · cases hparse : Syntax.parse? document with
    | none =>
      rw [hparse] at h
      cases h
    | some syn =>
      rw [hparse] at h
      cases syn with
      | object members => exact ⟨members, .inr (parse?_eq_some.mp hparse)⟩
      | _ => cases h

theorem IsLabel.unique {label' : String} (h : IsLabel m label) (h' : IsLabel m label') : label = label' :=
  Denotes.unique h h'

theorem isGroup_iff : IsGroup m own ↔ readList? Binding.ofSyntax? m.2 = some own :=
  (readList?_eq_some fun _ _ => Binding.ofSyntax?_eq_some).symm

theorem groupOf?_eq_some : groupOf? m = some (label, bindings) ↔
    IsLabel m label ∧ ∃ own, IsGroup m own ∧ List.Forall₂ (Binding.Fills label) own bindings := by
  simp only [groupOf?, Option.bind_eq_bind, Option.bind_eq_some_iff, Option.pure_def, Option.some.injEq,
    Prod.mk.injEq, stringOf?_eq_some, isGroup_iff]
  have hfills (own : List Binding) : List.Forall₂ (Binding.Fills label) own bindings ↔
      own.map (Binding.inGroup label) = bindings := by
    rw [← List.forall₂_eq_eq_eq, List.forall₂_map_left_iff]
    simp only [← Binding.fills_iff]
  constructor
  · rintro ⟨label', hlabel, own, hown, rfl, hbindings⟩
    exact ⟨hlabel, own, hown, (hfills own).mpr hbindings⟩
  · intro ⟨hlabel, own, hown, h⟩
    exact ⟨label, hlabel, own, hown, rfl, (hfills own).mp h⟩

theorem exists_groupOf? :
    (∃ group, groupOf? m = some group) ↔ ∃ label own, IsLabel m label ∧ IsGroup m own := by
  constructor
  · intro ⟨⟨label, bindings⟩, h⟩
    obtain ⟨hlabel, own, hown, -⟩ := groupOf?_eq_some.mp h
    exact ⟨label, own, hlabel, hown⟩
  · intro ⟨label, own, hlabel, hown⟩
    have hfills : List.Forall₂ (Binding.Fills label) own (own.map (Binding.inGroup label)) :=
      List.forall₂_map_right_iff.mpr (List.forall₂_same.mpr fun _ _ => Binding.fills_iff.mpr rfl)
    exact ⟨_, groupOf?_eq_some.mpr ⟨hlabel, own, hown, hfills⟩⟩

theorem exists_mapM_groupOf? : (∃ groups, members.mapM groupOf? = some groups) ↔
    ∀ m ∈ members, ∃ label own, IsLabel m label ∧ IsGroup m own := by
  simp only [← exists_groupOf?, ← Option.isSome_iff_exists, isSome_mapM]

/-! ## The order of the groups -/

/-- The members have the same label, in whatever way it is spelled, and list the same bindings. -/
def Alike (m m' : List Piece × Syntax) : Prop :=
  (∀ label, IsLabel m label ↔ IsLabel m' label) ∧ ∀ own, IsGroup m own ↔ IsGroup m' own

/-- The members list the same groups in some other order. -/
def SameGroups (members members' : List (List Piece × Syntax)) : Prop :=
  ∃ others, members.Perm others ∧ List.Forall₂ Alike others members'

/-- No two of the members have the same label. -/
def DistinctLabels (members : List (List Piece × Syntax)) : Prop :=
  members.Pairwise fun m m' => ∀ label, IsLabel m label → ¬ IsLabel m' label

theorem Alike.groupOf?_eq (h : Alike m m') : groupOf? m = groupOf? m' := by
  apply Option.ext
  intro ⟨label, bindings⟩
  simp only [groupOf?_eq_some, h.1, h.2]

theorem mapM_groupOf?_of_alike (h : List.Forall₂ Alike members members') :
    members.mapM groupOf? = members'.mapM groupOf? := by
  induction h with
  | nil => rfl
  | cons hm _ ih => rw [List.mapM_cons, List.mapM_cons, hm.groupOf?_eq, ih]

/-- No group has the label if no member has. -/
theorem labels_ne_iff (h : List.Forall₂ (fun m group => groupOf? m = some group) members groups) :
    (∀ g ∈ groups, g.1 ≠ label) ↔ ∀ m ∈ members, ¬ IsLabel m label := by
  induction h with
  | nil => simp
  | @cons m group members groups hm _ ih =>
    have hgroup : IsLabel m group.1 := (groupOf?_eq_some.mp hm).1
    rw [List.forall_mem_cons, List.forall_mem_cons, ih]
    refine and_congr_left fun _ => not_congr ⟨fun heq => heq ▸ hgroup, fun hlabel => hgroup.unique hlabel⟩

/-- Groups with different labels are read of members with different labels. -/
theorem nodup_labels (h : members.mapM groupOf? = some groups) (hdistinct : DistinctLabels members) :
    (groups.map Prod.fst).Nodup := by
  have hgroups := mapM_eq_some_iff.mp h
  clear h
  induction hgroups with
  | nil => exact List.nodup_nil
  | @cons m group members groups hm hrest ih =>
    obtain ⟨hhead, htail⟩ := List.pairwise_cons.mp hdistinct
    have hlabel : IsLabel m group.1 := (groupOf?_eq_some.mp hm).1
    have hne := (labels_ne_iff hrest).mpr fun m' hm' => hhead m' hm' group.1 hlabel
    rw [List.map_cons, List.nodup_cons]
    refine ⟨fun hmem => ?_, ih htail⟩
    obtain ⟨g, hg, heq⟩ := List.mem_map.mp hmem
    exact hne g hg heq

/-- The order of groups with different labels makes no difference. -/
theorem parse_of_sameGroups (h : Lists document members) (h' : Lists document' members')
    (hsame : SameGroups members members') (hdistinct : DistinctLabels members) :
    parse document = parse document' := by
  obtain ⟨others, hperm, halike⟩ := hsame
  rw [parse_of_lists h, parse_of_lists h', ← mapM_groupOf?_of_alike halike]
  cases hgroups : members.mapM groupOf? with
  | none =>
    cases hothers : others.mapM groupOf? with
    | none => rfl
    | some groups =>
      obtain ⟨groups', hsome, -⟩ := perm_mapM hperm hothers
      cases hgroups.symm.trans hsome
  | some groups =>
    obtain ⟨groups', hothers, hgroups'⟩ := perm_mapM hperm.symm hgroups
    rw [hothers]
    exact congrArg (Except.ok ∘ mk) (sortEntries_of_perm hgroups'.symm (nodup_labels hgroups hdistinct))

/-! ## What is read of a document -/

/-- The document lists these bindings under the label, and nothing under it behind them. -/
def GroupOf (members : List (List Piece × Syntax)) (label : String) (bindings : List Binding) : Prop :=
  ∃ before m after own, members = before ++ m :: after ∧ IsLabel m label ∧
    (∀ m' ∈ after, ¬ IsLabel m' label) ∧ IsGroup m own ∧ List.Forall₂ (Binding.Fills label) own bindings

theorem groupOf_nil : ¬ GroupOf [] label bindings := by
  rintro ⟨before, m, after, own, h, -⟩
  exact List.append_ne_nil_of_right_ne_nil before (List.cons_ne_nil m after) h.symm

theorem groupOf_cons : GroupOf (m :: members) label bindings ↔
    GroupOf members label bindings ∨
      groupOf? m = some (label, bindings) ∧ ∀ m' ∈ members, ¬ IsLabel m' label := by
  rw [groupOf?_eq_some]
  constructor
  · rintro ⟨before, m', after, own, h, hlabel, hafter, hown, hbindings⟩
    cases before with
    | nil =>
      obtain ⟨rfl, rfl⟩ := List.cons.inj h
      exact .inr ⟨⟨hlabel, own, hown, hbindings⟩, hafter⟩
    | cons x before =>
      obtain ⟨rfl, rfl⟩ := List.cons.inj h
      exact .inl ⟨before, m', after, own, rfl, hlabel, hafter, hown, hbindings⟩
  · rintro (⟨before, m', after, own, rfl, h⟩ | ⟨⟨hlabel, own, hown, hbindings⟩, hafter⟩)
    · exact ⟨m :: before, m', after, own, rfl, h⟩
    · exact ⟨[], m, members, own, rfl, hlabel, hafter, hown, hbindings⟩

theorem lastOf_iff_groupOf (h : members.mapM groupOf? = some groups) :
    LastOf groups (label, bindings) ↔ GroupOf members label bindings := by
  have hgroups := mapM_eq_some_iff.mp h
  clear h
  induction hgroups with
  | nil => exact ⟨fun h => (lastOf_nil h).elim, fun h => (groupOf_nil h).elim⟩
  | @cons m group members groups hm hrest ih =>
    rw [lastOf_cons, groupOf_cons, hm, Option.some.injEq, eq_comm (a := group), labels_ne_iff hrest]
    exact or_congr_left ih

/-! ## Searches -/

variable {s : ServiceBindings}

structure Holds (members : List (List Piece × Syntax)) (s : ServiceBindings) : Prop where
  /-- The labels ascend in the order of their bytes, -/
  ascending : s.labels.Pairwise BytesLt
  labels : ∀ label, label ∈ s.labels ↔ ∃ bindings, GroupOf members label bindings
  /-- and the groups are those of the document. -/
  groups : ∀ label bindings, (label, bindings) ∈ s.groups ↔ GroupOf members label bindings
  /-- A search by label finds the first binding that is listed under it. -/
  withLabel : ∀ label b, s.withLabel? label = some b ↔ ∃ rest, GroupOf members label (b :: rest)
  /-- A search by tag goes through the labels as they ascend, and through each group as it is listed, -/
  withTag : ∀ tag b, s.withTag? tag = some b ↔ tag ∈ b.tags ∧ ∃ label front back,
    GroupOf members label (front ++ b :: back) ∧ (∀ x ∈ front, tag ∉ x.tags) ∧
      ∀ label' bindings, GroupOf members label' bindings → BytesLt label' label →
        ∀ x ∈ bindings, tag ∉ x.tags
  /-- and finds a binding unless none has the tag. -/
  untagged : ∀ tag, s.withTag? tag = none ↔
    ∀ label bindings, GroupOf members label bindings → ∀ x ∈ bindings, tag ∉ x.tags
  /-- The size is the number of all bindings. -/
  size : s.size = (s.groups.map (·.2.length)).foldr (· + ·) 0

theorem withLabel?_eq_some (h : Ascending s.groups) {b : Binding} :
    s.withLabel? label = some b ↔ ∃ rest, (label, b :: rest) ∈ s.groups := by
  simp only [withLabel?, Option.bind_eq_some_iff, List.head?_eq_some_iff, lookup_eq_some_iff_mem h.nodup_keys]
  exact ⟨fun ⟨_, hmem, rest, heq⟩ => ⟨rest, heq ▸ hmem⟩, fun ⟨rest, hmem⟩ => ⟨_, hmem, rest, rfl⟩⟩

/-- The groups before one of them are those with lesser labels. -/
theorem Ascending.mem_before {before after : List (String × List Binding)} {group g : String × List Binding}
    (h : Json.Ascending (before ++ group :: after)) :
    g ∈ before ↔ g ∈ before ++ group :: after ∧ g.1 < group.1 := by
  obtain ⟨-, hgroup, hbefore⟩ := List.pairwise_append.mp h
  constructor
  · exact fun hg => ⟨List.mem_append_left _ hg, hbefore g hg group List.mem_cons_self⟩
  · rintro ⟨hg, hlt⟩
    rcases List.mem_append.mp hg with hg | hg
    · exact hg
    rcases List.mem_cons.mp hg with rfl | hg
    · exact (String.lt_irrefl _ hlt).elim
    · have hgt := (List.pairwise_cons.mp hgroup).1 g hg
      exact (String.lt_irrefl _ (String.lt_trans hlt hgt)).elim

theorem withTag?_eq_some (h : Ascending s.groups) {tag : String} {b : Binding} :
    s.withTag? tag = some b ↔ tag ∈ b.tags ∧ ∃ label front back,
      (label, front ++ b :: back) ∈ s.groups ∧ (∀ x ∈ front, tag ∉ x.tags) ∧
        ∀ group ∈ s.groups, group.1 < label → ∀ x ∈ group.2, tag ∉ x.tags := by
  have htag (x : Binding) : (!x.hasTag tag) = true ↔ tag ∉ x.tags := by simp [Binding.hasTag]
  rw [withTag?, all, List.flatMap_def, List.find?_flatten_eq_some_iff]
  simp only [htag]
  rw [Binding.hasTag, List.contains_iff_mem]
  refine and_congr_right fun _ => ?_
  constructor
  · rintro ⟨before, front, back, after, hsplit, hbefore, hfront⟩
    obtain ⟨before', rest, hgroups, rfl, hrest⟩ := List.map_eq_append_iff.mp hsplit
    obtain ⟨group, after', rfl, hgroup, rfl⟩ := List.map_eq_cons_iff.mp hrest
    refine ⟨group.1, front, back, ?_, hfront, fun g hg hlt => ?_⟩
    · rw [hgroups, ← hgroup]
      exact List.mem_append_right _ List.mem_cons_self
    · rw [hgroups] at h hg
      exact hbefore g.2 (List.mem_map_of_mem ((Ascending.mem_before h).mpr ⟨hg, hlt⟩))
  · rintro ⟨label, front, back, hmem, hfront, hbefore⟩
    obtain ⟨before, after, hgroups⟩ := List.append_of_mem hmem
    refine ⟨before.map Prod.snd, front, back, after.map Prod.snd, ?_, ?_, hfront⟩
    · rw [hgroups, List.map_append, List.map_cons]
    · intro bindings hbindings
      obtain ⟨g, hg, rfl⟩ := List.mem_map.mp hbindings
      rw [hgroups] at h hbefore
      obtain ⟨hmem', hlt⟩ := (Ascending.mem_before h).mp hg
      exact hbefore g hmem' hlt

theorem withTag?_eq_none {tag : String} :
    s.withTag? tag = none ↔ ∀ group ∈ s.groups, ∀ x ∈ group.2, tag ∉ x.tags := by
  simp [withTag?, all, Binding.hasTag]

theorem holds_of_groups (h : Ascending s.groups)
    (hmem : ∀ label bindings, (label, bindings) ∈ s.groups ↔ GroupOf members label bindings) :
    Holds members s where
  ascending := List.Pairwise.map _ (fun _ _ hlt => bytesLt_iff.mpr hlt) h
  labels label := by simp [labels, hmem]
  groups := hmem
  withLabel label b := by simp only [withLabel?_eq_some h, hmem]
  withTag tag b := by simp only [withTag?_eq_some h, Prod.forall, hmem, bytesLt_iff]
  untagged tag := by simp only [withTag?_eq_none, Prod.forall, hmem]
  size := List.length_flatMap

/-- The bindings that are read of a document are the only ones of which this is true. -/
theorem holds_iff (h : members.mapM groupOf? = some groups) : Holds members s ↔ s = ⟨sortEntries groups⟩ := by
  have hmem (label : String) (bindings : List Binding) :
      (label, bindings) ∈ sortEntries groups ↔ GroupOf members label bindings := by
    rw [mem_sortEntries, lastOf_iff_groupOf h]
  constructor
  · intro hs
    have hascending : Ascending s.groups := (List.pairwise_map.mp hs.ascending).imp bytesLt_iff.mp
    have hgroups : s.groups = sortEntries groups := by
      apply hascending.ext (ascending_sortEntries groups)
      intro ⟨label, bindings⟩
      rw [hs.groups, hmem]
    exact congrArg mk hgroups
  · rintro rfl
    exact holds_of_groups (ascending_sortEntries groups) hmem

theorem parse_eq_ok : parse document = .ok s ↔ ∃ members, Lists document members ∧
    (∀ m ∈ members, ∃ label own, IsLabel m label ∧ IsGroup m own) ∧ Holds members s := by
  simp only [← exists_mapM_groupOf?]
  constructor
  · intro h
    obtain ⟨members, hlists⟩ := exists_lists h
    rw [parse_of_lists hlists] at h
    cases hgroups : members.mapM groupOf? with
    | none =>
      rw [hgroups] at h
      cases h
    | some groups =>
      rw [hgroups] at h
      cases h
      exact ⟨members, hlists, ⟨groups, hgroups⟩, (holds_iff hgroups).mpr rfl⟩
  · intro ⟨members, hlists, ⟨groups, hgroups⟩, hholds⟩
    rw [parse_of_lists hlists, hgroups, (holds_iff hgroups).mp hholds]

/-- What is read of a document does not depend on the order of its groups, and is told by the groups. -/
theorem parse_orderFree :
    (∀ document document' members members', Lists document members → Lists document' members' →
      SameGroups members members' → DistinctLabels members → parse document = parse document') ∧
    ∀ document s, parse document = .ok s ↔ ∃ members, Lists document members ∧
      (∀ m ∈ members, ∃ label own, IsLabel m label ∧ IsGroup m own) ∧ Holds members s :=
  ⟨fun _ _ _ _ h h' hsame hdistinct => parse_of_sameGroups h h' hsame hdistinct, fun _ _ => parse_eq_ok⟩

theorem lists_object (members : List (String × Value)) :
    Lists (Value.object members).text (spelledMembers members) := by
  have hspells := spells_text (.object members)
  rw [Value.spelled] at hspells
  exact .inr hspells

/-- The groups of a small document. -/
def fewGroups : List (String × Value) :=
  [("b", .array []), ("a", .array [.object [("name", .string "first"), ("tags", .array [.string "t"])]])]

theorem sameGroups_reverse : SameGroups (spelledMembers fewGroups) (spelledMembers fewGroups.reverse) := by
  refine ⟨spelledMembers fewGroups.reverse, ?_, List.forall₂_same.mpr fun _ _ => ⟨fun _ => .rfl, fun _ => .rfl⟩⟩
  rw [spelledMembers_eq_map, spelledMembers_eq_map]
  exact fewGroups.reverse_perm.symm.map _

theorem distinctLabels_fewGroups : DistinctLabels (spelledMembers fewGroups) := by
  refine List.pairwise_pair.mpr fun label hlabel hlabel' => ?_
  have hb : "b" = label := eq_of_denotes_charPiece hlabel
  have ha : "a" = label := eq_of_denotes_charPiece hlabel'
  exact absurd (ha.trans hb.symm) (by decide)

theorem parse_orderFree_fewGroups :
    parse (Value.object fewGroups).text = parse (Value.object fewGroups.reverse).text ∧
      ∃ s members, parse (Value.object fewGroups).text = .ok s ∧
        Lists (Value.object fewGroups).text members ∧ Holds members s := by
  obtain ⟨s, hs⟩ := exists_eq_ok (x := parse (Value.object fewGroups).text) (by decide +kernel)
  obtain ⟨members, hlists, -, hholds⟩ := (parse_orderFree.2 _ s).mp hs
  have hsame := parse_orderFree.1 _ _ _ _ (lists_object _) (lists_object _) sameGroups_reverse
    distinctLabels_fewGroups
  exact ⟨hsame, s, members, hs, hlists, hholds⟩

end ServiceBindings
end Checkup
