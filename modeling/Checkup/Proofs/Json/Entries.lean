import Checkup.Json.Value

/-!
# Entries in ascending order

`sortEntries` puts entries into the order of their keys and keeps the last one of those with one key. A list
of entries with ascending keys is determined by what it contains, so that the order of the entries makes no
difference if no key is repeated.

Results:
* `lookup_eq_some_iff_mem`: what is found under a key.
* `Ascending.insertEntry` and `Ascending.mem_insertEntry`: one entry more.
* `ascending_sortEntries` and `mem_sortEntries`: all of them.
* `sortEntries_of_perm`: the same entries in another order.
-/
namespace Checkup.Json

variable {α : Type} {es es' acc : List (String × α)} {e : String × α} {key : String} {value : α}

def Ascending (es : List (String × α)) : Prop := es.Pairwise (·.1 < ·.1)

/-- The last entry of those with its key. -/
def LastOf (es : List (String × α)) (e : String × α) : Prop :=
  ∃ before after, es = before ++ e :: after ∧ ∀ e' ∈ after, e'.1 ≠ e.1

/-! ## Keys -/

theorem key_gt {a b : String} (hlt : ¬ a < b) (hne : a ≠ b) : b < a :=
  Classical.byContradiction fun h => hne (String.le_antisymm (String.not_lt.mp h) (String.not_lt.mp hlt))

theorem keys_ne_of_lt (h : ∀ e ∈ es, key < e.1) : ∀ e ∈ es, e.1 ≠ key :=
  fun e he hek => String.lt_irrefl key (hek ▸ h e he)

theorem Ascending.nodup_keys (h : Ascending es) : (es.map Prod.fst).Nodup := by
  refine List.Pairwise.map _ (fun _ _ hlt heq => ?_) h
  rw [heq] at hlt
  exact String.lt_irrefl _ hlt

theorem Ascending.nodup (h : Ascending es) : es.Nodup :=
  List.Pairwise.of_map Prod.fst (fun _ _ hne heq => hne (congrArg Prod.fst heq)) h.nodup_keys

/-- Lists with ascending keys are equal if they contain the same entries. -/
theorem Ascending.ext (h : Ascending es) (h' : Ascending es') (hmem : ∀ e, e ∈ es ↔ e ∈ es') : es = es' :=
  List.Perm.eq_of_pairwise (fun _ _ _ _ hab hba => (String.lt_irrefl _ (String.lt_trans hab hba)).elim) h h'
    ((List.perm_ext_iff_of_nodup h.nodup h'.nodup).mpr hmem)

theorem lookup_eq_some_iff_mem {l : List (String × α)} (h : (l.map Prod.fst).Nodup) {name : String}
    {v : α} : l.lookup name = some v ↔ (name, v) ∈ l := by
  induction l with
  | nil => simp
  | cons e l ih =>
    obtain ⟨key, w⟩ := e
    rw [List.map_cons, List.nodup_cons] at h
    by_cases hkey : name = key
    · subst hkey
      have hno : (name, v) ∉ l := fun hmem => h.1 (List.mem_map.mpr ⟨_, hmem, rfl⟩)
      simp [hno, eq_comm]
    · rw [List.lookup_cons, beq_false_of_ne hkey]
      simp [hkey, ih h.2]

/-! ## One entry more -/

theorem Ascending.mem_insertEntry (h : Ascending acc) :
    e ∈ insertEntry key value acc ↔ e = (key, value) ∨ e.1 ≠ key ∧ e ∈ acc := by
  induction acc with
  | nil => simp [insertEntry]
  | cons x rest ih =>
    obtain ⟨hx, hrest⟩ := List.pairwise_cons.mp h
    rw [insertEntry]
    by_cases hlt : key < x.1
    · -- The new entry stands before all others, whose keys are greater.
      have hother : ∀ e ∈ x :: rest, e.1 ≠ key := keys_ne_of_lt fun e he => by
        rcases List.mem_cons.mp he with rfl | he
        · exact hlt
        · exact String.lt_trans hlt (hx e he)
      rw [if_pos hlt, List.mem_cons]
      exact or_congr_right ⟨fun he => ⟨hother e he, he⟩, And.right⟩
    rw [if_neg hlt]
    by_cases heq : key = x.1
    · -- It takes the place of the first.
      subst heq
      have hother : ∀ e ∈ rest, e.1 ≠ x.1 := keys_ne_of_lt hx
      rw [if_pos rfl, List.mem_cons, List.mem_cons]
      refine or_congr_right ⟨fun he => ⟨hother e he, .inr he⟩, ?_⟩
      rintro ⟨hne, rfl | he⟩
      · exact (hne rfl).elim
      · exact he
    · -- It stands somewhere behind the first.
      rw [if_neg heq, List.mem_cons, List.mem_cons, ih hrest]
      constructor
      · rintro (rfl | he | ⟨hne, he⟩)
        · exact .inr ⟨Ne.symm heq, .inl rfl⟩
        · exact .inl he
        · exact .inr ⟨hne, .inr he⟩
      · rintro (he | ⟨hne, he | he⟩)
        · exact .inr (.inl he)
        · exact .inl he
        · exact .inr (.inr ⟨hne, he⟩)

theorem Ascending.insertEntry (h : Ascending acc) : Ascending (insertEntry key value acc) := by
  induction acc with
  | nil => exact List.pairwise_singleton _ _
  | cons x rest ih =>
    obtain ⟨hx, hrest⟩ := List.pairwise_cons.mp h
    rw [Json.insertEntry]
    by_cases hlt : key < x.1
    · rw [if_pos hlt]
      refine List.pairwise_cons.mpr ⟨fun e he => ?_, h⟩
      rcases List.mem_cons.mp he with rfl | he
      · exact hlt
      · exact String.lt_trans hlt (hx e he)
    rw [if_neg hlt]
    by_cases heq : key = x.1
    · subst heq
      rw [if_pos rfl]
      exact List.pairwise_cons.mpr ⟨hx, hrest⟩
    · rw [if_neg heq]
      refine List.pairwise_cons.mpr ⟨fun e he => ?_, ih hrest⟩
      rcases (Ascending.mem_insertEntry hrest).mp he with rfl | ⟨-, he⟩
      · exact key_gt hlt heq
      · exact hx e he

/-! ## All entries -/

theorem lastOf_nil : ¬ LastOf [] e := by
  rintro ⟨before, after, h, -⟩
  exact List.append_ne_nil_of_right_ne_nil before (List.cons_ne_nil e after) h.symm

theorem lastOf_cons {x : String × α} :
    LastOf (x :: es) e ↔ LastOf es e ∨ e = x ∧ ∀ e' ∈ es, e'.1 ≠ e.1 := by
  constructor
  · rintro ⟨before, after, h, hafter⟩
    cases before with
    | nil =>
      obtain ⟨rfl, rfl⟩ := List.cons.inj h
      exact .inr ⟨rfl, hafter⟩
    | cons y before =>
      obtain ⟨rfl, rfl⟩ := List.cons.inj h
      exact .inl ⟨before, after, rfl, hafter⟩
  · rintro (⟨before, after, rfl, hafter⟩ | ⟨rfl, hes⟩)
    · exact ⟨x :: before, after, rfl, hafter⟩
    · exact ⟨[], es, rfl, hes⟩

/-- The state of the sorting: what is there already stays unless an entry with its key is to come. -/
theorem foldl_insertEntry (h : Ascending acc) :
    Ascending (es.foldl (fun acc e => insertEntry e.1 e.2 acc) acc) ∧
      ∀ e, e ∈ es.foldl (fun acc e => insertEntry e.1 e.2 acc) acc ↔
        LastOf es e ∨ (∀ e' ∈ es, e'.1 ≠ e.1) ∧ e ∈ acc := by
  induction es generalizing acc with
  | nil => exact ⟨h, fun e => ⟨fun he => .inr ⟨nofun, he⟩, fun he => he.elim (absurd · lastOf_nil) And.right⟩⟩
  | cons x es ih =>
    have hinsert : Ascending (insertEntry x.1 x.2 acc) := h.insertEntry
    obtain ⟨hascending, hmem⟩ := ih hinsert
    refine ⟨hascending, fun e => ?_⟩
    rw [List.foldl_cons, hmem, h.mem_insertEntry, lastOf_cons, List.forall_mem_cons]
    constructor
    · rintro (hlast | ⟨hes, rfl | ⟨hne, he⟩⟩)
      · exact .inl (.inl hlast)
      · exact .inl (.inr ⟨rfl, hes⟩)
      · exact .inr ⟨⟨Ne.symm hne, hes⟩, he⟩
    · rintro ((hlast | ⟨rfl, hes⟩) | ⟨⟨hne, hes⟩, he⟩)
      · exact .inl hlast
      · exact .inr ⟨hes, .inl rfl⟩
      · exact .inr ⟨hes, .inr ⟨Ne.symm hne, he⟩⟩

theorem ascending_sortEntries (es : List (String × α)) : Ascending (sortEntries es) :=
  (foldl_insertEntry .nil).1

theorem mem_sortEntries : e ∈ sortEntries es ↔ LastOf es e := by
  rw [sortEntries, (foldl_insertEntry .nil).2]
  exact or_iff_left fun h => nomatch h.2

theorem lastOf_iff_mem (h : (es.map Prod.fst).Nodup) : LastOf es e ↔ e ∈ es := by
  induction es with
  | nil => exact ⟨fun h => (lastOf_nil h).elim, nofun⟩
  | cons x es ih =>
    obtain ⟨hx, hes⟩ := List.nodup_cons.mp h
    rw [lastOf_cons, ih hes, List.mem_cons, or_comm]
    refine or_congr_left ⟨And.left, fun he => ⟨he, fun e' he' heq => hx ?_⟩⟩
    rw [← he, ← heq]
    exact List.mem_map_of_mem he'

/-- The order of entries with different keys makes no difference. -/
theorem sortEntries_of_perm (h : es.Perm es') (hnodup : (es.map Prod.fst).Nodup) :
    sortEntries es = sortEntries es' := by
  have hnodup' : (es'.map Prod.fst).Nodup := (h.map Prod.fst).nodup_iff.mp hnodup
  refine (ascending_sortEntries es).ext (ascending_sortEntries es') fun e => ?_
  rw [mem_sortEntries, mem_sortEntries, lastOf_iff_mem hnodup, lastOf_iff_mem hnodup']
  exact h.mem_iff

end Checkup.Json
