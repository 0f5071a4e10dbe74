import Checkup.Node.Wire
import Checkup.Proofs.Json.Record

/-!
# The wire form of the result tree, there and back

What was written is read back, for trees up to a height that the levels of nesting allow: a node takes
one for its object and one for the list of its children, except for a childless node, which has no list.
With 127 levels that is a height of 64. The texts and numbers of a node are any, and so are the details
that it has.

Results:
* `ofSyntax?_toJson`: one step of reading what was written, from the children to their node.
* `ofSyntax?_toJson_of_le` and `ofSyntax?_toJson_of_lt`: by induction over the tree, it is read back if
  the levels are enough, and refused otherwise.
* `height_of_ofSyntax?`: nothing higher is ever read, from whatever text.
* `parse?_text_roundTrip`: all of it, for texts.
-/
namespace Checkup.Node

open Json

mutual

/-- The height of a tree: one for a childless node, and one more than that of the highest child for any
other. -/
def height : Node → Nat
  | ⟨_, _, _, _, _, _, children⟩ => 1 + listHeight children

/-- The height of the highest tree of a list; zero if there is none. -/
def listHeight : List Node → Nat
  | [] => 0
  | t :: ts => max t.height (listHeight ts)

end

/-! ## Trees -/

theorem height_eq (t : Node) : t.height = 1 + listHeight t.children := by
  cases t; rfl

theorem listHeight_le {ts : List Node} {n : Nat} : listHeight ts ≤ n ↔ ∀ t ∈ ts, t.height ≤ n := by
  induction ts with
  | nil => simp [listHeight]
  | cons t ts ih => rw [listHeight, Nat.max_le, ih, List.forall_mem_cons]

theorem height_lt_of_mem {t u : Node} (h : u ∈ t.children) : u.height < t.height := by
  have := listHeight_le.mp (Nat.le_refl (listHeight t.children)) u h
  rw [height_eq t]
  omega

/-- A property of all trees, from that of the children of each. -/
theorem children_induction {P : Node → Prop} (h : ∀ t : Node, (∀ u ∈ t.children, P u) → P t)
    (t : Node) : P t := by
  induction hn : t.height using Nat.strongRecOn generalizing t with
  | ind n ih =>
    subst hn
    exact h t fun u hu => ih u.height (height_lt_of_mem hu) u rfl

/-! ## The members of a node -/

theorem listToJson_eq_map (ts : List Node) : listToJson ts = ts.map toJson := by
  induction ts with
  | nil => rfl
  | cons t ts ih => rw [listToJson, ih, List.map_cons]

/-- The members of the object that a node is written as. -/
def members (t : Node) : List (String × Value) :=
  member? "key" (t.key.map .string) ++ (member? "name" (some (.string t.name)) ++
    (member? "result" (some (.bool t.passed)) ++ (member? "error" (t.error.map .string) ++
      (member? "errorDescription" (t.errorDetail.map .string) ++
        (member? "statusCode" (t.statusCode.map fun c => .number (.natural c.toNat)) ++
          member? "results"
            (if t.children = [] then none else some (.array (t.children.map toJson))))))))

theorem toJson_eq (t : Node) : t.toJson = .object t.members := by
  obtain ⟨key, name, passed, error, detail, code, children⟩ := t
  cases children <;> simp [toJson, members, member?, listToJson_eq_map]

theorem map_fst_member?_sublist (name : String) (v : Option Value) :
    ((member? name v).map Prod.fst).Sublist [name] := by
  cases v <;> simp [member?]

/-- A node is written with some of its fields, in the order of their names. -/
theorem map_fst_members_sublist (t : Node) : (t.members.map Prod.fst).Sublist fieldNames := by
  have h := map_fst_member?_sublist
  simp only [members, List.map_append]
  exact (h _ _).append <| (h _ _).append <| (h _ _).append <| (h _ _).append <| (h _ _).append <|
    (h _ _).append (h _ _)

theorem lookup_member?_append (name other : String) (v : Option Value) (ms : List (String × Value)) :
    (member? name v ++ ms).lookup other =
      if other = name then v.or (ms.lookup other) else ms.lookup other := by
  cases v with
  | none => simp [member?]
  | some v =>
    by_cases h : other = name
    · subst h; simp [member?]
    · have hne : (other == name) = false := beq_false_of_ne h
      simp [member?, List.lookup_cons, hne, h]

theorem lookup_member? (name other : String) (v : Option Value) :
    (member? name v).lookup other = if other = name then v else none := by
  have h := lookup_member?_append name other v []
  simpa using h

/-- What was written under the names of the fields. -/
theorem lookup_members (t : Node) :
    t.members.lookup "key" = t.key.map .string ∧
    t.members.lookup "name" = some (.string t.name) ∧
    t.members.lookup "result" = some (.bool t.passed) ∧
    t.members.lookup "error" = t.error.map .string ∧
    t.members.lookup "errorDescription" = t.errorDetail.map .string ∧
    t.members.lookup "statusCode" =
      (t.statusCode.map UInt16.toNat).map (fun n => .number (.natural n)) ∧
    t.members.lookup "results" =
      if t.children = [] then none else some (.array (t.children.map toJson)) := by
  simp [members, lookup_member?_append, lookup_member?, Function.comp_def]

/-- The fields of a node as they are spelled. -/
def spelledFields (t : Node) : List (String × Syntax) := t.members.map fun m => (m.1, m.2.spelled)

theorem fields?_toJson (t : Node) : fields? fieldNames t.toJson.spelled = some t.spelledFields := by
  rw [toJson_eq]
  exact fields?_spelled t.map_fst_members_sublist.subset
    (t.map_fst_members_sublist.nodup (by decide))

/-- The readers of the scalar fields find what was written. -/
theorem read_scalars (t : Node) :
    optional? t.spelledFields "key" none (readNullable? readText?) = some t.key ∧
    required? t.spelledFields "name" readText? = some t.name ∧
    required? t.spelledFields "result" readBool? = some t.passed ∧
    optional? t.spelledFields "error" none (readNullable? readText?) = some t.error ∧
    optional? t.spelledFields "errorDescription" none (readNullable? readText?) =
      some t.errorDetail ∧
    optional? t.spelledFields "statusCode" none (readNullable? (readNatural? 65535)) =
      some (t.statusCode.map UInt16.toNat) := by
  obtain ⟨hkey, hname, hresult, herror, hdetail, hcode, -⟩ := t.lookup_members
  have hlookup : ∀ name, t.spelledFields.lookup name = (t.members.lookup name).map Value.spelled :=
    lookup_spelled t.members
  have htext : ∀ s : String, (Value.string s).spelled ≠ .null := by simp [Value.spelled]
  have hnumber : ∀ n : Nat, (Value.number (.natural n)).spelled ≠ .null := by
    simp [Value.spelled, Number.spelled]
  refine ⟨optional?_spelled (by rw [hlookup, hkey]) (fun s _ => readText?_spelled s) htext, ?_, ?_,
    optional?_spelled (by rw [hlookup, herror]) (fun s _ => readText?_spelled s) htext,
    optional?_spelled (by rw [hlookup, hdetail]) (fun s _ => readText?_spelled s) htext,
    optional?_spelled (by rw [hlookup, hcode]) (fun n hn => ?_) hnumber⟩
  · rw [required?, hlookup, hname]; exact readText?_spelled t.name
  · rw [required?, hlookup, hresult]; exact readBool?_spelled t.passed
  · obtain ⟨c, -, rfl⟩ := Option.map_eq_some_iff.mp hn
    have := c.toNat_lt
    exact readNatural?_spelled (by omega) (by omega)

theorem spelledItems_eq_map (vs : List Value) : spelledItems vs = vs.map Value.spelled := by
  induction vs with
  | nil => rfl
  | cons v vs ih => rw [spelledItems, ih, List.map_cons]

/-- Reading a node takes one level of nesting for itself and, if it has children, one for their list. -/
theorem ofSyntax?_toJson (budget : Nat) (t : Node) :
    ofSyntax? (budget + 1) t.toJson.spelled =
      if t.children = [] then some t
      else match budget with
        | 0 => none
        | budget + 1 => (t.children.mapM fun u => ofSyntax? budget u.toJson.spelled).map
            fun us => { t with children := us } := by
  obtain ⟨key, name, result, error, detail, code⟩ := t.read_scalars
  obtain ⟨-, -, -, -, -, -, hchildren⟩ := t.lookup_members
  have hcode : (t.statusCode.map UInt16.toNat).map UInt16.ofNat = t.statusCode := by
    cases t.statusCode <;> simp
  have hlookup : t.spelledFields.lookup "results" = (t.members.lookup "results").map Value.spelled :=
    lookup_spelled t.members "results"
  rw [hchildren] at hlookup
  simp only [ofSyntax?, fields?_toJson, Option.bind_eq_bind, Option.bind_some, key, error, detail,
    code, name, result, hcode]
  by_cases hc : t.children = []
  · rw [if_pos hc] at hlookup ⊢
    simp only [optional?, hlookup, Option.map_none, Option.bind_some, Option.pure_def]
    cases t
    cases hc
    rfl
  · rw [if_neg hc] at hlookup ⊢
    cases budget with
    | zero => simp [optional?, hlookup]
    | succ budget =>
      simp only [optional?, hlookup, Option.map_some, Value.spelled, spelledItems_eq_map,
        List.map_map, readList?, List.mapM_map]
      exact Option.map_eq_bind.symm

/-! ## There and back -/

theorem mapM_eq_some {α : Type} {f : α → Option α} {l : List α} (h : ∀ a ∈ l, f a = some a) :
    l.mapM f = some l := by
  induction l with
  | nil => rfl
  | cons a l ih => simp [h a List.mem_cons_self, ih fun b hb => h b (List.mem_cons_of_mem a hb)]

theorem mapM_eq_none {α β : Type} {f : α → Option β} {l : List α} {a : α} (ha : a ∈ l)
    (h : f a = none) : l.mapM f = none := by
  induction l with
  | nil => cases ha
  | cons b l ih =>
    rcases List.mem_cons.mp ha with rfl | ha
    · simp [h]
    · simp [ih ha]

/-- A node that was written is read back if its height is within the levels of nesting. -/
theorem ofSyntax?_toJson_of_le {t : Node} {budget : Nat} (h : 2 * t.height ≤ budget + 1) :
    ofSyntax? budget t.toJson.spelled = some t := by
  induction t using children_induction generalizing budget with
  | h t ih =>
    have ht := height_eq t
    obtain ⟨budget, rfl⟩ : ∃ n, budget = n + 1 := ⟨budget - 1, by omega⟩
    rw [ofSyntax?_toJson]
    by_cases hc : t.children = []
    · rw [if_pos hc]
    · obtain ⟨u, us, hu⟩ := List.exists_cons_of_ne_nil hc
      have hlt := height_lt_of_mem (t := t) (u := u) (by rw [hu]; exact List.mem_cons_self)
      have hu1 := height_eq u
      obtain ⟨budget, rfl⟩ : ∃ n, budget = n + 1 := ⟨budget - 1, by omega⟩
      rw [if_neg hc]
      dsimp only
      rw [mapM_eq_some fun v hv => ih v hv (by have := height_lt_of_mem hv; omega)]
      cases t
      rfl

/-- A node that is higher is not read at all. -/
theorem ofSyntax?_toJson_of_lt {t : Node} {budget : Nat} (h : budget + 1 < 2 * t.height) :
    ofSyntax? budget t.toJson.spelled = none := by
  induction t using children_induction generalizing budget with
  | h t ih =>
    have ht := height_eq t
    match budget with
    | 0 => rfl
    | budget + 1 =>
      have hc : t.children ≠ [] := by rintro hc; rw [hc, listHeight] at ht; omega
      rw [ofSyntax?_toJson, if_neg hc]
      match budget with
      | 0 => rfl
      | budget + 1 =>
        obtain ⟨u, hu, hlt⟩ : ∃ u ∈ t.children, budget + 1 < 2 * u.height := by
          refine Classical.byContradiction fun hno => ?_
          have hall := listHeight_le.mpr fun u hu => show u.height ≤ (budget + 1) / 2 by
            refine Classical.byContradiction fun hu' => hno ⟨u, hu, by omega⟩
          omega
        dsimp only
        rw [mapM_eq_none hu (ih u hu hlt)]
        rfl

/-- A node that is read takes a level of nesting. It is a record with a name and a flag, and the list of
its children is absent or takes one more level. -/
theorem record_of_ofSyntax? {budget : Nat} {s : Syntax} {t : Node} (h : ofSyntax? budget s = some t) :
    ∃ b fields, budget = b + 1 ∧ fields? fieldNames s = some fields ∧
      required? fields "name" readText? = some t.name ∧
      required? fields "result" readBool? = some t.passed ∧
      optional? fields "results" [] (fun s => match b with
        | 0 => none
        | b + 1 => readList? (ofSyntax? b) s) = some t.children := by
  cases budget with
  | zero => cases h
  | succ b =>
    simp only [ofSyntax?, Option.bind_eq_bind, Option.bind_eq_some_iff, Option.pure_def,
      Option.some.injEq] at h
    obtain ⟨fields, hs, -, -, name, hname, passed, hpassed, -, -, -, -, -, -, children, hchildren,
      rfl⟩ := h
    exact ⟨b, fields, rfl, hs, hname, hpassed, hchildren⟩

/-- The children of a node that is read are absent, or read with two levels of nesting less. -/
theorem children_of_ofSyntax? {budget : Nat} {s : Syntax} {t : Node}
    (h : ofSyntax? (budget + 1) s = some t) :
    t.children = [] ∨ ∃ (b : Nat) (items : List Syntax), budget = b + 1 ∧
      items.mapM (ofSyntax? b) = some t.children := by
  obtain ⟨b, fields, hb, -, -, -, hchildren⟩ := record_of_ofSyntax? h
  obtain rfl : budget = b := by omega
  unfold optional? at hchildren
  split at hchildren
  · exact .inl (Option.some.inj hchildren).symm
  · match budget with
    | 0 => cases hchildren
    | b + 1 =>
      dsimp only at hchildren
      unfold readList? at hchildren
      split at hchildren
      · exact .inr ⟨b, _, rfl, hchildren⟩
      · cases hchildren

theorem mem_of_mapM_eq_some {α β : Type} {f : α → Option β} {l : List α} {bs : List β}
    (h : l.mapM f = some bs) {b : β} (hb : b ∈ bs) : ∃ a ∈ l, f a = some b := by
  induction l generalizing bs with
  | nil => cases h; cases hb
  | cons a l ih =>
    simp only [List.mapM_cons, Option.bind_eq_bind, Option.bind_eq_some_iff, Option.pure_def,
      Option.some.injEq] at h
    obtain ⟨c, hc, cs, hcs, rfl⟩ := h
    rcases List.mem_cons.mp hb with rfl | hb
    · exact ⟨a, List.mem_cons_self, hc⟩
    · obtain ⟨a', ha', hfa⟩ := ih hcs hb
      exact ⟨a', List.mem_cons_of_mem a ha', hfa⟩

/-- A node that is read is no higher than the levels of nesting allow. -/
theorem height_of_ofSyntax? {budget : Nat} {s : Syntax} {t : Node}
    (h : ofSyntax? budget s = some t) : 2 * t.height ≤ budget + 1 := by
  induction t using children_induction generalizing budget s with
  | h t ih =>
    match budget with
    | 0 => cases h
    | budget + 1 =>
      have ht := height_eq t
      rcases children_of_ofSyntax? h with hc | ⟨b, items, rfl, hitems⟩
      · rw [hc, listHeight] at ht
        omega
      · have hall : listHeight t.children ≤ (b + 1) / 2 := listHeight_le.mpr fun u hu => by
          obtain ⟨s', -, hs'⟩ := mem_of_mapM_eq_some hitems hu
          have := ih u hu hs'
          omega
        omega

/-! ## Texts -/

theorem parse?_text_eq (t : Node) : parse? t.text = ofSyntax? maxNesting t.toJson.spelled := by
  rw [parse?, text, Json.parse?_text]
  rfl

/-- The text of a tree of height 64 at most is read as that tree, the text of a higher one is refused, and
no text is read as a higher one; so a tree that was read can be written and read again. -/
theorem parse?_text_roundTrip :
    (∀ t : Node, t.height ≤ 64 → parse? t.text = some t) ∧
    (∀ t : Node, 64 < t.height → parse? t.text = none) ∧
    ∀ (s : String) (t : Node), parse? s = some t → t.height ≤ 64 ∧ parse? t.text = some t := by
  have hread : ∀ t : Node, t.height ≤ 64 → parse? t.text = some t := fun t h => by
    rw [parse?_text_eq]
    exact ofSyntax?_toJson_of_le (by rw [maxNesting]; omega)
  refine ⟨hread, fun t h => ?_, fun s t h => ?_⟩
  · rw [parse?_text_eq]
    exact ofSyntax?_toJson_of_lt (by rw [maxNesting]; omega)
  · obtain ⟨x, -, hx⟩ := Option.bind_eq_some_iff.mp h
    have hheight : t.height ≤ 64 := by
      have := height_of_ofSyntax? hx
      rw [maxNesting] at this
      omega
    exact ⟨hheight, hread t hheight⟩

end Checkup.Node
