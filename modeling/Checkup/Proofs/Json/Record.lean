import Checkup.Proofs.Json.Compact

/-!
# Reading a record that was written

A record that is written as an object, with some of its fields, is read back field by field: each reader
gets the spelling of the value that was written, and undoes it.

Results:
* `fields?_spelled`: the fields are those that were written, whichever they are.
* `readText?_spelled`, `readBool?_spelled` and `readNatural?_spelled`: reading undoes spelling.
* `optional?_spelled`: so it does for a field that may be missing.
-/
namespace Checkup.Json

/-! ## Fields -/

theorem mapM_key_spelledMembers (ms : List (String × Value)) :
    ((spelledMembers ms).mapM fun m => (stringOf? m.1).map fun key => (key, m.2)) =
      some (ms.map fun m => (m.1, m.2.spelled)) := by
  induction ms with
  | nil => rfl
  | cons m ms ih =>
    obtain ⟨key, v⟩ := m
    simp [spelledMembers, stringOf?_map_charPiece, ih]

/-- The fields of an object are its members, if these have different names and all of them are known. -/
theorem fields?_spelled {known : List String} {ms : List (String × Value)}
    (hknown : ms.map Prod.fst ⊆ known) (hnodup : (ms.map Prod.fst).Nodup) :
    fields? known (Value.object ms).spelled = some (ms.map fun m => (m.1, m.2.spelled)) := by
  have hfilter : (ms.map fun m => (m.1, m.2.spelled)).filter (fun e => known.contains e.1) =
      ms.map fun m => (m.1, m.2.spelled) := by
    rw [List.filter_eq_self]
    intro e he
    obtain ⟨m, hm, rfl⟩ := List.mem_map.mp he
    exact List.elem_eq_true_of_mem (hknown (List.mem_map_of_mem hm))
  have hkeys : ((ms.map fun m => (m.1, m.2.spelled)).map Prod.fst).Nodup := by
    rwa [List.map_map, show (Prod.fst ∘ fun m : String × Value => (m.1, m.2.spelled)) = Prod.fst from rfl]
  simp only [Value.spelled, fields?, knownMembers?, mapM_key_spelledMembers, Option.bind_eq_bind,
    Option.bind_some, Option.pure_def, hfilter, if_pos hkeys]

/-- A field is looked up among the members before they are spelled. -/
theorem lookup_spelled (ms : List (String × Value)) (name : String) :
    (ms.map fun m => (m.1, m.2.spelled)).lookup name = (ms.lookup name).map Value.spelled := by
  induction ms with
  | nil => rfl
  | cons m ms ih =>
    obtain ⟨key, v⟩ := m
    simp only [List.map_cons, List.lookup_cons, ih]
    cases name == key <;> rfl

/-! ## Readers -/

theorem readText?_spelled (s : String) : readText? (Value.string s).spelled = some s :=
  stringOf?_map_charPiece s

theorem readBool?_spelled (b : Bool) : readBool? (Value.bool b).spelled = some b := rfl

theorem le_foldl_digits (ds : List Char) (n : Nat) :
    n ≤ ds.foldl (fun n d => 10 * n + Text.digitValue d) n := by
  induction ds generalizing n with
  | nil => exact Nat.le_refl n
  | cons d ds ih => exact Nat.le_trans (by omega) (ih (10 * n + Text.digitValue d))

/-- As long as a number fits 64 bits, no digit of it is left out. -/
theorem leading_of_lt {ds : List Char} {n : Nat}
    (h : ds.foldl (fun n d => 10 * n + Text.digitValue d) n < 2 ^ (64 : Nat)) :
    leading n ds = (ds.foldl (fun n d => 10 * n + Text.digitValue d) n, 0) := by
  induction ds generalizing n with
  | nil => rfl
  | cons d ds ih =>
    rw [List.foldl_cons] at h ⊢
    rw [leading, if_pos (Nat.lt_of_le_of_lt (le_foldl_digits ds _) h), ih h]

theorem number?_decimal {n : Nat} (h : n < 2 ^ (64 : Nat)) :
    (⟨false, Text.decimal n, none, none⟩ : Numeral).number? = some (.natural n) := by
  have hleading : leading 0 (Text.decimal n) = (n, 0) := by
    have hvalue := Text.valueOfDigits_decimal n
    rw [Text.valueOfDigits] at hvalue
    rw [leading_of_lt (by rw [hvalue]; exact h), hvalue]
  simp [Numeral.number?, hleading]

theorem readNatural?_spelled {bound n : Nat} (hn : n ≤ bound) (h : n < 2 ^ (64 : Nat)) :
    readNatural? bound (Value.number (.natural n)).spelled = some n := by
  simp [Value.spelled, Number.spelled, readNatural?, number?_decimal h, hn]

/-- A field that may be missing is read back, whether it was written or not. -/
theorem optional?_spelled {α : Type} {fields : List (String × Syntax)} {name : String}
    {read : Syntax → Option α} {write : α → Value} {o : Option α}
    (h : fields.lookup name = (o.map write).map Value.spelled)
    (hread : ∀ a ∈ o, read (write a).spelled = some a) (hnull : ∀ a, (write a).spelled ≠ .null) :
    optional? fields name none (readNullable? read) = some o := by
  cases o with
  | none => simp [optional?, h]
  | some a =>
    have hsome : readNullable? read (write a).spelled = (read (write a).spelled).map some := by
      have := hnull a
      unfold readNullable?
      split
      case h_1 heq => exact absurd heq this
      case h_2 => rfl
    simp [optional?, h, hsome, hread a rfl]

end Checkup.Json
