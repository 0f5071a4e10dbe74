import Checkup.Proofs.Json.Fields

/-!
# What syntax means

`Means n s v` says that the syntax `s` is that of the value `v`, with at most `n` arrays and objects open at
once. A string means the text that its literal denotes, an array the list of what its items mean, and an
object the members with ascending keys, of which the last one of a key counts. A number means what its digits
say, in the precision that it has.

Results:
* `eq_sortEntries`: ascending entries with the last one of each key are those that are sorted.
* `value_eq_some`: a value is read of syntax exactly if that is what the syntax means.
-/
namespace Checkup.Json

/-- The entries have ascending keys, and are the last ones of these among some others. -/
def Settled {α : Type} (entries es : List (String × α)) : Prop :=
  Ascending es ∧ ∀ e, e ∈ es ↔ LastOf entries e

theorem eq_sortEntries {α : Type} {entries es : List (String × α)} :
    es = sortEntries entries ↔ Settled entries es := by
  constructor
  · rintro rfl
    exact ⟨ascending_sortEntries entries, fun e => mem_sortEntries⟩
  · rintro ⟨hascending, hmem⟩
    apply hascending.ext (ascending_sortEntries entries)
    intro e
    rw [hmem, mem_sortEntries]

/-- The syntax means the value. -/
def Means : Nat → Syntax → Value → Prop
  | _, .null, v => v = .null
  | _, .bool b, v => v = .bool b
  | _, .number x, v => ∃ y, x.number? = some y ∧ v = .number y
  | _, .string ps, v => ∃ text : String, Denotes ps text.toList ∧ v = .string text
  | 0, .array _, _ => False
  | 0, .object _, _ => False
  | n + 1, .array items, v => ∃ vs, List.Forall₂ (Means n) items vs ∧ v = .array vs
  | n + 1, .object members, v => ∃ entries es,
      List.Forall₂ (fun m e => Denotes m.1 e.1.toList ∧ Means n m.2 e.2) members entries ∧
        Settled entries es ∧ v = .object es

theorem entry_eq_some {n : Nat} {m : List Piece × Syntax} {e : String × Value}
    (ih : ∀ v, Value.ofSyntax? n m.2 = some v ↔ Means n m.2 v) :
    ((stringOf? m.1).bind fun key => (Value.ofSyntax? n m.2).bind fun value => some (key, value)) = some e ↔
      Denotes m.1 e.1.toList ∧ Means n m.2 e.2 := by
  obtain ⟨key, value⟩ := e
  simp only [Option.bind_eq_some_iff, Option.some.injEq, Prod.mk.injEq, stringOf?_eq_some, ih]
  constructor
  · rintro ⟨_, hkey, _, hvalue, rfl, rfl⟩
    exact ⟨hkey, hvalue⟩
  · intro ⟨hkey, hvalue⟩
    exact ⟨key, hkey, value, hvalue, rfl, rfl⟩

/-- A value is read of syntax exactly if that is what the syntax means. -/
theorem value_eq_some {n : Nat} {s : Syntax} {v : Value} : Value.ofSyntax? n s = some v ↔ Means n s v := by
  induction n generalizing s v with
  | zero =>
    cases s with
    | null | bool =>
      rw [Value.ofSyntax?, Means, Option.some.injEq]
      exact eq_comm
    | number | string =>
      simp only [Value.ofSyntax?, Means, Option.map_eq_some_iff, stringOf?_eq_some, eq_comm (a := v)]
    | array | object => exact ⟨nofun, False.elim⟩
  | succ n ih =>
    cases s with
    | null | bool =>
      rw [Value.ofSyntax?, Means, Option.some.injEq]
      exact eq_comm
    | number | string =>
      simp only [Value.ofSyntax?, Means, Option.map_eq_some_iff, stringOf?_eq_some, eq_comm (a := v)]
    | array items =>
      simp only [Value.ofSyntax?, Means, Option.map_eq_some_iff, mapM_eq_some_iff, ih, eq_comm (a := v)]
    | object members =>
      have hentry (m : List Piece × Syntax) (e : String × Value) := entry_eq_some (m := m) (e := e) fun v => ih
      simp only [Value.ofSyntax?, Means, Option.bind_eq_bind, Option.pure_def]
      rw [Option.bind_eq_some_iff]
      simp only [mapM_eq_some_iff, hentry, Option.some.injEq, ← eq_sortEntries]
      constructor
      · rintro ⟨entries, hentries, rfl⟩
        exact ⟨entries, _, hentries, rfl, rfl⟩
      · rintro ⟨entries, _, hentries, rfl, rfl⟩
        exact ⟨entries, hentries, rfl⟩

end Checkup.Json
