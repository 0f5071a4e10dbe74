import Checkup.Proofs.Json.Compact

/-!
# The indented text of a value

A line break and an indentation are a gap, so the indented text of a value spells the same as the compact one:
every item and member stands behind a gap of its own, and the closing bracket behind another.

Results:
* `valueText_indented`: a value is written as it is spelled, by recursion over the value.
* `spells_prettyText`: so the whole text spells it, whatever gap stands behind it.
-/
namespace Checkup.Json

theorem gap_lineBreak (depth : Nat) : Gap (lineBreak depth) := by
  intro c hc
  rcases List.mem_cons.mp hc with rfl | hc
  · rfl
  · obtain ⟨-, rfl⟩ := List.mem_replicate.mp hc
    rfl

theorem gap_space : Gap [' '] := by
  intro c hc
  cases List.mem_singleton.mp hc
  rfl

mutual

/-- A value is written as it is spelled, at any depth. -/
theorem valueText_indented (depth : Nat) : ∀ v : Value, ValueText v.spelled (v.indented depth)
  | .null => .null
  | .bool true => .yes
  | .bool false => .no
  | .number n => valueText_chars n
  | .string s => .string (stringText_quoted s.toList)
  | .array [] => .emptyArray gap_nil
  | .array (v :: vs) => by
    obtain ⟨cs, hcs, h⟩ := itemsText_indented (depth + 1) (gap_lineBreak depth) (v :: vs) nofun
    rw [Value.indented, hcs, List.append_assoc, List.append_assoc]
    exact .array (gap_lineBreak (depth + 1)) h
  | .object [] => .emptyObject gap_nil
  | .object (m :: ms) => by
    obtain ⟨cs, hcs, h⟩ := membersText_indented (depth + 1) (gap_lineBreak depth) (m :: ms) nofun
    rw [Value.indented, hcs, List.append_assoc, List.append_assoc]
    exact .object (gap_lineBreak (depth + 1)) h

/-- Items are written as they are spelled, behind a line break and with any gap before the bracket. -/
theorem itemsText_indented (depth : Nat) {g : List Char} (hg : Gap g) : ∀ vs : List Value, vs ≠ [] →
    ∃ cs, indentedItems depth vs = lineBreak depth ++ cs ∧ ItemsText (spelledItems vs) (cs ++ (g ++ [']']))
  | [], h => absurd rfl h
  | v :: [], _ => ⟨v.indented depth, rfl, .last (valueText_indented depth v) hg⟩
  | v :: w :: vs, _ => by
    obtain ⟨cs, hcs, h⟩ := itemsText_indented depth hg (w :: vs) nofun
    refine ⟨v.indented depth ++ ',' :: (lineBreak depth ++ cs), ?_, ?_⟩
    · rw [indentedItems, hcs, List.append_assoc]
    · have hmore := ItemsText.more (valueText_indented depth v) gap_nil (gap_lineBreak depth) h
      simpa [spelledItems] using hmore

/-- Members are written as they are spelled, in the same way. -/
theorem membersText_indented (depth : Nat) {g : List Char} (hg : Gap g) :
    ∀ ms : List (String × Value), ms ≠ [] → ∃ cs, indentedMembers depth ms = lineBreak depth ++ cs ∧
      MembersText (spelledMembers ms) (cs ++ (g ++ ['}']))
  | [], h => absurd rfl h
  | (key, v) :: [], _ => by
    refine ⟨quote key ++ ':' :: ' ' :: v.indented depth, ?_, ?_⟩
    · rw [indentedMembers, List.append_assoc]
    · have hlast := MembersText.last (stringText_quoted key.toList) gap_nil gap_space
        (valueText_indented depth v) hg
      simpa [quote, spelledMembers] using hlast
  | (key, v) :: (key', w) :: ms, _ => by
    obtain ⟨cs, hcs, h⟩ := membersText_indented depth hg ((key', w) :: ms) nofun
    refine ⟨quote key ++ ':' :: ' ' :: v.indented depth ++ ',' :: (lineBreak depth ++ cs), ?_, ?_⟩
    · rw [indentedMembers, hcs]
      simp
    · have hmore := MembersText.more (stringText_quoted key.toList) gap_nil gap_space
        (valueText_indented depth v) gap_nil (gap_lineBreak depth) h
      simpa [quote, spelledMembers] using hmore

end

/-- The indented text of a value spells it, also with a gap behind it. -/
theorem spells_prettyText (v : Value) {g : List Char} (hg : Gap g) :
    Spells v.spelled (v.prettyText ++ String.ofList g) := by
  refine ⟨[], v.indented 0, g, gap_nil, valueText_indented 0 v, hg, ?_⟩
  rw [String.toList_append, Value.prettyText, String.toList_ofList, String.toList_ofList, List.nil_append]

end Checkup.Json
