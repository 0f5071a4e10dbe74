import Mathlib.Data.List.DropRight
import Checkup.Text.Blank

/-!
# What trimming leaves

Results:
* `trim_eq_empty`: trimming leaves nothing of the blank texts, and of no others.
* `trimChars_eq_iff`: what stands between blanks, and has none itself, is what trimming leaves.
-/
namespace Checkup.Text

theorem trimChars_eq_nil {cs : List Char} : trimChars cs = [] ↔ ∀ c ∈ cs, isBlankChar c = true := by
  have hends : trimChars cs = (cs.dropWhile isBlankChar).rdropWhile isBlankChar := rfl
  rw [hends, List.rdropWhile_eq_nil_iff]
  constructor
  · intro h c hc
    have hsplit := List.takeWhile_append_dropWhile (p := isBlankChar) (l := cs)
    rw [← hsplit] at hc
    rcases List.mem_append.mp hc with hc | hc
    · exact List.mem_takeWhile_imp hc
    · exact h c hc
  · intro h c hc
    exact h c ((List.dropWhile_sublist _).subset hc)

theorem trim_eq_empty {s : String} : trim s = "" ↔ isBlank s = true := by
  unfold trim isBlank
  rw [List.all_eq_true, ← trimChars_eq_nil]
  constructor
  · intro h
    have := congrArg String.toList h
    simpa using this
  · intro h
    rw [h]

/-- Nothing is dropped of a text in front of which nothing is to be dropped. -/
theorem dropWhile_of_head {p : Char → Bool} {front : List Char} (hne : front ≠ [])
    (hfront : ∀ c ∈ front, p c = false) (back : List Char) :
    (front ++ back).dropWhile p = front ++ back := by
  obtain ⟨c, front, rfl⟩ := List.exists_cons_of_ne_nil hne
  rw [List.cons_append, List.dropWhile_cons_of_neg]
  rw [hfront c List.mem_cons_self]
  exact Bool.false_ne_true

theorem trimChars_eq_iff {cs core : List Char} (hcore : ∀ c ∈ core, isBlankChar c = false) :
    trimChars cs = core ↔ ∃ before after, cs = before ++ core ++ after ∧
      (∀ c ∈ before, isBlankChar c = true) ∧ ∀ c ∈ after, isBlankChar c = true := by
  constructor
  · intro h
    have hends : trimChars cs = (cs.dropWhile isBlankChar).rdropWhile isBlankChar := rfl
    refine ⟨cs.takeWhile isBlankChar, (cs.dropWhile isBlankChar).rtakeWhile isBlankChar, ?_,
      fun c => List.mem_takeWhile_imp, fun c => List.mem_rtakeWhile_imp⟩
    rw [← h, hends, List.append_assoc, List.rdropWhile_append_rtakeWhile,
      List.takeWhile_append_dropWhile]
  · intro ⟨before, after, hcs, hbefore, hafter⟩
    by_cases hne : core = []
    · subst hne
      rw [trimChars_eq_nil, hcs]
      intro c hc
      rw [List.append_nil, List.mem_append] at hc
      exact hc.elim (hbefore c) (hafter c)
    · have hback : ∀ c ∈ core.reverse, isBlankChar c = false := fun c hc =>
        hcore c (List.mem_reverse.mp hc)
      have hend := dropWhile_of_head (by simpa using hne) hback []
      rw [List.append_nil] at hend
      rw [trimChars, hcs, List.append_assoc, List.dropWhile_append_of_pos hbefore,
        dropWhile_of_head hne hcore, List.reverse_append,
        List.dropWhile_append_of_pos (fun c hc => hafter c (List.mem_reverse.mp hc)), hend,
        List.reverse_reverse]

end Checkup.Text
