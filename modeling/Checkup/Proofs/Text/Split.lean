import Checkup.Text.Split

/-!
# Splitting what was put together

Results:
* `splitChars_append`: a separator separates.
* `splitChars_intercalate`: parts without separators are found again.
* `splitOnce?_append`: so are two parts of which the first has no separator.
* `takeWhile_append_cons` and `dropWhile_append_of_head`: where a walk over a list stops.
-/
namespace Checkup.Text

section
variable {α : Type} {p : α → Bool}

theorem takeWhile_append_cons {a : α} (ha : p a = false) (front back : List α) :
    (front ++ a :: back).takeWhile p = front.takeWhile p := by
  induction front with
  | nil => simp [ha]
  | cons b front ih => rw [List.cons_append, List.takeWhile_cons, List.takeWhile_cons, ih]

theorem dropWhile_append_of_head {xs ys : List α} (h : ys.dropWhile p = ys) :
    (xs ++ ys).dropWhile p = xs.dropWhile p ++ ys := by
  rw [List.dropWhile_append, h]
  split
  · next hempty => rw [List.isEmpty_iff.mp hempty, List.nil_append]
  · rfl

end

variable {sep : Char} {cs : List Char}

theorem splitChars_ne_nil (cs : List Char) : splitChars sep cs ≠ [] := by
  cases cs with
  | nil => exact List.cons_ne_nil _ _
  | cons c cs =>
    rw [splitChars]
    split
    · exact List.cons_ne_nil _ _
    · split <;> exact List.cons_ne_nil _ _

theorem splitChars_append (front back : List Char) :
    splitChars sep (front ++ sep :: back) = splitChars sep front ++ splitChars sep back := by
  induction front with
  | nil => simp [splitChars]
  | cons c front ih =>
    rw [List.cons_append, splitChars, splitChars, ih]
    by_cases hc : c = sep
    · rw [if_pos hc, if_pos hc, List.cons_append]
    · rw [if_neg hc, if_neg hc]
      cases hfront : splitChars sep front with
      | nil => exact (splitChars_ne_nil front hfront).elim
      | cons part parts => rfl

theorem splitChars_of_notMem (h : sep ∉ cs) : splitChars sep cs = [cs] := by
  induction cs with
  | nil => rfl
  | cons c cs ih =>
    obtain ⟨hc, hcs⟩ : sep ≠ c ∧ sep ∉ cs := by simpa using h
    rw [splitChars, if_neg (Ne.symm hc), ih hcs]

theorem splitChars_intercalate {parts : List (List Char)} (hne : parts ≠ [])
    (h : ∀ part ∈ parts, sep ∉ part) : splitChars sep ([sep].intercalate parts) = parts := by
  induction parts with
  | nil => exact (hne rfl).elim
  | cons part parts ih =>
    obtain ⟨hpart, hparts⟩ := List.forall_mem_cons.mp h
    cases parts with
    | nil => rw [List.intercalate_singleton, splitChars_of_notMem hpart]
    | cons next rest =>
      rw [List.intercalate_cons_cons, List.append_assoc, List.singleton_append, splitChars_append,
        splitChars_of_notMem hpart, ih (List.cons_ne_nil _ _) hparts, List.singleton_append]

theorem splitOnce?_append {front : List Char} (h : sep ∉ front) (back : List Char) :
    splitOnce? sep (front ++ sep :: back) = some (front, back) := by
  have hfront : ∀ c ∈ front, (c != sep) = true := fun c hc => by
    rw [bne_iff_ne]
    exact fun heq => h (heq ▸ hc)
  rw [splitOnce?, List.dropWhile_append_of_pos hfront, List.takeWhile_append_of_pos hfront]
  simp

end Checkup.Text
