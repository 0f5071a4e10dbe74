import Checkup.Timed.Basic

/-!
# One activity after another

Moving a course in time composes, so activities obey the laws of sequencing: how a sequence is bracketed
makes no difference, and an activity that takes no time and calls nobody is a unit.
-/
namespace Checkup

@[simp] theorem Ending.later_zero {α : Type} (e : Ending α) : e.later 0 = e := by
  cases e <;> simp [later]

theorem Ending.later_later {α : Type} (e : Ending α) (t u : Nat) :
    (e.later u).later t = e.later (t + u) := by
  cases e <;> simp [later, Nat.add_assoc]

theorem Ending.time?_later {α : Type} (e : Ending α) (t : Nat) :
    (e.later t).time? = e.time?.map (t + ·) := by
  cases e <;> rfl

@[simp] theorem Ending.map_id {α : Type} (e : Ending α) : e.map id = e := by
  cases e <;> rfl

namespace Course

variable {ε α : Type}

@[simp] theorem laterCalls_zero (calls : List (Nat × ε)) : laterCalls 0 calls = calls := by
  simp [laterCalls]

theorem laterCalls_laterCalls (t u : Nat) (calls : List (Nat × ε)) :
    laterCalls t (laterCalls u calls) = laterCalls (t + u) calls := by
  simp [laterCalls, Nat.add_assoc, Function.comp_def]

theorem laterCalls_append (t : Nat) (calls calls' : List (Nat × ε)) :
    laterCalls t (calls ++ calls') = laterCalls t calls ++ laterCalls t calls' :=
  List.map_append

theorem map_snd_laterCalls (t : Nat) (calls : List (Nat × ε)) :
    (laterCalls t calls).map Prod.snd = calls.map Prod.snd := by
  simp [laterCalls, Function.comp_def]

@[simp] theorem following_nil_zero (c : Course ε α) : following [] 0 c = c := by
  simp [following]

theorem following_following (calls calls' : List (Nat × ε)) (t u : Nat) (c : Course ε α) :
    following calls t (following calls' u c) =
      following (calls ++ laterCalls t calls') (t + u) c := by
  simp only [following, laterCalls_append, laterCalls_laterCalls, Ending.later_later,
    List.append_assoc]

end Course

namespace Timed

variable {ε α β : Type} {x : Timed ε α} {f : α → Timed ε β} {tok : Token}

theorem bind_returned {t : Nat} {tok' : Token} {v : α} (h : (x tok).ending = .returned t tok' v) :
    (x >>= f) tok = Course.following (x tok).calls t (f v tok') := by
  show bind x f tok = _
  simp only [bind, h]

theorem bind_panicked {t : Nat} {p : Panic} (h : (x tok).ending = .panicked t p) :
    (x >>= f) tok = ⟨(x tok).calls, .panicked t p⟩ := by
  show bind x f tok = _
  simp only [bind, h]

theorem bind_never (h : (x tok).ending = .never) : (x >>= f) tok = ⟨(x tok).calls, .never⟩ := by
  show bind x f tok = _
  simp only [bind, h]

/-- A call of a sequence is one of its first part, or one that the second makes from the end of the first
on. -/
theorem mem_calls_bind {k : Nat} {e : ε} (h : (k, e) ∈ ((x >>= f) tok).calls) :
    (k, e) ∈ (x tok).calls ∨ ∃ t tok' v k', (x tok).ending = .returned t tok' v ∧
      (k', e) ∈ (f v tok').calls ∧ k = t + k' := by
  cases hx : (x tok).ending with
  | returned t tok' v =>
    rw [bind_returned hx] at h
    rcases List.mem_append.mp h with h | h
    · exact .inl h
    · obtain ⟨⟨k', e'⟩, hmem, he⟩ := List.mem_map.mp h
      cases he
      exact .inr ⟨t, tok', v, k', rfl, hmem, rfl⟩
  | panicked t p => rw [bind_panicked hx] at h; exact .inl h
  | never => rw [bind_never hx] at h; exact .inl h

/-- The first call of a sequence is that of its first part, if this makes any. -/
theorem head?_calls_bind (h : (x tok).calls ≠ []) : ((x >>= f) tok).calls.head? = (x tok).calls.head? := by
  obtain ⟨call, calls, hcalls⟩ := List.exists_cons_of_ne_nil h
  cases hx : (x tok).ending with
  | returned t tok' v =>
    rw [bind_returned hx, Course.following, hcalls]
    rfl
  | panicked t p => rw [bind_panicked hx]
  | never => rw [bind_never hx]

/-- Changing the value takes no time. -/
theorem bind_pure_apply (x : Timed ε α) (g : α → β) (tok : Token) :
    (x >>= fun v => Pure.pure (g v)) tok = ⟨(x tok).calls, (x tok).ending.map g⟩ := by
  cases hx : (x tok).ending with
  | returned t tok' v =>
    rw [bind_returned hx]
    simp [Course.following, Pure.pure, pure, Course.laterCalls, Ending.later, Ending.map]
  | panicked t p => rw [bind_panicked hx]; rfl
  | never => rw [bind_never hx]; rfl

theorem bind_assoc' {γ : Type} (x : Timed ε α) (f : α → Timed ε β) (g : β → Timed ε γ) (tok : Token) :
    (x >>= f >>= g) tok = (x >>= fun v => f v >>= g) tok := by
  cases hx : (x tok).ending with
  | returned t tok' v =>
    have hxf := bind_returned (f := f) hx
    rw [bind_returned hx]
    cases hf : (f v tok').ending with
    | returned u tok'' w =>
      rw [bind_returned hf, bind_returned (by rw [hxf, Course.following, hf]; rfl), hxf,
        Course.following_following]
      rfl
    | panicked u p =>
      rw [bind_panicked hf, bind_panicked (by rw [hxf, Course.following, hf]; rfl), hxf]
      rfl
    | never =>
      rw [bind_never hf, bind_never (by rw [hxf, Course.following, hf]; rfl), hxf]
      rfl
  | panicked t p =>
    have hxf := bind_panicked (f := f) hx
    rw [bind_panicked hx, bind_panicked (by rw [hxf]), hxf]
  | never =>
    have hxf := bind_never (f := f) hx
    rw [bind_never hx, bind_never (by rw [hxf]), hxf]

instance : LawfulMonad (Timed ε) :=
  LawfulMonad.mk' _
    (fun x => funext fun tok => (bind_pure_apply x id tok).trans (by rw [Ending.map_id]))
    (fun v f => funext fun tok => by
      rw [bind_returned (x := Pure.pure v) rfl]; exact Course.following_nil_zero _)
    (fun x f g => funext fun tok => bind_assoc' x f g tok)

end Timed
end Checkup
