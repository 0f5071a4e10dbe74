import Mathlib.Data.Nat.Digits.Defs
import Checkup.Proofs.Text.Blank
import Checkup.Text.Decimal

/-!
# Writing a number and reading it back

Results:
* `valueOfDigits_decimal`: the digits of a number spell it.
* `natText_inj`: different numbers have different texts.
* `isDigit_of_mem_decimal` and `head?_decimal`: they are digits, and zero stands in front for zero only.
* `readBounded?_eq_some` and `readBounded?_trim`: what a bounded reading accepts, as it is and trimmed.
* `spells_of_writes`: a number may have zeros and a sign in front, and blanks around it.
-/
namespace Checkup.Text

theorem digitValue_digitChar : ∀ d < 10, digitValue (digitChar d) = d := by decide

theorem valueOfDigits_append (ds : List Char) (c : Char) :
    valueOfDigits (ds ++ [c]) = 10 * valueOfDigits ds + digitValue c := by
  simp [valueOfDigits]

theorem valueOfDigits_decimal (n : Nat) : valueOfDigits (decimal n) = n := by
  fun_induction decimal n with
  | case1 n h => simp [valueOfDigits, digitValue_digitChar n h]
  | case2 n h ih =>
    rw [valueOfDigits_append, ih, digitValue_digitChar _ (Nat.mod_lt n (by decide))]
    omega

theorem natText_inj {a b : Nat} (h : natText a = natText b) : a = b := by
  have hd : decimal a = decimal b := String.ofList_injective h
  rw [← valueOfDigits_decimal a, hd, valueOfDigits_decimal]

theorem isDigit_digitChar : ∀ d < 10, (digitChar d).isDigit = true := by decide

theorem isDigit_of_mem_decimal {n : Nat} : ∀ c ∈ decimal n, c.isDigit = true := by
  fun_induction decimal n with
  | case1 n h => simpa using isDigit_digitChar n h
  | case2 n h ih =>
    intro c hc
    rcases List.mem_append.mp hc with hc | hc
    · exact ih c hc
    · rw [List.mem_singleton.mp hc]
      exact isDigit_digitChar _ (Nat.mod_lt n (by decide))

theorem decimal_ne_nil (n : Nat) : decimal n ≠ [] := by
  fun_cases decimal n <;> simp

theorem digitChar_ne_zero : ∀ d < 10, 0 < d → digitChar d ≠ '0' := by decide

theorem head?_decimal {n : Nat} (hn : 0 < n) : (decimal n).head? ≠ some '0' := by
  fun_induction decimal n with
  | case1 n h => simpa using digitChar_ne_zero n h hn
  | case2 n h ih =>
    obtain ⟨d, ds, hd⟩ := List.exists_cons_of_ne_nil (decimal_ne_nil (n / 10))
    have ih := ih (by omega)
    rw [hd] at ih ⊢
    exact ih

/-! ## What is read -/

/-- The digits, of which there is at least one, spell the number. -/
structure IsDecimal (digits : List Char) (n : Nat) : Prop where
  ne_nil : digits ≠ []
  isDigit : ∀ c ∈ digits, c.isDigit = true
  value : Nat.ofDigits 10 (digits.reverse.map digitValue) = n

/-- A plus sign or nothing. -/
def IsSign (cs : List Char) : Prop := cs = [] ∨ cs = ['+']

/-- Between blanks, the text is digits that spell the number, perhaps with a plus sign in front. -/
def Spells (s : String) (n : Nat) : Prop :=
  ∃ before sign digits after, s.toList = before ++ (sign ++ digits) ++ after ∧
    (∀ c ∈ before, isBlankChar c = true) ∧ IsSign sign ∧ IsDecimal digits n ∧
      ∀ c ∈ after, isBlankChar c = true

/-- Between blanks, the text is the number in decimal, perhaps with a plus sign and zeros in front. -/
def Writes (s : String) (n : Nat) : Prop :=
  ∃ before sign zeros after,
    s.toList = before ++ (sign ++ (List.replicate zeros '0' ++ decimal n)) ++ after ∧
      (∀ c ∈ before, isBlankChar c = true) ∧ IsSign sign ∧ ∀ c ∈ after, isBlankChar c = true

theorem valueOfDigits_eq_ofDigits (ds : List Char) :
    valueOfDigits ds = Nat.ofDigits 10 (ds.reverse.map digitValue) := by
  induction ds using List.reverseRecOn with
  | nil => rfl
  | append_singleton ds c ih =>
    rw [valueOfDigits_append, ih, List.reverse_append, List.reverse_singleton, List.singleton_append,
      List.map_cons, Nat.ofDigits_cons]
    omega

/-- Zeros in front do not count. -/
theorem valueOfDigits_zeros (k : Nat) (ds : List Char) :
    valueOfDigits (List.replicate k '0' ++ ds) = valueOfDigits ds := by
  induction k with
  | zero => rfl
  | succ k ih =>
    rw [List.replicate_succ, List.cons_append, valueOfDigits, List.foldl_cons]
    exact ih

theorem isDecimal_zeros (k n : Nat) : IsDecimal (List.replicate k '0' ++ decimal n) n where
  ne_nil := List.append_ne_nil_of_right_ne_nil _ (decimal_ne_nil n)
  isDigit c hc := by
    rcases List.mem_append.mp hc with hc | hc
    · rw [List.eq_of_mem_replicate hc]
      rfl
    · exact isDigit_of_mem_decimal c hc
  value := by rw [← valueOfDigits_eq_ofDigits, valueOfDigits_zeros, valueOfDigits_decimal]

theorem spells_of_writes {s : String} {n : Nat} (h : Writes s n) : Spells s n := by
  obtain ⟨before, sign, zeros, after, hs, hbefore, hsign, hafter⟩ := h
  exact ⟨before, sign, _, after, hs, hbefore, hsign, isDecimal_zeros zeros n, hafter⟩

theorem readDigits?_eq_some {cs : List Char} {n : Nat} :
    readDigits? cs = some n ↔ IsDecimal cs n := by
  have hcond : (!cs.isEmpty && cs.all Char.isDigit) = true ↔
      cs ≠ [] ∧ ∀ c ∈ cs, c.isDigit = true := by simp
  rw [readDigits?, Option.ite_none_right_eq_some, hcond, Option.some.injEq, valueOfDigits_eq_ofDigits]
  exact ⟨fun h => ⟨h.1.1, h.1.2, h.2⟩, fun h => ⟨⟨h.ne_nil, h.isDigit⟩, h.value⟩⟩

theorem readBounded?_eq_some {bound n : Nat} {s : String} : readBounded? bound s = some n ↔
    n ≤ bound ∧ ∃ sign digits, s.toList = sign ++ digits ∧ IsSign sign ∧ IsDecimal digits n := by
  rw [readBounded?, Option.filter_eq_some_iff, decide_eq_true_eq, and_comm, readDigits?_eq_some]
  refine and_congr_right fun _ => ?_
  constructor
  · intro h
    split at h
    · next rest hs => exact ⟨['+'], rest, hs, .inr rfl, h⟩
    · exact ⟨[], s.toList, rfl, .inl rfl, h⟩
  · intro ⟨sign, digits, hs, hsign, hdigits⟩
    rw [hs]
    rcases hsign with rfl | rfl
    · rw [List.nil_append]
      split
      -- A digit is no sign.
      · exact absurd (hdigits.isDigit '+' List.mem_cons_self) (by decide)
      · exact hdigits
    · exact hdigits

theorem isBlankChar_of_isDigit {c : Char} (h : c.isDigit = true) : isBlankChar c = false := by
  have hc : 48 ≤ c.toNat ∧ c.toNat ≤ 57 := by
    simpa [Char.isDigit, UInt32.le_iff_toNat_le] using h
  simp only [isBlankChar, Bool.or_eq_false_iff, Bool.and_eq_false_iff, decide_eq_false_iff_not,
    beq_eq_false_iff_ne]
  omega

theorem isBlankChar_of_decimal {sign digits : List Char} {n : Nat} (hsign : IsSign sign)
    (hdigits : IsDecimal digits n) : ∀ c ∈ sign ++ digits, isBlankChar c = false := by
  intro c hc
  rcases List.mem_append.mp hc with hc | hc
  · rcases hsign with rfl | rfl
    · cases hc
    · rw [List.mem_singleton.mp hc]
      rfl
  · exact isBlankChar_of_isDigit (hdigits.isDigit c hc)

theorem readBounded?_trim {bound n : Nat} {s : String} :
    readBounded? bound (trim s) = some n ↔ n ≤ bound ∧ Spells s n := by
  rw [readBounded?_eq_some, trim, String.toList_ofList]
  refine and_congr_right fun _ => ?_
  constructor
  · intro ⟨sign, digits, hs, hsign, hdigits⟩
    obtain ⟨before, after, hs, hbefore, hafter⟩ :=
      (trimChars_eq_iff (isBlankChar_of_decimal hsign hdigits)).mp hs
    exact ⟨before, sign, digits, after, hs, hbefore, hsign, hdigits, hafter⟩
  · intro ⟨before, sign, digits, after, hs, hbefore, hsign, hdigits, hafter⟩
    exact ⟨sign, digits, (trimChars_eq_iff (isBlankChar_of_decimal hsign hdigits)).mpr
      ⟨before, after, hs, hbefore, hafter⟩, hsign, hdigits⟩

/-- A text spells one number at most. -/
theorem Spells.unique {s : String} {m n : Nat} (hm : Spells s m) (hn : Spells s n) : m = n := by
  have hread := readBounded?_trim.mpr ⟨Nat.le_max_left m n, hm⟩
  rw [readBounded?_trim.mpr ⟨Nat.le_max_right m n, hn⟩] at hread
  exact (Option.some.inj hread).symm

end Checkup.Text
