import Checkup.Proofs.Guards
import Checkup.Proofs.Json.Spelling

/-!
# What is read is in the grammar

The reader takes nothing for a value that the grammar has not: whatever a part of it reads is spelled by the
characters that it took. Together with the other direction, a text is read as some syntax exactly if it
spells that syntax.

Results:
* `stringText_of_read` and `numeralText_of_read`: a literal that is read is one.
* `spelled_of_read`: so for values, items and members, by induction on the fuel.
* `parse?_eq_some`: so for a whole text.
-/
namespace Checkup.Json

variable {cs rest : List Char}

theorem exists_gap (cs : List Char) : ∃ g, Gap g ∧ cs = g ++ skipGap cs := by
  refine ⟨cs.takeWhile isGap, fun c hc => List.mem_takeWhile_imp hc, ?_⟩
  rw [skipGap, List.takeWhile_append_dropWhile]

/-! ## Literals -/

theorem stringText_of_read {ps : List Piece} (h : readString cs = some (ps, rest)) :
    ∃ ks, cs = ks ++ rest ∧ StringText ps ks := by
  fun_induction readString cs generalizing ps with
  | case1 => cases h
  | case2 =>
    cases h
    exact ⟨['"'], rfl, .close⟩
  | case3 a b c d cs ih =>
    obtain ⟨code, hcode, h⟩ := Option.bind_eq_some_iff.mp h
    obtain ⟨⟨ps, rest⟩, hread, h⟩ := Option.bind_eq_some_iff.mp h
    cases h
    obtain ⟨ks, rfl, hks⟩ := ih hread
    exact ⟨_, rfl, .unit hcode hks⟩
  | case4 e cs _ ih =>
    obtain ⟨c, hc, h⟩ := Option.bind_eq_some_iff.mp h
    obtain ⟨⟨ps, rest⟩, hread, h⟩ := Option.bind_eq_some_iff.mp h
    cases h
    obtain ⟨ks, rfl, hks⟩ := ih hread
    exact ⟨_, rfl, .escape hc hks⟩
  | case5 => cases h
  | case6 c cs hquote _ _ hplain ih =>
    obtain ⟨⟨ps, rest⟩, hread, h⟩ := Option.bind_eq_some_iff.mp h
    cases h
    obtain ⟨ks, rfl, hks⟩ := ih hread
    simp only [Bool.or_eq_true, decide_eq_true_eq, beq_iff_eq, not_or, Nat.not_lt] at hplain
    exact ⟨_, rfl, .plain hplain.1 hquote hplain.2 hks⟩

theorem digits_of_read {ds : List Char} (h : readDigits cs = some (ds, rest)) :
    cs = ds ++ rest ∧ Digits ds := by
  simp only [readDigits, splitDigits, List.span_eq_takeWhile_dropWhile] at h
  split at h
  · cases h
  · rename_i hne
    cases h
    refine ⟨List.takeWhile_append_dropWhile.symm, ?_, fun d hd => List.mem_takeWhile_imp hd⟩
    intro hnil
    rw [hnil] at hne
    exact hne rfl

theorem whole_of_read {ds : List Char} (h : readWhole cs = some (ds, rest)) :
    cs = ds ++ rest ∧ Digits ds ∧ (ds.head? = some '0' → ds.length = 1) := by
  obtain ⟨⟨ds, rest⟩, hread, hthen⟩ := Option.bind_eq_some_iff.mp h
  obtain ⟨rfl, hdigits⟩ := digits_of_read hread
  dsimp only at hthen
  split at hthen
  · cases hthen
  · rename_i hzero
    cases hthen
    simp only [Bool.and_eq_true, beq_iff_eq, bne_iff_ne, not_and, not_not] at hzero
    exact ⟨rfl, hdigits, hzero⟩

theorem fractionText_of_read {fraction : Option (List Char)} (h : readFraction cs = some (fraction, rest)) :
    ∃ fcs, cs = fcs ++ rest ∧ FractionText fraction fcs := by
  unfold readFraction at h
  split at h
  · obtain ⟨⟨ds, rest⟩, hread, h⟩ := Option.bind_eq_some_iff.mp h
    cases h
    obtain ⟨rfl, hdigits⟩ := digits_of_read hread
    exact ⟨_, rfl, .digits hdigits⟩
  · cases h
    exact ⟨[], rfl, .absent⟩

theorem exponentText_of_read {exponent : Option (Bool × List Char)}
    (h : readExponent cs = some (exponent, rest)) : ∃ ecs, cs = ecs ++ rest ∧ ExponentText exponent ecs := by
  cases cs with
  | nil =>
    cases h
    exact ⟨[], rfl, .absent⟩
  | cons c cs =>
    unfold readExponent at h
    dsimp only at h
    split at h
    · rename_i hc
      replace hc : c = 'e' ∨ c = 'E' := by simpa using hc
      obtain ⟨⟨ds, rest⟩, hread, h⟩ := Option.bind_eq_some_iff.mp h
      cases h
      obtain ⟨hcs, hdigits⟩ := digits_of_read hread
      split at hcs
      · obtain rfl := hcs
        exact ⟨_, rfl, .negative hc hdigits⟩
      · obtain rfl := hcs
        exact ⟨_, rfl, .positive hc hdigits⟩
      · obtain rfl := hcs
        exact ⟨_, rfl, .unsigned hc hdigits⟩
    · cases h
      exact ⟨[], rfl, .absent⟩

theorem numeralText_of_read {n : Numeral} (h : readNumeral cs = some (n, rest)) :
    ∃ ks, cs = ks ++ rest ∧ NumeralText n ks := by
  unfold readNumeral at h
  split at h
  rename_i negative behind hsign
  -- The sign is told by the first character, whatever follows it.
  have hcs : cs = (if negative then ['-'] else []) ++ behind := by
    split at hsign <;> cases hsign <;> rfl
  obtain ⟨⟨whole, cs⟩, hwhole, h⟩ := Option.bind_eq_some_iff.mp h
  obtain ⟨⟨fraction, cs⟩, hfraction, h⟩ := Option.bind_eq_some_iff.mp h
  obtain ⟨⟨exponent, cs⟩, hexponent, h⟩ := Option.bind_eq_some_iff.mp h
  cases h
  obtain ⟨hwhole, hdigits, hzero⟩ := whole_of_read hwhole
  obtain ⟨fcs, hfcs, hfraction⟩ := fractionText_of_read hfraction
  obtain ⟨ecs, hecs, hexponent⟩ := exponentText_of_read hexponent
  refine ⟨_, ?_, .intro hdigits hzero hfraction hexponent⟩
  simp only [hcs, hwhole, hfcs, hecs, List.append_assoc]

/-! ## Values -/

/-- Everything that is read with the fuel is in the grammar. -/
structure ReadsOnly (fuel : Nat) : Prop where
  value : ∀ {cs rest : List Char} {s : Syntax}, readValue fuel cs = some (s, rest) →
    ∃ ks, cs = ks ++ rest ∧ ValueText s ks
  items : ∀ {cs rest : List Char} {items : List Syntax}, readItems fuel cs = some (items, rest) →
    ∃ ks, cs = ks ++ rest ∧ ItemsText items ks
  members : ∀ {cs rest : List Char} {members : List (List Piece × Syntax)},
    readMembers fuel cs = some (members, rest) → ∃ ks, cs = ks ++ rest ∧ MembersText members ks

section
variable {fuel : Nat} (ih : ReadsOnly fuel)
include ih

theorem ReadsOnly.value_step {s : Syntax} (h : readValue (fuel + 1) cs = some (s, rest)) :
    ∃ ks, cs = ks ++ rest ∧ ValueText s ks := by
  unfold readValue at h
  split at h
  case h_1 =>
    cases h
    exact ⟨_, rfl, .null⟩
  case h_2 =>
    cases h
    exact ⟨_, rfl, .yes⟩
  case h_3 =>
    cases h
    exact ⟨_, rfl, .no⟩
  case h_4 =>
    obtain ⟨⟨ps, rest⟩, hread, h⟩ := Option.bind_eq_some_iff.mp h
    cases h
    obtain ⟨ks, rfl, hks⟩ := stringText_of_read hread
    exact ⟨_, rfl, .string hks⟩
  case h_5 _ cs =>
    obtain ⟨g, hg, hcs⟩ := exists_gap cs
    split at h
    · rename_i behind heq
      cases h
      rw [heq] at hcs
      exact ⟨'[' :: (g ++ [']']), by simp [hcs], .emptyArray hg⟩
    · obtain ⟨⟨items, rest⟩, hread, h⟩ := Option.bind_eq_some_iff.mp h
      cases h
      obtain ⟨ks, hks, hitems⟩ := ih.items hread
      exact ⟨'[' :: (g ++ ks), by simp [← hks, ← hcs], .array hg hitems⟩
  case h_6 _ cs =>
    obtain ⟨g, hg, hcs⟩ := exists_gap cs
    split at h
    · rename_i behind heq
      cases h
      rw [heq] at hcs
      exact ⟨'{' :: (g ++ ['}']), by simp [hcs], .emptyObject hg⟩
    · obtain ⟨⟨members, rest⟩, hread, h⟩ := Option.bind_eq_some_iff.mp h
      cases h
      obtain ⟨ks, hks, hmembers⟩ := ih.members hread
      exact ⟨'{' :: (g ++ ks), by simp [← hks, ← hcs], .object hg hmembers⟩
  case h_7 =>
    obtain ⟨⟨n, rest⟩, hread, h⟩ := Option.bind_eq_some_iff.mp h
    cases h
    obtain ⟨ks, rfl, hks⟩ := numeralText_of_read hread
    exact ⟨_, rfl, .number hks⟩

theorem ReadsOnly.items_step {items : List Syntax} (h : readItems (fuel + 1) cs = some (items, rest)) :
    ∃ ks, cs = ks ++ rest ∧ ItemsText items ks := by
  unfold readItems at h
  obtain ⟨⟨item, behind⟩, hread, h⟩ := Option.bind_eq_some_iff.mp h
  obtain ⟨ks, hks, hitem⟩ := ih.value hread
  obtain ⟨g, hg, hbehind⟩ := exists_gap behind
  dsimp only at h
  split at h
  · rename_i heq
    cases h
    rw [heq] at hbehind
    exact ⟨ks ++ (g ++ [']']), by simp [hks, hbehind], .last hitem hg⟩
  · rename_i next heq
    obtain ⟨⟨items, rest⟩, hread, h⟩ := Option.bind_eq_some_iff.mp h
    cases h
    obtain ⟨ds, hds, hitems⟩ := ih.items hread
    obtain ⟨g', hg', hnext⟩ := exists_gap next
    rw [heq, hnext, hds] at hbehind
    exact ⟨ks ++ (g ++ ',' :: (g' ++ ds)), by simp [hks, hbehind], .more hitem hg hg' hitems⟩
  · cases h

theorem ReadsOnly.members_step {members : List (List Piece × Syntax)}
    (h : readMembers (fuel + 1) cs = some (members, rest)) :
    ∃ ks, cs = ks ++ rest ∧ MembersText members ks := by
  unfold readMembers at h
  split at h
  case h_2 => cases h
  obtain ⟨⟨key, behindKey⟩, hkey, h⟩ := Option.bind_eq_some_iff.mp h
  obtain ⟨ks, hks, hkey⟩ := stringText_of_read hkey
  obtain ⟨g, hg, hbehindKey⟩ := exists_gap behindKey
  dsimp only at h
  split at h
  case h_2 => cases h
  rename_i afterColon heq
  rw [heq] at hbehindKey
  obtain ⟨g', hg', hafterColon⟩ := exists_gap afterColon
  obtain ⟨⟨value, behind⟩, hvalue, h⟩ := Option.bind_eq_some_iff.mp h
  obtain ⟨vs, hvs, hvalue⟩ := ih.value hvalue
  obtain ⟨g'', hg'', hbehind⟩ := exists_gap behind
  rw [hvs] at hafterColon
  rw [hafterColon] at hbehindKey
  dsimp only at h
  split at h
  · rename_i heq
    cases h
    rw [heq] at hbehind
    refine ⟨'"' :: (ks ++ (g ++ ':' :: (g' ++ (vs ++ (g'' ++ ['}']))))), ?_,
      .last hkey hg hg' hvalue hg''⟩
    simp [hks, hbehindKey, hbehind]
  · rename_i next heq
    obtain ⟨⟨members, rest⟩, hread, h⟩ := Option.bind_eq_some_iff.mp h
    cases h
    obtain ⟨ds, hds, hmembers⟩ := ih.members hread
    obtain ⟨g₃, hg₃, hnext⟩ := exists_gap next
    rw [heq, hnext, hds] at hbehind
    refine ⟨'"' :: (ks ++ (g ++ ':' :: (g' ++ (vs ++ (g'' ++ ',' :: (g₃ ++ ds)))))), ?_,
      .more hkey hg hg' hvalue hg'' hg₃ hmembers⟩
    simp [hks, hbehindKey, hbehind]
  · cases h

end

theorem spelled_of_read (fuel : Nat) : ReadsOnly fuel := by
  induction fuel with
  | zero => exact ⟨nofun, nofun, nofun⟩
  | succ fuel ih => exact ⟨ih.value_step, ih.items_step, ih.members_step⟩

/-- A text is read as some syntax exactly if it spells that. -/
theorem parse?_eq_some {text : String} {s : Syntax} : Syntax.parse? text = some s ↔ Spells s text := by
  refine ⟨fun h => ?_, parse?_of_spells⟩
  obtain ⟨⟨s, behind⟩, hread, h⟩ := Option.bind_eq_some_iff.mp h
  dsimp only at h
  split at h
  case isFalse => cases h
  rename_i hempty
  cases h
  obtain ⟨g, hg, htext⟩ := exists_gap text.toList
  obtain ⟨ks, hks, hvalue⟩ := (spelled_of_read _).value hread
  obtain ⟨g', hg', hbehind⟩ := exists_gap behind
  rw [List.isEmpty_iff.mp hempty, List.append_nil] at hbehind
  refine ⟨g, ks, g', hg, hvalue, hg', ?_⟩
  rw [htext, hks, hbehind]

end Checkup.Json
