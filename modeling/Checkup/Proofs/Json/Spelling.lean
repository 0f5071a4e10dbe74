import Checkup.Json.Syntax
import Mathlib.Data.List.TakeDrop
import Mathlib.Data.List.TakeWhile

/-!
# The grammar of JSON texts

`Spells s text` says that a text is one JSON value, with `s` as its syntax: gaps may stand around every
token, the characters of a string literal may be escaped or not, and an exponent has either letter and,
unless it is negative, a sign or none. Nothing is said about what the value means.

Results:
* `readString_spelled`, `readNumeral_spelled`: a literal is read as it is spelled.
* `read_spelled`: so are values, items and members, by induction on the fuel. Two units of fuel for each
  character are enough.
* `parse?_of_spells`: so is a whole text.
-/
namespace Checkup.Json

/-! ## The grammar -/

/-- Characters that may stand between two tokens. -/
def Gap (cs : List Char) : Prop := ∀ c ∈ cs, isGap c = true

/-- A string literal, from behind its opening quote, and its pieces. -/
inductive StringText : List Piece → List Char → Prop where
  | close : StringText [] ['"']
  | plain {c : Char} {ps : List Piece} {cs : List Char} : 32 ≤ c.toNat → c ≠ '"' → c ≠ '\\' →
      StringText ps cs → StringText (.char c :: ps) (c :: cs)
  | escape {e c : Char} {ps : List Piece} {cs : List Char} : escaped? e = some c →
      StringText ps cs → StringText (.char c :: ps) ('\\' :: e :: cs)
  | unit {a b c d : Char} {code : Nat} {ps : List Piece} {cs : List Char} :
      hexUnit? a b c d = some code → StringText ps cs →
        StringText (.unit code :: ps) ('\\' :: 'u' :: a :: b :: c :: d :: cs)

def Digits (ds : List Char) : Prop := ds ≠ [] ∧ ∀ d ∈ ds, d.isDigit = true

/-- The fraction of a number, with its point. -/
inductive FractionText : Option (List Char) → List Char → Prop where
  | absent : FractionText none []
  | digits {ds : List Char} : Digits ds → FractionText (some ds) ('.' :: ds)

/-- The exponent of a number, with its letter and its sign. -/
inductive ExponentText : Option (Bool × List Char) → List Char → Prop where
  | absent : ExponentText none []
  | unsigned {c : Char} {ds : List Char} : c = 'e' ∨ c = 'E' → Digits ds →
      ExponentText (some (false, ds)) (c :: ds)
  | positive {c : Char} {ds : List Char} : c = 'e' ∨ c = 'E' → Digits ds →
      ExponentText (some (false, ds)) (c :: '+' :: ds)
  | negative {c : Char} {ds : List Char} : c = 'e' ∨ c = 'E' → Digits ds →
      ExponentText (some (true, ds)) (c :: '-' :: ds)

/-- A number; no zero stands before its other digits. -/
inductive NumeralText : Numeral → List Char → Prop where
  | intro {negative : Bool} {whole fcs ecs : List Char} {fraction : Option (List Char)}
      {exponent : Option (Bool × List Char)} : Digits whole →
      (whole.head? = some '0' → whole.length = 1) → FractionText fraction fcs →
      ExponentText exponent ecs → NumeralText ⟨negative, whole, fraction, exponent⟩
        ((if negative then ['-'] else []) ++ (whole ++ (fcs ++ ecs)))

mutual

/-- A value, from its first character to its last. -/
inductive ValueText : Syntax → List Char → Prop where
  | null : ValueText .null ['n', 'u', 'l', 'l']
  | yes : ValueText (.bool true) ['t', 'r', 'u', 'e']
  | no : ValueText (.bool false) ['f', 'a', 'l', 's', 'e']
  | number {n : Numeral} {cs : List Char} : NumeralText n cs → ValueText (.number n) cs
  | string {ps : List Piece} {cs : List Char} : StringText ps cs → ValueText (.string ps) ('"' :: cs)
  | emptyArray {g : List Char} : Gap g → ValueText (.array []) ('[' :: (g ++ [']']))
  | array {items : List Syntax} {g cs : List Char} : Gap g → ItemsText items cs →
      ValueText (.array items) ('[' :: (g ++ cs))
  | emptyObject {g : List Char} : Gap g → ValueText (.object []) ('{' :: (g ++ ['}']))
  | object {members : List (List Piece × Syntax)} {g cs : List Char} : Gap g →
      MembersText members cs → ValueText (.object members) ('{' :: (g ++ cs))

/-- The items of an array that has some, to its closing bracket. -/
inductive ItemsText : List Syntax → List Char → Prop where
  | last {item : Syntax} {cs g : List Char} : ValueText item cs → Gap g →
      ItemsText [item] (cs ++ (g ++ [']']))
  | more {item : Syntax} {items : List Syntax} {cs g g' ds : List Char} : ValueText item cs →
      Gap g → Gap g' → ItemsText items ds → ItemsText (item :: items) (cs ++ (g ++ ',' :: (g' ++ ds)))

/-- The members of an object that has some, to its closing brace. -/
inductive MembersText : List (List Piece × Syntax) → List Char → Prop where
  | last {key : List Piece} {value : Syntax} {ks g g' cs g'' : List Char} : StringText key ks →
      Gap g → Gap g' → ValueText value cs → Gap g'' →
        MembersText [(key, value)] ('"' :: (ks ++ (g ++ ':' :: (g' ++ (cs ++ (g'' ++ ['}']))))))
  | more {key : List Piece} {value : Syntax} {members : List (List Piece × Syntax)}
      {ks g g' cs g'' g₃ ds : List Char} : StringText key ks → Gap g → Gap g' →
      ValueText value cs → Gap g'' → Gap g₃ → MembersText members ds →
        MembersText ((key, value) :: members)
          ('"' :: (ks ++ (g ++ ':' :: (g' ++ (cs ++ (g'' ++ ',' :: (g₃ ++ ds)))))))

end

/-- The text is one value with gaps around it. -/
def Spells (s : Syntax) (text : String) : Prop :=
  ∃ g cs g', Gap g ∧ ValueText s cs ∧ Gap g' ∧ text.toList = g ++ (cs ++ g')

/-! ## Gaps -/

theorem gap_nil : Gap [] := nofun

theorem skipGap_of_not_gap {c : Char} (h : isGap c = false) (cs : List Char) :
    skipGap (c :: cs) = c :: cs := by
  simp [skipGap, h]

/-- A gap is skipped, up to a character that is none. -/
theorem skipGap_append {g : List Char} (hg : Gap g) {c : Char} (h : isGap c = false)
    (cs : List Char) : skipGap (g ++ c :: cs) = c :: cs := by
  rw [skipGap, List.dropWhile_append_of_pos hg]
  exact skipGap_of_not_gap h cs

theorem skipGap_gap {g : List Char} (hg : Gap g) : skipGap g = [] := by
  rw [skipGap, List.dropWhile_eq_nil_iff]
  exact hg

/-! ## Strings -/

section
variable {ps : List Piece} {cs rest : List Char}

theorem readString_plain {c : Char} (hc : 32 ≤ c.toNat) (hquote : c ≠ '"') (hslash : c ≠ '\\')
    (h : readString cs = some (ps, rest)) :
    readString (c :: cs) = some (.char c :: ps, rest) := by
  rw [readString.eq_5 _ _ hquote (fun _ _ _ _ _ hs => absurd hs hslash)
    (fun _ _ hs => absurd hs hslash), h]
  simp [Nat.not_lt.mpr hc, hslash]

theorem readString_escape {e c : Char} (he : escaped? e = some c)
    (h : readString cs = some (ps, rest)) :
    readString ('\\' :: e :: cs) = some (.char c :: ps, rest) := by
  have hu : e ≠ 'u' := by rintro rfl; simp [escaped?] at he
  rw [readString.eq_4 _ _ fun _ _ _ _ _ hc => absurd hc hu, he, h]
  rfl

/-- A string literal is read as it is spelled. -/
theorem readString_spelled (h : StringText ps cs) (rest : List Char) :
    readString (cs ++ rest) = some (ps, rest) := by
  induction h with
  | close => exact readString.eq_2 rest
  | plain hc hquote hslash _ ih => exact readString_plain hc hquote hslash ih
  | escape he _ ih => exact readString_escape he ih
  | unit hcode _ ih =>
    simp only [List.cons_append]
    rw [readString, hcode, ih]
    rfl

end

/-! ## Numbers -/

/-- The text does not go on with a character of some kind. -/
def StopsAt (p : Char → Bool) (rest : List Char) : Prop := ∀ c cs, rest = c :: cs → p c = false

theorem stopsAt_nil (p : Char → Bool) : StopsAt p [] := nofun

theorem stopsAt_cons {p : Char → Bool} {c : Char} (h : p c = false) (cs : List Char) :
    StopsAt p (c :: cs) := by
  rintro c' cs' heq
  cases heq
  exact h

/-- A character that a number could go on with. -/
def continuesNumber (c : Char) : Bool := c.isDigit || c == '.' || c == 'e' || c == 'E'

/-- The text behind a value: it must not be taken for a part of it. -/
def Ends (rest : List Char) : Prop := StopsAt continuesNumber rest

section
variable {rest : List Char}

theorem Ends.digit (h : Ends rest) : StopsAt Char.isDigit rest := fun c cs heq => by
  have := h c cs heq
  simp only [continuesNumber, Bool.or_eq_false_iff] at this
  exact this.1.1.1

theorem Ends.point (h : Ends rest) : StopsAt (· == '.') rest := fun c cs heq => by
  have := h c cs heq
  simp only [continuesNumber, Bool.or_eq_false_iff] at this
  exact this.1.1.2

theorem Ends.exponent (h : Ends rest) : StopsAt (fun c => c == 'e' || c == 'E') rest :=
  fun c cs heq => by
    have := h c cs heq
    simp only [continuesNumber, Bool.or_eq_false_iff] at this
    simp only [Bool.or_eq_false_iff]
    exact ⟨this.1.2, this.2⟩

theorem continuesNumber_of_gap {c : Char} (h : isGap c = true) : continuesNumber c = false := by
  simp only [isGap, Bool.or_eq_true, beq_iff_eq] at h
  rcases h with ((rfl | rfl) | rfl) | rfl <;> decide

theorem ends_gap {g : List Char} (hg : Gap g) {c : Char} (hc : continuesNumber c = false)
    (cs : List Char) : Ends (g ++ c :: cs) := by
  cases g with
  | nil => exact stopsAt_cons hc cs
  | cons d g => exact stopsAt_cons (continuesNumber_of_gap (hg d List.mem_cons_self)) _

theorem splitDigits_append {ds : List Char} (hds : ∀ d ∈ ds, d.isDigit = true)
    (h : StopsAt Char.isDigit rest) : splitDigits (ds ++ rest) = (ds, rest) := by
  have hrest : rest.takeWhile Char.isDigit = [] ∧ rest.dropWhile Char.isDigit = rest := by
    cases rest with
    | nil => exact ⟨rfl, rfl⟩
    | cons c cs => simp [h c cs rfl]
  rw [splitDigits, List.span_eq_takeWhile_dropWhile, List.takeWhile_append_of_pos hds,
    List.dropWhile_append_of_pos hds, hrest.1, hrest.2, List.append_nil]

theorem readDigits_append {ds : List Char} (hds : Digits ds) (h : StopsAt Char.isDigit rest) :
    readDigits (ds ++ rest) = some (ds, rest) := by
  simp [readDigits, splitDigits_append hds.2 h, hds.1]

theorem readWhole_append {ds : List Char} (hds : Digits ds)
    (hzero : ds.head? = some '0' → ds.length = 1) (h : StopsAt Char.isDigit rest) :
    readWhole (ds ++ rest) = some (ds, rest) := by
  have hno : (ds.head? == some '0' && ds.length != 1) = false := by
    by_cases hhead : ds.head? = some '0'
    · simp [hzero hhead]
    · simp [hhead]
  simp only [readWhole, readDigits_append hds h, Option.bind_eq_bind, Option.bind_some, hno,
    Bool.false_eq_true, if_false]

theorem readFraction_spelled {fraction : Option (List Char)} {fcs : List Char}
    (hf : FractionText fraction fcs) (hdigit : StopsAt Char.isDigit rest)
    (hpoint : StopsAt (· == '.') rest) :
    readFraction (fcs ++ rest) = some (fraction, rest) := by
  cases hf with
  | absent =>
    rw [List.nil_append]
    fun_cases readFraction rest with
    | case1 cs => exact absurd (hpoint _ _ rfl) (by decide)
    | case2 => rfl
  | digits hds =>
    rw [List.cons_append, readFraction, readDigits_append hds hdigit]
    rfl

theorem readExponent_spelled {exponent : Option (Bool × List Char)} {ecs : List Char}
    (he : ExponentText exponent ecs) (hrest : Ends rest) :
    readExponent (ecs ++ rest) = some (exponent, rest) := by
  have hletter : ∀ c : Char, c = 'e' ∨ c = 'E' → (c == 'e' || c == 'E') = true := by
    rintro c (rfl | rfl) <;> rfl
  cases he with
  | absent =>
    cases rest with
    | nil => rfl
    | cons c cs =>
      rw [List.nil_append, readExponent.eq_def]
      simp only [hrest.exponent c cs rfl, Bool.false_eq_true, if_false]
  | @unsigned c ds hc hds =>
    have hdigits := readDigits_append hds hrest.digit
    obtain ⟨d, ds, rfl⟩ := List.exists_cons_of_ne_nil hds.1
    have hd := hds.2 d List.mem_cons_self
    have hminus : d ≠ '-' := by rintro rfl; simp at hd
    have hplus : d ≠ '+' := by rintro rfl; simp at hd
    rw [List.cons_append, readExponent.eq_def]
    rw [List.cons_append] at hdigits ⊢
    simp [hletter c hc, hminus, hplus, hdigits]
  | @positive c ds hc hds =>
    rw [List.cons_append, List.cons_append, readExponent.eq_def]
    simp [hletter c hc, readDigits_append hds hrest.digit]
  | @negative c ds hc hds =>
    rw [List.cons_append, List.cons_append, readExponent.eq_def]
    simp [hletter c hc, readDigits_append hds hrest.digit]

/-- No exponent begins with a digit or a point. -/
theorem ExponentText.stopsAt {exponent : Option (Bool × List Char)} {ecs : List Char}
    (he : ExponentText exponent ecs) {p : Char → Bool} (hp : p 'e' = false ∧ p 'E' = false)
    (hrest : StopsAt p rest) : StopsAt p (ecs ++ rest) := by
  cases he with
  | absent => exact hrest
  | unsigned hc => exact stopsAt_cons (by rcases hc with rfl | rfl; exacts [hp.1, hp.2]) _
  | positive hc => exact stopsAt_cons (by rcases hc with rfl | rfl; exacts [hp.1, hp.2]) _
  | negative hc => exact stopsAt_cons (by rcases hc with rfl | rfl; exacts [hp.1, hp.2]) _

/-- A number begins with its sign or a digit. -/
theorem NumeralText.head {n : Numeral} {cs : List Char} (h : NumeralText n cs) :
    ∃ c tail, cs = c :: tail ∧ (c.isDigit = true ∨ c = '-') := by
  obtain @⟨negative, whole, fcs, ecs, fraction, exponent, hwhole, -, -, -⟩ := h
  cases negative with
  | true => exact ⟨'-', _, rfl, .inr rfl⟩
  | false =>
    obtain ⟨d, ds, rfl⟩ := List.exists_cons_of_ne_nil hwhole.1
    exact ⟨d, _, rfl, .inl (hwhole.2 d List.mem_cons_self)⟩

/-- A number is read as it is spelled. -/
theorem readNumeral_spelled {n : Numeral} {cs : List Char} (h : NumeralText n cs)
    (hrest : Ends rest) : readNumeral (cs ++ rest) = some (n, rest) := by
  obtain @⟨negative, whole, fcs, ecs, fraction, exponent, hwhole, hzero, hf, he⟩ := h
  have hexp := readExponent_spelled he hrest
  have hdigit : StopsAt Char.isDigit (ecs ++ rest) := he.stopsAt (by decide) hrest.digit
  have hfrac := readFraction_spelled hf hdigit (he.stopsAt (by decide) hrest.point)
  have hstop : StopsAt Char.isDigit (fcs ++ (ecs ++ rest)) := by
    cases hf with
    | absent => exact hdigit
    | digits _ => exact stopsAt_cons (by decide) _
  have hread := readWhole_append hwhole hzero hstop
  cases negative with
  | true => simp [readNumeral, hread, hfrac, hexp]
  | false =>
    obtain ⟨d, ds, rfl⟩ := List.exists_cons_of_ne_nil hwhole.1
    have hd := hwhole.2 d List.mem_cons_self
    have hminus : d ≠ '-' := by rintro rfl; simp at hd
    rw [List.cons_append] at hread
    simp [readNumeral, hminus, hread, hfrac, hexp]

end

/-! ## Values -/

/-- The first character of a value is no gap, and no bracket that closes an array. -/
def opens (c : Char) : Bool := !isGap c && c != ']'

theorem opens_of_numeral {c : Char} (h : c.isDigit = true ∨ c = '-') : opens c = true := by
  have hne : ∀ d : Char, d.isDigit = false → d ≠ '-' → c ≠ d := by
    rintro d hdigit hminus rfl
    rcases h with h | h
    · rw [h] at hdigit; cases hdigit
    · exact hminus h
  simp [opens, isGap, hne ' ' (by decide) (by decide), hne '\n' (by decide) (by decide),
    hne '\t' (by decide) (by decide), hne '\r' (by decide) (by decide), hne ']' (by decide) (by decide)]

theorem ValueText.head {s : Syntax} {cs : List Char} (h : ValueText s cs) :
    ∃ c tail, cs = c :: tail ∧ opens c = true := by
  cases h with
  | number hn =>
    obtain ⟨c, tail, rfl, hc⟩ := hn.head
    exact ⟨c, tail, rfl, opens_of_numeral hc⟩
  | null | yes | no | string | emptyArray | array | emptyObject | object =>
    exact ⟨_, _, rfl, by decide⟩

theorem ItemsText.head {items : List Syntax} {cs : List Char} (h : ItemsText items cs) :
    ∃ c tail, cs = c :: tail ∧ opens c = true := by
  cases h with
  | last hv _ | more hv _ _ _ =>
    obtain ⟨c, tail, rfl, hc⟩ := hv.head
    exact ⟨c, _, rfl, hc⟩

theorem not_gap_of_opens {c : Char} (h : opens c = true) : isGap c = false := by
  simpa using (Bool.and_eq_true_iff.mp h).1

/-- In front of a value, a gap is skipped. -/
theorem ValueText.skipGap {s : Syntax} {cs g : List Char} (h : ValueText s cs) (hg : Gap g)
    (rest : List Char) : Json.skipGap (g ++ (cs ++ rest)) = cs ++ rest := by
  obtain ⟨c, tail, rfl, hc⟩ := h.head
  exact skipGap_append hg (not_gap_of_opens hc) _

theorem ItemsText.skipGap {items : List Syntax} {cs g : List Char} (h : ItemsText items cs)
    (hg : Gap g) (rest : List Char) : Json.skipGap (g ++ (cs ++ rest)) = cs ++ rest := by
  obtain ⟨c, tail, rfl, hc⟩ := h.head
  exact skipGap_append hg (not_gap_of_opens hc) _

/-- The members of an object begin with a key. -/
theorem MembersText.head {members : List (List Piece × Syntax)} {cs : List Char}
    (h : MembersText members cs) : ∃ tail, cs = '"' :: tail := by
  cases h <;> exact ⟨_, rfl⟩

theorem MembersText.skipGap {members : List (List Piece × Syntax)} {cs g : List Char}
    (h : MembersText members cs) (hg : Gap g) (rest : List Char) :
    Json.skipGap (g ++ (cs ++ rest)) = cs ++ rest := by
  obtain ⟨tail, rfl⟩ := h.head
  exact skipGap_append hg rfl _

/-- A value whose first character is that of a number is one. -/
theorem readValue_number {n : Numeral} {cs rest : List Char} (h : NumeralText n cs)
    (hrest : Ends rest) (fuel : Nat) :
    readValue (fuel + 1) (cs ++ rest) = some (.number n, rest) := by
  have hread := readNumeral_spelled h hrest
  obtain ⟨c, tail, rfl, hc⟩ := h.head
  have hne : ∀ d, d.isDigit = false ∧ d ≠ '-' → c ≠ d := by
    rintro d ⟨hdigit, hminus⟩ rfl
    rcases hc with hc | hc
    · rw [hc] at hdigit; cases hdigit
    · exact hminus hc
  have hn := hne 'n' (by decide)
  have ht := hne 't' (by decide)
  have hf := hne 'f' (by decide)
  have hs := hne '"' (by decide)
  have ha := hne '[' (by decide)
  have ho := hne '{' (by decide)
  rw [List.cons_append] at hread ⊢
  rw [readValue.eq_def]
  simp [hn, ht, hf, hs, ha, ho, hread]

/-- Everything that is spelled is read, if it is not too long for the fuel. -/
structure Reads (fuel : Nat) : Prop where
  value : ∀ (rest : List Char) {s : Syntax} {cs : List Char}, ValueText s cs →
    2 * cs.length ≤ fuel → Ends rest → readValue fuel (cs ++ rest) = some (s, rest)
  items : ∀ (rest : List Char) {items : List Syntax} {cs : List Char}, ItemsText items cs →
    2 * cs.length + 1 ≤ fuel → readItems fuel (cs ++ rest) = some (items, rest)
  members : ∀ (rest : List Char) {members : List (List Piece × Syntax)} {cs : List Char},
    MembersText members cs → 2 * cs.length + 1 ≤ fuel →
      readMembers fuel (cs ++ rest) = some (members, rest)

theorem reads_zero : Reads 0 where
  value _ _ _ h hfuel _ := by
    obtain ⟨c, tail, rfl, -⟩ := h.head
    simp at hfuel
  items _ _ _ _ hfuel := by omega
  members _ _ _ _ hfuel := by omega

section
variable {fuel : Nat} (ih : Reads fuel)
include ih

theorem Reads.readValue_step (rest : List Char) {s : Syntax} {cs : List Char} (h : ValueText s cs)
    (hfuel : 2 * cs.length ≤ fuel + 1) (hrest : Ends rest) :
    readValue (fuel + 1) (cs ++ rest) = some (s, rest) := by
  cases h with
  | null | yes | no => simp [readValue]
  | number hn => exact readValue_number hn hrest fuel
  | string hs => simp [readValue, readString_spelled hs]
  | emptyArray hg => simp [readValue, skipGap_append hg (show isGap ']' = false from rfl)]
  | @array items g cs hg hitems =>
    have hread := ih.items rest hitems (by
      simp only [List.length_cons, List.length_append] at hfuel; omega)
    obtain ⟨c, tail, rfl, hc⟩ := hitems.head
    have hne : c ≠ ']' := by rintro rfl; revert hc; decide
    rw [List.cons_append] at hread
    rw [List.cons_append, List.append_assoc, List.cons_append, readValue,
      skipGap_append hg (not_gap_of_opens hc)]
    simp [hne, hread]
  | emptyObject hg => simp [readValue, skipGap_append hg (show isGap '}' = false from rfl)]
  | @object members g cs hg hmembers =>
    have hread := ih.members rest hmembers (by
      simp only [List.length_cons, List.length_append] at hfuel; omega)
    obtain ⟨tail, rfl⟩ := hmembers.head
    rw [List.cons_append] at hread
    rw [List.cons_append, List.append_assoc, List.cons_append, readValue,
      skipGap_append hg (show isGap '"' = false from rfl)]
    simp [hread]

theorem Reads.readItems_step (rest : List Char) {items : List Syntax} {cs : List Char}
    (h : ItemsText items cs) (hfuel : 2 * cs.length + 1 ≤ fuel + 1) :
    readItems (fuel + 1) (cs ++ rest) = some (items, rest) := by
  cases h with
  | @last item cs g hv hg =>
    simp only [List.length_append, List.length_cons] at hfuel
    have hread := ih.value (g ++ ']' :: rest) hv (by omega) (ends_gap hg (by decide) _)
    simp only [List.append_assoc, List.cons_append, List.nil_append]
    rw [readItems, hread]
    simp [skipGap_append hg (show isGap ']' = false from rfl)]
  | @more item items cs g g' ds hv hg hg' hitems =>
    simp only [List.length_append, List.length_cons] at hfuel
    have hread := ih.value (g ++ ',' :: (g' ++ (ds ++ rest))) hv (by omega)
      (ends_gap hg (by decide) _)
    have hmore := ih.items rest hitems (by omega)
    simp only [List.append_assoc, List.cons_append]
    rw [readItems, hread]
    simp [skipGap_append hg (show isGap ',' = false from rfl), hitems.skipGap hg', hmore]

theorem Reads.readMembers_step (rest : List Char) {members : List (List Piece × Syntax)}
    {cs : List Char} (h : MembersText members cs) (hfuel : 2 * cs.length + 1 ≤ fuel + 1) :
    readMembers (fuel + 1) (cs ++ rest) = some (members, rest) := by
  cases h with
  | @last key value ks g g' cs g'' hk hg hg' hv hg'' =>
    simp only [List.length_append, List.length_cons] at hfuel
    have hread := ih.value (g'' ++ '}' :: rest) hv (by omega) (ends_gap hg'' (by decide) _)
    simp only [List.append_assoc, List.cons_append, List.nil_append]
    rw [readMembers, readString_spelled hk]
    simp [skipGap_append hg (show isGap ':' = false from rfl), hv.skipGap hg', hread,
      skipGap_append hg'' (show isGap '}' = false from rfl)]
  | @more key value members ks g g' cs g'' g₃ ds hk hg hg' hv hg'' hg₃ hmembers =>
    simp only [List.length_append, List.length_cons] at hfuel
    have hread := ih.value (g'' ++ ',' :: (g₃ ++ (ds ++ rest))) hv (by omega)
      (ends_gap hg'' (by decide) _)
    have hmore := ih.members rest hmembers (by omega)
    simp only [List.append_assoc, List.cons_append]
    rw [readMembers, readString_spelled hk]
    simp [skipGap_append hg (show isGap ':' = false from rfl), hv.skipGap hg', hread,
      skipGap_append hg'' (show isGap ',' = false from rfl), hmembers.skipGap hg₃, hmore]

end

/-- Two units of fuel for each character are enough. -/
theorem read_spelled (fuel : Nat) : Reads fuel := by
  induction fuel with
  | zero => exact reads_zero
  | succ fuel ih => exact ⟨ih.readValue_step, ih.readItems_step, ih.readMembers_step⟩

/-- A text is read as the grammar has it. -/
theorem parse?_of_spells {s : Syntax} {text : String} (h : Spells s text) :
    Syntax.parse? text = some s := by
  obtain ⟨g, cs, g', hg, hv, hg', htext⟩ := h
  have hends : Ends g' := by
    cases g' with
    | nil => exact stopsAt_nil _
    | cons d g' => exact ends_gap (g := []) gap_nil (continuesNumber_of_gap (hg' d List.mem_cons_self)) g'
  have hread := (read_spelled (2 * text.toList.length + 2)).value g' hv
    (by rw [htext]; simp only [List.length_append]; omega) hends
  rw [Syntax.parse?, Syntax.parseChars?, htext] at *
  rw [hv.skipGap hg, hread]
  simp [skipGap_gap hg']

end Checkup.Json
