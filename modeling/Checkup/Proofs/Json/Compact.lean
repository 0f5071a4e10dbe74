import Checkup.Json.Printer
import Checkup.Json.Record
import Checkup.Proofs.Json.Spelling
import Checkup.Proofs.Text.Decimal

/-!
# The compact text of a value

The compact text of a value is in the grammar, and `Value.spelled` says what the grammar sees in it: each
character of a string as the piece that it is written as, each number as its digits, and each array and
object with its items and members in their order. This holds of every value; a double that is no number
is spelled `null`.

Results:
* `stringText_quoted` and `stringOf?_map_charPiece`: a string is written as its pieces, and these spell
  it.
* `valueText_chars`: a number is written as its digits.
* `valueText_compact`: a value is written as it is spelled, by recursion over the value.
* `parse?_text`: so the text is read as that.
-/
namespace Checkup.Json

/-! ## Strings -/

/-- The piece that a character of a string is written as. -/
def charPiece (c : Char) : Piece :=
  if c.toNat < 32 ∧ c.toNat ≠ 8 ∧ c.toNat ≠ 12 ∧ c ≠ '\n' ∧ c ≠ '\r' ∧ c ≠ '\t' then .unit c.toNat
  else .char c

theorem hexValue?_hexDigit : ∀ d < 16, Text.hexValue? (Text.hexDigit d) = some d := by decide

section
variable {ps : List Piece} {cs : List Char}

theorem stringText_control {n : Nat} (hn : n < 32) (h : StringText ps cs) :
    StringText (.unit n :: ps)
      ('\\' :: 'u' :: '0' :: '0' :: Text.hexDigit (n / 16) :: Text.hexDigit (n % 16) :: cs) := by
  have hunit : hexUnit? '0' '0' (Text.hexDigit (n / 16)) (Text.hexDigit (n % 16)) = some n := by
    have hzero : Text.hexValue? '0' = some 0 := by decide
    simp only [hexUnit?, hzero, hexValue?_hexDigit _ (show n / 16 < 16 by omega),
      hexValue?_hexDigit _ (show n % 16 < 16 by omega)]
    exact congrArg some (by omega)
  exact .unit hunit h

theorem stringText_escapeChar (c : Char) (h : StringText ps cs) :
    StringText (charPiece c :: ps) (escapeChar c ++ cs) := by
  unfold escapeChar
  split
  case isTrue hc => subst hc; exact .escape rfl h
  case isFalse hquote =>
  split
  case isTrue hc => subst hc; exact .escape rfl h
  case isFalse hslash =>
  split
  case isTrue hc =>
    obtain rfl : c = Char.ofNat 8 := by rw [← hc, Char.ofNat_toNat]
    exact .escape rfl h
  case isFalse h8 =>
  split
  case isTrue hc =>
    obtain rfl : c = Char.ofNat 12 := by rw [← hc, Char.ofNat_toNat]
    exact .escape rfl h
  case isFalse h12 =>
  split
  case isTrue hc => subst hc; exact .escape rfl h
  case isFalse hn =>
  split
  case isTrue hc => subst hc; exact .escape rfl h
  case isFalse hr =>
  split
  case isTrue hc => subst hc; exact .escape rfl h
  case isFalse ht =>
  split
  case isTrue hc =>
    rw [charPiece, if_pos ⟨hc, h8, h12, hn, hr, ht⟩]
    exact stringText_control hc h
  case isFalse hc =>
    rw [charPiece, if_neg fun hp => hc hp.1]
    exact .plain (Nat.le_of_not_lt hc) hquote hslash h

end

/-- Behind its opening quote, a string is written as the pieces of its characters. -/
theorem stringText_quoted (cs : List Char) :
    StringText (cs.map charPiece) (cs.flatMap escapeChar ++ ['"']) := by
  induction cs with
  | nil => exact .close
  | cons c cs ih =>
    rw [List.flatMap_cons, List.append_assoc]
    exact stringText_escapeChar c ih

theorem textOf?_charPiece (c : Char) (ps : List Piece) :
    textOf? (charPiece c :: ps) = (textOf? ps).map (c :: ·) := by
  unfold charPiece
  split
  case isTrue h =>
    have hhigh : ¬ (0xD800 ≤ c.toNat ∧ c.toNat < 0xDC00) := by omega
    have hlow : ¬ (0xDC00 ≤ c.toNat ∧ c.toNat < 0xE000) := by omega
    rw [textOf?.eq_def]
    simp only [hhigh, hlow, if_false, Char.ofNat_toNat]
  case isFalse => rfl

/-- The pieces of a string spell it. -/
theorem stringOf?_map_charPiece (s : String) : stringOf? (s.toList.map charPiece) = some s := by
  have htext : ∀ cs : List Char, textOf? (cs.map charPiece) = some cs := by
    intro cs
    induction cs with
    | nil => rfl
    | cons c cs ih => rw [List.map_cons, textOf?_charPiece, ih]; rfl
  rw [stringOf?, htext, Option.map_some, String.ofList_toList]

/-! ## Numbers -/

/-- What the grammar sees in the text of a number. -/
def Number.spelled : Number → Syntax
  | .natural n => .number ⟨false, Text.decimal n, none, none⟩
  | .negative n => .number ⟨true, Text.decimal n, none, none⟩
  | .double (.finite minus m e) =>
    let (digits, k) := if m = 0 then (0, 0) else Double.shortest m e
    .number ⟨minus, Text.decimal digits, none, some (decide (k < 0), Text.decimal k.natAbs)⟩
  | .double _ => .null

theorem digits_decimal (n : Nat) : Digits (Text.decimal n) :=
  ⟨Text.decimal_ne_nil n, Text.isDigit_of_mem_decimal⟩

theorem length_decimal_of_zero {n : Nat} (h : (Text.decimal n).head? = some '0') :
    (Text.decimal n).length = 1 := by
  rcases Nat.eq_zero_or_pos n with rfl | hn
  · decide +kernel
  · exact absurd h (Text.head?_decimal hn)

theorem exponentText_intText (k : Int) :
    ExponentText (some (decide (k < 0), Text.decimal k.natAbs)) ('e' :: (Text.intText k).toList) := by
  cases k with
  | negSucc n =>
    rw [Text.intText, String.toList_ofList, decide_eq_true (Int.negSucc_lt_zero n)]
    exact .negative (.inl rfl) (digits_decimal _)
  | ofNat n =>
    rw [Text.intText, Text.natText, String.toList_ofList,
      decide_eq_false (Int.not_lt.mpr (Int.natCast_nonneg n) : ¬ Int.ofNat n < 0)]
    exact .unsigned (.inl rfl) (digits_decimal _)

/-- A number without a fraction. -/
theorem numeralText_signed (negative : Bool) (n : Nat) {exponent : Option (Bool × List Char)}
    {ecs : List Char} (he : ExponentText exponent ecs) :
    NumeralText ⟨negative, Text.decimal n, none, exponent⟩
      ((if negative then ['-'] else []) ++ (Text.decimal n ++ ecs)) :=
  .intro (digits_decimal n) length_decimal_of_zero .absent he

/-- A number is written as it is spelled. -/
theorem valueText_chars (n : Number) : ValueText n.spelled n.chars := by
  match n with
  | .natural n =>
    simpa [Number.spelled, Number.chars] using ValueText.number (numeralText_signed false n .absent)
  | .negative n =>
    simpa [Number.spelled, Number.chars] using ValueText.number (numeralText_signed true n .absent)
  | .double (.finite minus m e) =>
    simp only [Number.chars, doubleChars, Number.spelled, List.append_assoc]
    exact .number (numeralText_signed minus _ (exponentText_intText _))
  | .double (.infinite _) => exact .null
  | .double .nan => exact .null

/-! ## Values -/

mutual

/-- What the grammar sees in the compact text of a value. -/
def Value.spelled : Value → Syntax
  | .null => .null
  | .bool b => .bool b
  | .number n => n.spelled
  | .string s => .string (s.toList.map charPiece)
  | .array items => .array (spelledItems items)
  | .object members => .object (spelledMembers members)

/-- What the grammar sees in the items of an array. -/
def spelledItems : List Value → List Syntax
  | [] => []
  | v :: rest => v.spelled :: spelledItems rest

/-- What the grammar sees in the members of an object. -/
def spelledMembers : List (String × Value) → List (List Piece × Syntax)
  | [] => []
  | (key, v) :: rest => (key.toList.map charPiece, v.spelled) :: spelledMembers rest

end

mutual

/-- A value is written as it is spelled. -/
theorem valueText_compact : ∀ v : Value, ValueText v.spelled v.compact
  | .null => .null
  | .bool true => .yes
  | .bool false => .no
  | .number n => valueText_chars n
  | .string s => .string (stringText_quoted s.toList)
  | .array [] => .emptyArray gap_nil
  | .array (v :: vs) => .array (g := []) gap_nil (itemsText_compact (v :: vs) nofun)
  | .object [] => .emptyObject gap_nil
  | .object ((key, v) :: ms) => .object (g := []) gap_nil (membersText_compact ((key, v) :: ms) nofun)

/-- The items of an array that has some are written as they are spelled. -/
theorem itemsText_compact : ∀ vs : List Value, vs ≠ [] →
    ItemsText (spelledItems vs) (compactItems vs ++ [']'])
  | [], h => absurd rfl h
  | v :: [], _ => .last (valueText_compact v) gap_nil
  | v :: w :: vs, _ => by
    rw [compactItems, List.append_assoc]
    have h := ItemsText.more (valueText_compact v) gap_nil gap_nil (itemsText_compact (w :: vs) nofun)
    exact h

/-- The members of an object that has some are written as they are spelled. -/
theorem membersText_compact : ∀ ms : List (String × Value), ms ≠ [] →
    MembersText (spelledMembers ms) (compactMembers ms ++ ['}'])
  | [], h => absurd rfl h
  | (key, v) :: [], _ => by
    have h := MembersText.last (stringText_quoted key.toList) gap_nil gap_nil (valueText_compact v)
      gap_nil
    simpa [compactMembers, quote, spelledMembers] using h
  | (key, v) :: (key', w) :: ms, _ => by
    have h := MembersText.more (stringText_quoted key.toList) gap_nil gap_nil (valueText_compact v)
      gap_nil gap_nil (membersText_compact ((key', w) :: ms) nofun)
    simpa [compactMembers, quote, spelledMembers] using h

end

/-- The compact text of a value spells it. -/
theorem spells_text (v : Value) : Spells v.spelled v.text :=
  ⟨[], v.compact, [], gap_nil, valueText_compact v, gap_nil, by
    rw [Value.text, String.toList_ofList, List.append_nil, List.nil_append]⟩

/-- The compact text of a value is read as it is spelled. -/
theorem parse?_text (v : Value) : Syntax.parse? v.text = some v.spelled :=
  parse?_of_spells (spells_text v)

end Checkup.Json
