import Checkup.Http.Form
import Checkup.Proofs.Text.Split
import Checkup.Proofs.Text.Utf8

/-!
# Forms are read back

Whatever texts the pairs of a form are made of, reading its written form gives the pairs again. Each byte of
a text is written as itself, as a plus sign or as an escape, and these are told apart by their first sign;
none of them contains a sign that separates.

Results:
* `decode_encodeByte` and `decode_encode`: bytes and texts.
* `decodePairs_encodePairs`: forms.
* `encodePairs_all`: a written form consists of a few plain signs.
-/
namespace Checkup.Http

/-! ## Percent encoding -/

theorem Percent.decode_cons {b : UInt8} (hb : b ≠ 0x25) (rest : List UInt8) :
    decode (b :: rest) = b :: decode rest := by
  match rest with
  | [] | [_] => rfl
  | _ :: _ :: _ => rw [decode, if_neg hb]

theorem Percent.decode_escape {high low : UInt8} {h l : Nat} (hhigh : digitOf? high = some h)
    (hlow : digitOf? low = some l) (rest : List UInt8) :
    decode (0x25 :: high :: low :: rest) = UInt8.ofNat (h * 16 + l) :: decode rest := by
  rw [decode, if_pos rfl, hhigh, hlow]

/-- Characters that need no escape are written as they are. -/
theorem Percent.encode_of_forall {escaped : Char → Bool} {cs : List Char}
    (h : ∀ c ∈ cs, c.toNat < 0x80 ∧ escaped c = false) : encode escaped cs = cs := by
  induction cs with
  | nil => rfl
  | cons c cs ih =>
    obtain ⟨⟨hc, hescaped⟩, hcs⟩ := List.forall_mem_cons.mp h
    have hplain : (c.toNat < 0x80 && !escaped c) = true := by simp [hc, hescaped]
    have ih := ih hcs
    rw [encode] at ih ⊢
    rw [List.flatMap_cons, ih, if_pos hplain, List.singleton_append]

theorem Percent.encode_append (escaped : Char → Bool) (front back : List Char) :
    encode escaped (front ++ back) = encode escaped front ++ encode escaped back :=
  List.flatMap_append

namespace Form

/-! ## Bytes -/

/-- What holds of all numbers of a byte holds of all bytes. -/
theorem forall_byte {P : UInt8 → Prop} (h : ∀ n < 256, P (UInt8.ofNat n)) (b : UInt8) : P b := by
  have hb := h b.toNat b.toNat_lt
  rwa [UInt8.ofNat_toNat] at hb

/-- What holds of all numbers of ASCII holds of all its characters. -/
theorem forall_ascii {P : Char → Prop} (h : ∀ n < 0x80, P (Char.ofNat n)) (c : Char)
    (hc : c.toNat < 0x80) : P c := by
  have hn := h c.toNat hc
  rwa [Char.ofNat_toNat] at hn

/-- What is read instead of a character. -/
def spaced (c : Char) : Char := if c = '+' then ' ' else c

/-- The byte of a digit. -/
def digitByte (d : Nat) : UInt8 := UInt8.ofNat (Text.upperHexDigit d).toNat

/-- A byte is written as itself, or as an escape with the two digits of its value. -/
def WritesAs (b : UInt8) (bytes : List UInt8) : Prop :=
  (b ≠ 0x25 ∧ bytes = [b]) ∨ (bytes = [0x25, digitByte (b.toNat / 16), digitByte (b.toNat % 16)] ∧
    Percent.digitOf? (digitByte (b.toNat / 16)) = some (b.toNat / 16) ∧
      Percent.digitOf? (digitByte (b.toNat % 16)) = some (b.toNat % 16))

instance (b : UInt8) (bytes : List UInt8) : Decidable (WritesAs b bytes) :=
  inferInstanceAs (Decidable (_ ∨ _))

theorem writesAs_encodeByte (b : UInt8) : WritesAs b (Text.Utf8.encode ((encodeByte b).map spaced)) := by
  revert b
  exact forall_byte (by decide +kernel)

theorem decode_encodeByte (b : UInt8) (rest : List UInt8) :
    Percent.decode (Text.Utf8.encode ((encodeByte b).map spaced) ++ rest) = b :: Percent.decode rest := by
  rcases writesAs_encodeByte b with ⟨hb, hbytes⟩ | ⟨hbytes, hhigh, hlow⟩
  · rw [hbytes]
    exact Percent.decode_cons hb rest
  · have hvalue : b.toNat / 16 * 16 + b.toNat % 16 = b.toNat := by omega
    rw [hbytes]
    refine (Percent.decode_escape hhigh hlow rest).trans ?_
    rw [hvalue, UInt8.ofNat_toNat]

theorem decode_encodeBytes (bytes : List UInt8) :
    Percent.decode (Text.Utf8.encode ((bytes.flatMap encodeByte).map spaced)) = bytes := by
  induction bytes with
  | nil => rfl
  | cons b bytes ih =>
    rw [List.flatMap_cons, List.map_append, Text.Utf8.encode, List.flatMap_append]
    refine (decode_encodeByte b _).trans ?_
    exact congrArg _ ih

/-- Texts are read back, whatever characters they consist of. -/
theorem decode_encode (cs : List Char) : decode (encode cs) = cs := by
  show Text.Utf8.decode (Percent.decode (Text.Utf8.encode ((encode cs).map spaced))) = cs
  rw [encode, decode_encodeBytes, Text.Utf8.decode_encode]

/-! ## Signs -/

/-- The signs of a text in written form. -/
def inText (c : Char) : Bool := c.toNat < 0x80 && (isPlain c || c == '+' || c == '%')

theorem encodeByte_all (b : UInt8) : (encodeByte b).all inText = true := by
  revert b
  exact forall_byte (by decide +kernel)

theorem encode_all {cs : List Char} {c : Char} (h : c ∈ encode cs) : inText c = true := by
  obtain ⟨b, -, hc⟩ := List.mem_flatMap.mp h
  exact List.all_eq_true.mp (encodeByte_all b) c hc

theorem notMem_encode {sep : Char} (h : inText sep = false) (cs : List Char) : sep ∉ encode cs := by
  intro hmem
  rw [encode_all hmem] at h
  cases h

/-- The signs of a form in written form. -/
def inForm (c : Char) : Bool := inText c || c == '=' || c == '&'

theorem encodePair_all {p : String × String} {c : Char} (h : c ∈ encodePair p) :
    inText c = true ∨ c = '=' := by
  rcases List.mem_append.mp h with h | h
  · exact .inl (encode_all h)
  rcases List.mem_cons.mp h with rfl | h
  · exact .inr rfl
  · exact .inl (encode_all h)

theorem encodePairs_all {pairs : List (String × String)} {c : Char} (h : c ∈ encodePairs pairs) :
    inForm c = true := by
  induction pairs with
  | nil => cases h
  | cons p ps ih =>
    have hpair {c : Char} (h : c ∈ encodePair p) : inForm c = true := by
      rcases encodePair_all h with h | rfl
      · rw [inForm, h]
        rfl
      · rfl
    cases ps with
    | nil =>
      rw [encodePairs, List.map_singleton, List.intercalate_singleton] at h
      exact hpair h
    | cons q qs =>
      rw [encodePairs, List.map_cons, List.map_cons, List.intercalate_cons_cons, List.append_assoc,
        List.singleton_append] at h
      rcases List.mem_append.mp h with h | h
      · exact hpair h
      rcases List.mem_cons.mp h with rfl | h
      · rfl
      · exact ih h

/-! ## Pairs -/

theorem decodePair_encodePair (p : String × String) : decodePair (encodePair p) = p := by
  rw [decodePair, encodePair, Text.splitOnce?_append (notMem_encode (by decide) _)]
  simp [decode_encode]

theorem encodePair_ne_nil (p : String × String) : encodePair p ≠ [] :=
  List.append_ne_nil_of_right_ne_nil _ (List.cons_ne_nil _ _)

theorem separator_notMem_encodePair (p : String × String) : '&' ∉ encodePair p := fun h => by
  rcases encodePair_all h with h | h
  · exact absurd h (by decide)
  · exact absurd h (by decide)

/-- Forms are read back, whatever texts their pairs consist of. -/
theorem decodePairs_encodePairs (pairs : List (String × String)) :
    decodePairs (encodePairs pairs) = pairs := by
  cases pairs with
  | nil => rfl
  | cons p ps =>
    have hsplit : Text.splitChars '&' (encodePairs (p :: ps)) = (p :: ps).map encodePair :=
      Text.splitChars_intercalate (List.cons_ne_nil _ _) fun part hpart => by
        obtain ⟨p', -, rfl⟩ := List.mem_map.mp hpart
        exact separator_notMem_encodePair p'
    have hfilter : ((p :: ps).map encodePair).filter (!·.isEmpty) = (p :: ps).map encodePair :=
      List.filter_eq_self.mpr fun part hpart => by
        obtain ⟨p', -, rfl⟩ := List.mem_map.mp hpart
        simp [encodePair_ne_nil]
    rw [decodePairs, hsplit, hfilter, List.map_map, List.map_congr_left (g := id), List.map_id]
    exact fun p' _ => decodePair_encodePair p'

end Form
end Checkup.Http
