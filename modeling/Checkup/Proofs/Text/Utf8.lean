import Checkup.Text.Utf8

/-!
# Texts and their bytes

Results:
* `decode_encode`: reading what was written gives the text again, whatever stands behind it.
* `encode_lt_encode`: texts stand in the order of their bytes.
-/
namespace Checkup.Text.Utf8

/-! ## Reading what was written -/

theorem following_zero (low high : Nat) (rest : List UInt8) : following 0 low high rest = [] := by
  rw [following]

theorem following_succ {n low high : Nat} {b : UInt8} (h : low ≤ b.toNat ∧ b.toNat ≤ high)
    (rest : List UInt8) :
    following (n + 1) low high (b :: rest) = b :: following n 0x80 0xBF rest := by
  rw [following, if_pos h]

theorem toNat_ofNat_of_lt {n : Nat} (h : n < 256) : (UInt8.ofNat n).toNat = n := by
  simp [Nat.mod_eq_of_lt h]

/-- A character whose leading byte announces the bytes that follow it is read. -/
theorem decode_char {b : UInt8} {l : Lead} {tail rest : List UInt8} {c : Char}
    (hlead : lead? b.toNat = some l)
    (htail : following l.following l.low l.high (tail ++ rest) = tail)
    (hlength : tail.length = l.following) (hc : assemble l.share tail = c) :
    decode (b :: tail ++ rest) = c :: decode rest := by
  rw [List.cons_append, decode]
  simp only [hlead, htail, if_pos hlength, hc, List.drop_left]

/-- A continuing byte is read as six bits. -/
theorem toNat_continuing (n : Nat) : (UInt8.ofNat (0x80 + n % 64)).toNat = 0x80 + n % 64 :=
  toNat_ofNat_of_lt (by omega)

theorem following_continuing (k n : Nat) (rest : List UInt8) :
    following (k + 1) 0x80 0xBF (UInt8.ofNat (0x80 + n % 64) :: rest) =
      UInt8.ofNat (0x80 + n % 64) :: following k 0x80 0xBF rest :=
  following_succ (by rw [toNat_continuing]; omega) rest

/-- The lead of two bytes. -/
theorem lead?_two {q : Nat} (h : 2 ≤ q) (h' : q < 0x20) :
    lead? (0xC0 + q) = some ⟨1, 0x80, 0xBF, q⟩ := by
  rw [lead?, if_neg (by omega), if_neg (by omega), if_pos (by omega), Nat.add_sub_cancel_left]

/-- The lead of three bytes admits the byte that follows it, unless the number is too small for three bytes
or a surrogate. -/
theorem lead?_three {q m : Nat} (hq : q < 0x10) (hm : m < 0x40) (hlow : 0x800 ≤ q * 4096 + m * 64 + 0x3F)
    (hgap : q * 4096 + m * 64 < 0xD800 ∨ 0xDFFF < q * 4096 + m * 64 + 0x3F) :
    ∃ low high, lead? (0xE0 + q) = some ⟨2, low, high, q⟩ ∧ low ≤ 0x80 + m ∧ 0x80 + m ≤ high := by
  rw [lead?, if_neg (by omega), if_neg (by omega), if_neg (by omega)]
  split
  · obtain rfl : q = 0 := by omega
    exact ⟨_, _, rfl, by omega, by omega⟩
  · split
    · obtain rfl : q = 0xD := by omega
      exact ⟨_, _, rfl, by omega, by omega⟩
    · rw [if_pos (by omega), Nat.add_sub_cancel_left]
      exact ⟨_, _, rfl, by omega, by omega⟩

/-- The lead of four bytes admits the byte that follows it, unless the number is too small for four bytes
or beyond the last plane. -/
theorem lead?_four {q m : Nat} (hm : m < 0x40) (hlow : 0x10000 ≤ q * 262144 + m * 4096 + 0xFFF)
    (hhigh : q * 262144 + m * 4096 < 0x110000) :
    ∃ low high, lead? (0xF0 + q) = some ⟨3, low, high, q⟩ ∧ low ≤ 0x80 + m ∧ 0x80 + m ≤ high := by
  rw [lead?, if_neg (by omega), if_neg (by omega), if_neg (by omega), if_neg (by omega),
    if_neg (by omega), if_neg (by omega)]
  split
  · obtain rfl : q = 0 := by omega
    exact ⟨_, _, rfl, by omega, by omega⟩
  · split
    · rw [Nat.add_sub_cancel_left]
      exact ⟨_, _, rfl, by omega, by omega⟩
    · rw [if_pos (by omega)]
      obtain rfl : q = 4 := by omega
      exact ⟨_, _, rfl, by omega, by omega⟩

theorem decode_encodeChar (c : Char) (rest : List UInt8) :
    decode (encodeChar c ++ rest) = c :: decode rest := by
  have hvalid : c.toNat < 0xD800 ∨ (0xDFFF < c.toNat ∧ c.toNat < 0x110000) := c.valid
  have hc : Char.ofNat c.toNat = c := Char.ofNat_toNat c
  unfold encodeChar
  generalize c.toNat = n at hvalid hc
  dsimp only
  split
  · refine decode_char (l := ⟨0, 0x80, 0xBF, n⟩) ?_ ?_ rfl ?_
    · rw [toNat_ofNat_of_lt (by omega), lead?, if_pos (by assumption)]
    · simp [following]
    · simpa [assemble] using hc
  split
  · have hlead := lead?_two (q := n / 64) (by omega) (by omega)
    rw [← toNat_ofNat_of_lt (n := 0xC0 + n / 64) (by omega)] at hlead
    refine decode_char hlead ?_ rfl ?_
    · exact (following_continuing ..).trans (by rw [following_zero])
    · simp only [assemble, List.foldl, toNat_continuing]
      rw [← hc]
      congr 1
      omega
  split
  · obtain ⟨low, high, hlead, hlow, hhigh⟩ :=
      lead?_three (q := n / 4096) (m := n / 64 % 64) (by omega) (by omega) (by omega) (by omega)
    rw [← toNat_ofNat_of_lt (n := 0xE0 + n / 4096) (by omega)] at hlead
    refine decode_char hlead ?_ rfl ?_
    · rw [List.cons_append, List.cons_append,
        following_succ (by rw [toNat_continuing]; exact ⟨hlow, hhigh⟩),
        following_continuing, following_zero]
    · simp only [assemble, List.foldl, toNat_continuing]
      rw [← hc]
      congr 1
      omega
  · obtain ⟨low, high, hlead, hlow, hhigh⟩ :=
      lead?_four (q := n / 262144) (m := n / 4096 % 64) (by omega) (by omega) (by omega)
    rw [← toNat_ofNat_of_lt (n := 0xF0 + n / 262144) (by omega)] at hlead
    refine decode_char hlead ?_ rfl ?_
    · rw [List.cons_append, List.cons_append, List.cons_append,
        following_succ (by rw [toNat_continuing]; exact ⟨hlow, hhigh⟩),
        following_continuing, following_continuing, following_zero]
    · simp only [assemble, List.foldl, toNat_continuing]
      rw [← hc]
      congr 1
      omega

theorem decode_append (cs : List Char) (rest : List UInt8) :
    decode (encode cs ++ rest) = cs ++ decode rest := by
  induction cs with
  | nil => rfl
  | cons c cs ih =>
    rw [encode, List.flatMap_cons, List.append_assoc, decode_encodeChar]
    exact congrArg (c :: ·) ih

theorem decode_encode (cs : List Char) : decode (encode cs) = cs := by
  have h := decode_append cs []
  rwa [List.append_nil, decode, List.append_nil] at h

/-! ## The order of bytes -/

/-- Two lists of bytes stand in the order of their first bytes, or, if these are equal, in that of what
stands behind them. -/
theorem cons_lt_cons {a b : Nat} {xs ys : List UInt8} (hb : b < 256) (hle : a ≤ b)
    (h : a = b → xs < ys) : UInt8.ofNat a :: xs < UInt8.ofNat b :: ys := by
  rw [List.cons_lt_cons_iff, UInt8.lt_iff_toNat_lt, toNat_ofNat_of_lt hb, toNat_ofNat_of_lt (by omega)]
  obtain hlt | heq := Nat.lt_or_eq_of_le hle
  · exact .inl hlt
  · exact .inr ⟨by rw [heq], h heq⟩

/-- Of two characters the smaller one has the smaller byte where their bytes first differ, so nothing
behind them matters. -/
theorem encodeChar_append_lt {c d : Char} (h : c < d) (xs ys : List UInt8) :
    encodeChar c ++ xs < encodeChar d ++ ys := by
  have hlt : c.toNat < d.toNat := h
  have hvalid : d.toNat < 0xD800 ∨ (0xDFFF < d.toNat ∧ d.toNat < 0x110000) := d.valid
  unfold encodeChar
  generalize c.toNat = m at hlt
  generalize d.toNat = n at hlt hvalid
  dsimp only
  by_cases h₁ : n < 0x80
  · rw [if_pos h₁, if_pos (by omega)]
    exact cons_lt_cons (by omega) (by omega) fun h => by omega
  rw [if_neg h₁]
  by_cases h₂ : n < 0x800
  · rw [if_pos h₂]
    split
    · exact cons_lt_cons (by omega) (by omega) fun h => by omega
    rw [if_pos (by omega)]
    exact cons_lt_cons (by omega) (by omega) fun _ =>
      cons_lt_cons (by omega) (by omega) fun _ => by omega
  rw [if_neg h₂]
  by_cases h₃ : n < 0x10000
  · rw [if_pos h₃]
    split
    · exact cons_lt_cons (by omega) (by omega) fun h => by omega
    split
    · exact cons_lt_cons (by omega) (by omega) fun h => by omega
    rw [if_pos (by omega)]
    exact cons_lt_cons (by omega) (by omega) fun _ =>
      cons_lt_cons (by omega) (by omega) fun _ =>
        cons_lt_cons (by omega) (by omega) fun _ => by omega
  rw [if_neg h₃]
  split
  · exact cons_lt_cons (by omega) (by omega) fun h => by omega
  split
  · exact cons_lt_cons (by omega) (by omega) fun h => by omega
  split
  · exact cons_lt_cons (by omega) (by omega) fun h => by omega
  exact cons_lt_cons (by omega) (by omega) fun _ =>
    cons_lt_cons (by omega) (by omega) fun _ =>
      cons_lt_cons (by omega) (by omega) fun _ =>
        cons_lt_cons (by omega) (by omega) fun _ => by omega

theorem encodeChar_ne_nil (c : Char) : encodeChar c ≠ [] := by
  unfold encodeChar
  dsimp only
  repeat' split
  all_goals exact List.cons_ne_nil _ _

/-- Texts stand in the order of their bytes. -/
theorem encode_lt_encode {cs ds : List Char} (h : cs < ds) : encode cs < encode ds := by
  induction h with
  | nil =>
    rename_i d ds
    obtain ⟨b, bs, hb⟩ := List.exists_cons_of_ne_nil (encodeChar_ne_nil d)
    rw [encode, encode, List.flatMap_cons, hb]
    exact List.nil_lt_cons _ _
  | rel hcd => exact encodeChar_append_lt hcd _ _
  | cons _ ih => exact List.append_left_lt ih

end Checkup.Text.Utf8
