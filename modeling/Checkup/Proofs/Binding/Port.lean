import Checkup.Binding.Basic
import Checkup.Proofs.Json.Record
import Checkup.Proofs.Numeric.Value
import Checkup.Proofs.Text.Decimal

/-!
# The port that a credential gives

A port may be given as a JSON number or as text, and which of the two it is makes no difference. The
number may be an integer or a double, as long as its value is a natural number; the text is decimal,
and zeros and a plus sign in front of the digits and blanks around them do not count. A value above the
largest port number is refused however it is spelled, and is not reduced.

Results:
* `wholeOf?_eq_some`: when the value of a double is a natural number.
* `portOf?_eq_some`: what a credential must say for its port to be `n`.
* `port_of_saying`: the outcome depends on what the credential says and not on how.
* `port_spelled_alike`: both directions for the spellings of a number.
-/
namespace Checkup

/-- The JSON number is this natural number, as an integer or as a double. -/
inductive Json.Number.Is : Number → Nat → Prop where
  | natural (n : Nat) : Is (.natural n) n
  | double {d : Double} {n : Nat} : d.value? = some (n : ℚ) → Is (.double d) n

namespace Binding

open Json

variable {b : Binding} {key : String} {v : Value} {n : Nat}

/-- The credential says this natural number, as a number or as text. -/
inductive Says : Value → Nat → Prop where
  | number {x : Number} {n : Nat} : x.Is n → Says (.number x) n
  | text {s : String} {n : Nat} : Text.Spells s n → Says (.string s) n

/-- What asking for a port comes to where the credential says `n`. -/
def portOutcome (b : Binding) (key : String) (n : Nat) : Except BindingError UInt16 :=
  if n ≤ 65535 then .ok (UInt16.ofNat n)
  else .error (.invalidCredential b.name key "port number")

/-! ## Numbers -/

/-- A quotient is a natural number exactly if the division leaves nothing. -/
theorem div_eq_natCast_iff {num den : Nat} (hden : 0 < den) :
    (num : ℚ) / den = n ↔ num % den = 0 ∧ num / den = n := by
  have hpos : (den : ℚ) ≠ 0 := by exact_mod_cast hden.ne'
  rw [div_eq_iff hpos]
  constructor
  · intro h
    have hnum : num = n * den := by exact_mod_cast h
    rw [hnum]
    exact ⟨Nat.mul_mod_left n den, Nat.mul_div_cancel n hden⟩
  · intro ⟨hmod, hdiv⟩
    have hnum : num = n * den := by
      rw [← hdiv, Nat.div_mul_cancel (Nat.dvd_of_mod_eq_zero hmod)]
    exact_mod_cast hnum

theorem wholeOf?_eq_some {d : Double} : wholeOf? d = some n ↔ d.value? = some (n : ℚ) := by
  cases d with
  | nan => simp [wholeOf?, Double.value?]
  | infinite s => simp [wholeOf?, Double.value?]
  | finite s m e =>
    have hwhole : (m : ℚ) * 2 ^ e = n ↔ (Double.ratioOf m e).1 % (Double.ratioOf m e).2 = 0 ∧
        (Double.ratioOf m e).1 / (Double.ratioOf m e).2 = n := by
      rw [← Double.ratioOf_value]
      exact div_eq_natCast_iff (Double.ratioOf_pos m e)
    have hnonneg := Double.magnitude_nonneg m e
    have hzero := Double.magnitude_eq_zero (m := m) (e := e)
    simp only [wholeOf?, Double.value?, Option.ite_none_right_eq_some, Option.some.injEq]
    cases s with
    | false => simp [hwhole]
    | true =>
      -- With the sign in front the value is a natural number only if it is zero.
      constructor
      · intro h
        obtain ⟨⟨hmod, hsign⟩, hdiv⟩ := h
        have hm : m = 0 := by simpa using hsign
        have hn := hwhole.mpr ⟨hmod, hdiv⟩
        rw [hzero.mpr hm] at hn ⊢
        simpa using hn
      · intro h
        have hneg : -((m : ℚ) * 2 ^ e) = n := by simpa using h
        have hn : (0 : ℚ) ≤ n := n.cast_nonneg
        obtain ⟨hmod, hdiv⟩ := hwhole.mp (by linarith)
        exact ⟨⟨hmod, .inr (hzero.mp (by linarith))⟩, hdiv⟩

/-! ## Ports -/

/-- A credential says one number at most. -/
theorem Says.unique {m : Nat} (hm : Says v m) (hn : Says v n) : m = n := by
  cases hm with
  | text hm =>
    cases hn with
    | text hn => exact hm.unique hn
  | number hm =>
    cases hn with
    | number hn =>
      cases hm with
      | natural => cases hn; rfl
      | double hm =>
        cases hn with
        | double hn =>
          rw [hm] at hn
          exact_mod_cast Option.some.inj hn

theorem portOf?_eq_some : portOf? v = some n ↔ Says v n ∧ n ≤ maxPort := by
  constructor
  · intro h
    unfold portOf? at h
    split at h
    · obtain ⟨hle, hn⟩ := Option.ite_none_right_eq_some.mp h
      cases hn
      exact ⟨.number (.natural _), hle⟩
    · cases h
    · obtain ⟨hn, hle⟩ := Option.filter_eq_some_iff.mp h
      exact ⟨.number (.double (wholeOf?_eq_some.mp hn)), of_decide_eq_true hle⟩
    · obtain ⟨hle, hs⟩ := Text.readBounded?_trim.mp h
      exact ⟨.text hs, hle⟩
    · cases h
  · intro ⟨hnum, hle⟩
    unfold portOf?
    cases hnum with
    | text hs => exact Text.readBounded?_trim.mpr ⟨hle, hs⟩
    | number hx =>
      cases hx with
      | natural => exact if_pos hle
      | double hd =>
        exact Option.filter_eq_some_iff.mpr ⟨wholeOf?_eq_some.mpr hd, decide_eq_true hle⟩

theorem port_of_some (hv : b.credential? key = some v) (h : portOf? v = some n) :
    b.port key = .ok (UInt16.ofNat n) := by
  simp only [port, hv, h]

theorem port_of_none (hv : b.credential? key = some v) (h : portOf? v = none) :
    b.port key = .error (b.invalid key "port number") := by
  simp only [port, hv, h]

/-- The outcome depends on the number that the credential says, and on nothing else of it. -/
theorem port_of_saying (hv : b.credential? key = some v) (hnum : Says v n) :
    b.port key = b.portOutcome key n := by
  unfold portOutcome
  by_cases hle : n ≤ 65535
  · rw [if_pos hle, port_of_some hv (portOf?_eq_some.mpr ⟨hnum, hle⟩)]
  · have hnone : portOf? v = none := by
      rw [Option.eq_none_iff_forall_not_mem]
      intro m hm
      obtain ⟨hm, hbound⟩ := portOf?_eq_some.mp hm
      exact hle (hm.unique hnum ▸ hbound)
    rw [if_neg hle, port_of_none hv hnone]
    rfl

theorem port_eq_ok {p : UInt16} (hv : b.credential? key = some v) :
    b.port key = .ok p ↔ Says v p.toNat := by
  constructor
  · intro h
    cases hport : portOf? v with
    | none => rw [port_of_none hv hport] at h; cases h
    | some n =>
      rw [port_of_some hv hport] at h
      cases h
      obtain ⟨hnum, hle⟩ := portOf?_eq_some.mp hport
      have hn : (UInt16.ofNat n).toNat = n := by
        rw [UInt16.toNat_ofNat']
        unfold maxPort at hle
        omega
      rwa [hn]
  · intro h
    have hle : p.toNat ≤ 65535 := Nat.le_of_lt_succ p.toNat_lt
    rw [port_of_saying hv h, portOutcome, if_pos hle, UInt16.ofNat_toNat]

/-- The decimal numeral of a number of 64 bits is that number. A credential that is a natural number and
one that writes it in decimal come to the same, which is this port if there is one; and a text that is
accepted is, between blanks, digits with perhaps a plus sign in front, which spell the port that is
given. -/
theorem port_spelled_alike :
    (∀ n < 2 ^ (64 : Nat),
      (⟨false, Text.decimal n, none, none⟩ : Numeral).number? = some (.natural n)) ∧
    (∀ (b b' : Binding) (key : String) (n : Nat) (x : Number) (s : String),
      b.credential? key = some (.number x) → x.Is n →
      b'.credential? key = some (.string s) → Text.Writes s n →
        b.port key = b.portOutcome key n ∧ b'.port key = b'.portOutcome key n) ∧
    ∀ (b : Binding) (key s : String), b.credential? key = some (.string s) →
      (∀ p, b.port key = .ok p ↔ Text.Spells s p.toNat) ∧
      ((∀ p, b.port key ≠ .ok p) →
        b.port key = .error (.invalidCredential b.name key "port number")) := by
  refine ⟨fun n hn => number?_decimal hn, ?_, ?_⟩
  · intro b b' key n x s hx hn hs hwrites
    exact ⟨port_of_saying hx (.number hn), port_of_saying hs (.text (Text.spells_of_writes hwrites))⟩
  · intro b key s hs
    constructor
    · intro p
      rw [port_eq_ok hs]
      exact ⟨fun h => by cases h; assumption, .text⟩
    · intro hnone
      cases hport : portOf? (.string s) with
      | none => exact port_of_none hs hport
      | some n => exact absurd (port_of_some hs hport) (hnone _)

/-- The largest port, and the number behind it, which is given as a double and would be zero if it were
reduced to 16 bits. -/
theorem port_spelled_alike_largest :
    let binding (port : Value) : Binding := ⟨"cache", "p.redis", [], [("port", port)], []⟩
    (binding (.number (.natural 65535))).port "port" = .ok 65535 ∧
      (binding (.string "\u3000+0065535\n")).port "port" = .ok 65535 ∧
      (binding (.number (.double (.finite false 1 16)))).port "port" =
        .error (.invalidCredential "cache" "port" "port number") ∧
      (binding (.string "65536")).port "port" =
        .error (.invalidCredential "cache" "port" "port number") := by
  intro binding
  obtain ⟨-, halike, -⟩ := port_spelled_alike
  have hlargest : Text.Writes "\u3000+0065535\n" 65535 :=
    ⟨['\u3000'], ['+'], 2, ['\n'], by simp [Text.decimal, Text.digitChar],
      List.forall_mem_singleton.mpr rfl, .inr rfl, List.forall_mem_singleton.mpr rfl⟩
  have hbehind : Text.Writes "65536" 65536 :=
    ⟨[], [], 0, [], by simp [Text.decimal, Text.digitChar], List.forall_mem_nil _, .inl rfl,
      List.forall_mem_nil _⟩
  have hdouble : (Number.double (.finite false 1 16)).Is 65536 :=
    .double (by simp only [Double.value?]; norm_num)
  obtain ⟨hnumber, htext⟩ := halike (binding (.number (.natural 65535)))
    (binding (.string "\u3000+0065535\n")) "port" _ _ _ rfl (.natural _) rfl hlargest
  obtain ⟨hnumber', htext'⟩ := halike (binding (.number (.double (.finite false 1 16))))
    (binding (.string "65536")) "port" _ _ _ rfl hdouble rfl hbehind
  exact ⟨hnumber, htext, hnumber', htext'⟩

end Binding
end Checkup
