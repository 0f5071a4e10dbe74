import Checkup.Http.Exchange
import Checkup.Proofs.Guards

/-!
# Requests that could be built

Results:
* `ofText_eq_ok`, `withHeader_eq_ok` and `withToken_eq_ok`: when a request can be built, and what it is then.
-/
namespace Checkup.Http.Request

/-- A URL of the web. -/
def IsWeb (u : Url) : Prop := u.scheme = "http" ∨ u.scheme = "https"

variable {method : Method} {text name value token : String} {q r : Request}

theorem ofText_eq_ok : ofText method text = .ok r ↔
    ∃ u, Url.parse text = .ok u ∧ IsWeb u ∧ r = ⟨method, { u with fragment := none }, [], none⟩ := by
  unfold ofText
  cases Url.parse text with
  | error e => simp
  | ok u =>
    by_cases hu : u.scheme = "http" ∨ u.scheme = "https"
    · simp only [if_pos hu, Except.ok.injEq]
      constructor
      · rintro rfl
        exact ⟨u, rfl, hu, rfl⟩
      · rintro ⟨v, rfl, -, rfl⟩
        rfl
    · simp only [if_neg hu, reduceCtorEq, false_iff]
      rintro ⟨v, hv, hweb, -⟩
      cases hv
      exact hu hweb

theorem withHeader_eq_ok : q.withHeader name value = .ok r ↔
    value.toList.all isHeaderChar = true ∧ r = { q with headers := q.headers ++ [(name, value)] } := by
  unfold withHeader
  split
  · rename_i h
    simp [h, eq_comm]
  · rename_i h
    simp [h]

theorem withToken_eq_ok : q.withToken token = .ok r ↔
    (s!"Bearer {token}").toList.all isHeaderChar = true ∧
      r = { q with headers := q.headers ++ [("authorization", s!"Bearer {token}")] } :=
  withHeader_eq_ok

end Checkup.Http.Request
