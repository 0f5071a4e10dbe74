import Checkup.Http.Target
import Checkup.Proofs.Text.Split

/-!
# Which addresses may be asked for

An address of the web may stand in a request if its host is one and every character behind the host may
stand where it does. So whatever end is taken from the path or the query, what is left may stand there too,
and so may a plain name at its end.

Results:
* `splitPath?_isSome`: what may stand behind a host, as the recursion `acceptsPath`.
* `parse?_web`: which addresses of the web may be asked for.
* `parse?_end`: another end of an address.
-/
namespace Checkup.Http.Target

/-! ## Paths and queries -/

/-- Whether a text may stand behind the sign of a query; a fragment is dropped. -/
def acceptsQuery : List Char → Bool
  | [] => true
  | c :: cs => c == '#' || (inQuery c && acceptsQuery cs)

/-- Whether a text may stand behind a host. -/
def acceptsPath : List Char → Bool
  | [] => true
  | c :: cs => c == '#' || (if c = '?' then acceptsQuery cs else inPath c && acceptsPath cs)

theorem acceptsQuery_eq (cs : List Char) : acceptsQuery cs = (cs.takeWhile (· != '#')).all inQuery := by
  induction cs with
  | nil => rfl
  | cons c cs ih =>
    by_cases hc : c = '#'
    · simp [acceptsQuery, hc]
    · simp [acceptsQuery, hc, ih]

/-- The path and the query of a text without a fragment, as they are taken apart. -/
def accepts (cs : List Char) : Bool :=
  (cs.takeWhile (· != '?')).all inPath && (cs.drop (cs.takeWhile (· != '?')).length).tail.all inQuery

theorem accepts_cons (c : Char) (cs : List Char) :
    accepts (c :: cs) = if c = '?' then cs.all inQuery else inPath c && accepts cs := by
  by_cases hc : c = '?'
  · simp [accepts, hc]
  · simp [accepts, hc, Bool.and_assoc]

theorem acceptsPath_eq (cs : List Char) : acceptsPath cs = accepts (cs.takeWhile (· != '#')) := by
  induction cs with
  | nil => rfl
  | cons c cs ih =>
    by_cases hc : c = '#'
    · simp [acceptsPath, accepts, hc]
    · have hkept : (c :: cs).takeWhile (· != '#') = c :: cs.takeWhile (· != '#') := by simp [hc]
      rw [hkept, accepts_cons, acceptsPath, ← ih, acceptsQuery_eq, beq_eq_false_iff_ne.mpr hc, Bool.false_or]

theorem isSome_guard_bind {α : Type} (b : Bool) (x : Option α) :
    ((guard (b = true) : Option Unit) >>= fun _ => x).isSome = (b && x.isSome) := by
  cases b <;> rfl

theorem splitPath?_isSome (cs : List Char) : (splitPath? cs).isSome = acceptsPath cs := by
  rw [acceptsPath_eq, splitPath?, accepts, isSome_guard_bind]
  congr 1
  cases hrest : (cs.takeWhile (· != '#')).drop ((cs.takeWhile (· != '#')).takeWhile (· != '?')).length with
  | nil => rfl
  | cons sign query =>
    dsimp only
    rw [isSome_guard_bind, List.tail_cons]
    exact Bool.and_true _

section
variable {front back name : List Char} (hname : ∀ c ∈ name, inPath c = true ∧ inQuery c = true)
include hname

theorem acceptsQuery_name : acceptsQuery name = true := by
  induction name with
  | nil => rfl
  | cons c cs ih =>
    obtain ⟨hc, hcs⟩ := List.forall_mem_cons.mp hname
    simp [acceptsQuery, hc.2, ih hcs]

theorem acceptsPath_name : acceptsPath name = true := by
  induction name with
  | nil => rfl
  | cons c cs ih =>
    obtain ⟨hc, hcs⟩ := List.forall_mem_cons.mp hname
    have hsign : c ≠ '?' := by
      rintro rfl
      exact absurd hc.1 (by decide)
    simp [acceptsPath, hsign, hc.1, ih hcs]

theorem acceptsQuery_end (h : acceptsQuery (front ++ back) = true) : acceptsQuery (front ++ name) = true := by
  induction front with
  | nil => exact acceptsQuery_name hname
  | cons c front ih =>
    rw [List.cons_append, acceptsQuery, Bool.or_eq_true, Bool.and_eq_true] at h ⊢
    exact h.imp_right (And.imp_right ih)

/-- A path may end at any place, and with a plain text there. -/
theorem acceptsPath_end (h : acceptsPath (front ++ back) = true) : acceptsPath (front ++ name) = true := by
  induction front with
  | nil => exact acceptsPath_name hname
  | cons c front ih =>
    rw [List.cons_append, acceptsPath, Bool.or_eq_true] at h ⊢
    refine h.imp_right fun h => ?_
    by_cases hc : c = '?'
    · rw [if_pos hc] at h ⊢
      exact acceptsQuery_end hname h
    · rw [if_neg hc, Bool.and_eq_true] at h ⊢
      exact h.imp_right ih

end

/-! ## Addresses of the web -/

/-- What follows a slash has no part in the authority. -/
theorem splitAuthority?_append (front back : List Char) : splitAuthority? (front ++ '/' :: back) =
    (splitAuthority? front).map fun (host, rest) => (host, rest ++ '/' :: back) := by
  have hhost : (front ++ '/' :: back).takeWhile (fun c => c != '/' && c != '?' && c != '#') = _ :=
    Text.takeWhile_append_cons rfl front back
  have hlength : (front.takeWhile fun c => c != '/' && c != '?' && c != '#').length ≤ front.length :=
    (List.takeWhile_sublist _).length_le
  rw [splitAuthority?, splitAuthority?, hhost]
  dsimp only
  rw [List.drop_append_of_le_length hlength]
  split <;> rfl

theorem start_web {scheme : String} (h : scheme = "http" ∨ scheme = "https") (cs : List Char) :
    start ((scheme ++ "://").toList ++ cs) = .scheme scheme.toList cs := by
  rcases h with rfl | rfl <;> rfl

/-- What may stand behind the scheme of an address that may be asked for. -/
def acceptsBehind (authority rest : List Char) : Bool :=
  (splitAuthority? authority).any fun (host, front) => !host.isEmpty && acceptsPath (front ++ '/' :: rest)

theorem ofText?_web {scheme : String} (h : scheme = "http" ∨ scheme = "https") (authority rest : List Char) :
    (ofText? ((scheme ++ "://").toList ++ (authority ++ '/' :: rest))).isSome =
      acceptsBehind authority rest := by
  rw [ofText?, start_web h, acceptsBehind]
  dsimp only
  rw [splitAuthority?_append]
  cases splitAuthority? authority with
  | none => rfl
  | some split =>
    obtain ⟨host, front⟩ := split
    refine (isSome_guard_bind _ _).trans ?_
    show _ = (!host.isEmpty && acceptsPath (front ++ '/' :: rest))
    rw [← splitPath?_isSome]
    cases splitPath? (front ++ '/' :: rest) <;> rfl

/-- An address of the web may be asked for if it is not too long and what stands behind its scheme may. -/
theorem parse?_web {scheme text : String} {authority rest : List Char}
    (h : scheme = "http" ∨ scheme = "https")
    (htext : text.toList = (scheme ++ "://").toList ++ (authority ++ '/' :: rest)) :
    (parse? text).isSome = true ↔
      text.utf8ByteSize ≤ maxSize ∧ acceptsBehind authority rest = true := by
  have hparse : parse? text = if maxSize < text.utf8ByteSize then none else
      ofText? ((scheme ++ "://").toList ++ (authority ++ '/' :: rest)) := by
    rw [parse?, htext]
    rcases h with rfl | rfl <;> rfl
  rw [hparse, ← ofText?_web h, ← Nat.not_lt]
  by_cases hsize : maxSize < text.utf8ByteSize <;> simp [hsize]

theorem acceptsBehind_end {authority front back name : List Char}
    (hname : ∀ c ∈ name, inPath c = true ∧ inQuery c = true)
    (h : acceptsBehind authority (front ++ back) = true) :
    acceptsBehind authority (front ++ name) = true := by
  rw [acceptsBehind] at h ⊢
  cases hsplit : splitAuthority? authority with
  | none => rw [hsplit] at h; cases h
  | some split =>
    obtain ⟨host, rest⟩ := split
    rw [hsplit, Option.any_some, Bool.and_eq_true, ← List.cons_append, ← List.append_assoc] at h
    rw [Option.any_some, Bool.and_eq_true, ← List.cons_append, ← List.append_assoc]
    exact h.imp_right (acceptsPath_end hname)

theorem utf8ByteSize_le {text text' : String} {front back back' : List Char} (h : text.toList = front ++ back)
    (h' : text'.toList = front ++ back')
    (hsize : (String.ofList back').utf8ByteSize ≤ (String.ofList back).utf8ByteSize) :
    text'.utf8ByteSize ≤ text.utf8ByteSize := by
  rw [← String.ofList_toList (s := text), ← String.ofList_toList (s := text'), h, h', String.ofList_append,
    String.ofList_append, String.utf8ByteSize_append, String.utf8ByteSize_append]
  exact Nat.add_le_add_left hsize _

/-- If an address may be asked for, then so may one with a plain text that is not longer at its end. -/
theorem parse?_end {scheme text text' : String} {authority front back name : List Char}
    (h : scheme = "http" ∨ scheme = "https")
    (htext : text.toList = (scheme ++ "://").toList ++ (authority ++ '/' :: (front ++ back)))
    (htext' : text'.toList = (scheme ++ "://").toList ++ (authority ++ '/' :: (front ++ name)))
    (hname : ∀ c ∈ name, inPath c = true ∧ inQuery c = true)
    (hsize : (String.ofList name).utf8ByteSize ≤ (String.ofList back).utf8ByteSize)
    (hparse : (parse? text).isSome = true) : (parse? text').isSome = true := by
  obtain ⟨hmax, haccepts⟩ := (parse?_web h htext).mp hparse
  rw [← List.cons_append, ← List.append_assoc, ← List.append_assoc] at htext htext'
  have hshorter := utf8ByteSize_le htext htext' hsize
  rw [List.append_assoc, List.append_assoc, List.cons_append] at htext'
  exact (parse?_web h htext').mpr ⟨Nat.le_trans hshorter hmax, acceptsBehind_end hname haccepts⟩

end Checkup.Http.Target
