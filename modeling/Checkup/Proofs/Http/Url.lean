import Checkup.Proofs.Http.Form
import Checkup.Proofs.Http.Request

/-!
# How a URL is read

A text is cut into the part up to its query, the query and the fragment, and each is read by itself.

Results:
* `cutAt_of_forall`, `cutAt_append_cons` and `cleaned_append`: where a text is cut, and what is cleaned away.
* `parse_of_cuts`: the reading of a text by its parts.
* `readAuthority_congr` and `readBehind_tails`: which part of a URL depends on which part of the text.
* `queryPairs_of_carries`: the pairs in the query of a URL are those that its text carries.
-/
namespace Checkup.Http.Url

/-! ## Cutting -/

section
variable {stop : Char → Bool} {front back cs : List Char} {c : Char}

theorem cutAt_of_forall (h : ∀ c ∈ cs, stop c = false) : cutAt stop cs = (cs, []) := by
  induction cs with
  | nil => rfl
  | cons c cs ih =>
    obtain ⟨hc, hcs⟩ := List.forall_mem_cons.mp h
    have ih := ih hcs
    simp only [cutAt, Prod.mk.injEq] at ih ⊢
    simp [hc, ih.1, ih.2]

/-- A character that stops ends the first part, wherever that ends. -/
theorem cutAt_append_cons (front back : List Char) (hc : stop c = true) :
    cutAt stop (front ++ c :: back) = ((cutAt stop front).1, (cutAt stop front).2 ++ c :: back) := by
  have hback : (c :: back).dropWhile (!stop ·) = c :: back := by rw [List.dropWhile_cons, hc]; rfl
  have hfront : (front ++ c :: back).takeWhile (!stop ·) = front.takeWhile (!stop ·) :=
    Text.takeWhile_append_cons (by rw [hc]; rfl) front back
  rw [cutAt, cutAt, hfront, Text.dropWhile_append_of_head hback]

theorem cutAt_append_cons_of_forall (h : ∀ d ∈ front, stop d = false) (hc : stop c = true) :
    cutAt stop (front ++ c :: back) = (front, c :: back) := by
  rw [cutAt_append_cons _ _ hc, cutAt_of_forall h, List.nil_append]

/-- A text has a first character that stops, or none. -/
theorem exists_stop (stop : Char → Bool) (cs : List Char) : ∃ front back, cs = front ++ back ∧
    (∀ c ∈ front, stop c = false) ∧ (back = [] ∨ ∃ c rest, back = c :: rest ∧ stop c = true) := by
  induction cs with
  | nil => exact ⟨[], [], rfl, nofun, .inl rfl⟩
  | cons c cs ih =>
    by_cases hc : stop c = true
    · exact ⟨[], c :: cs, rfl, nofun, .inr ⟨c, cs, rfl, hc⟩⟩
    · obtain ⟨front, back, rfl, hfront, hback⟩ := ih
      have hall : ∀ d ∈ c :: front, stop d = false :=
        List.forall_mem_cons.mpr ⟨Bool.not_eq_true _ ▸ hc, hfront⟩
      exact ⟨c :: front, back, rfl, hall, hback⟩

end

/-! ## Cleaning -/

/-- What is left of the start of a text, -/
def leading (cs : List Char) : List Char :=
  (cs.dropWhile fun c => decide (c.toNat ≤ 0x20)).filter fun c => !(c == '\t' || c == '\n' || c == '\r')

/-- and of its end. -/
def trailing (cs : List Char) : List Char :=
  (cs.reverse.dropWhile fun c => decide (c.toNat ≤ 0x20)).reverse.filter
    fun c => !(c == '\t' || c == '\n' || c == '\r')

/-- What stands between two visible characters, and is visible itself, is left as it is. -/
theorem cleaned_append {middle : List Char} (front back : List Char) (hne : middle ≠ [])
    (h : ∀ c ∈ middle, 0x20 < c.toNat) :
    cleaned (front ++ (middle ++ back)) = leading front ++ (middle ++ trailing back) := by
  let outer (c : Char) : Bool := decide (c.toNat ≤ 0x20)
  have hvisible {cs rest : List Char} (hne : cs ≠ []) (h : ∀ c ∈ cs, 0x20 < c.toNat) :
      (cs ++ rest).dropWhile outer = cs ++ rest := by
    cases cs with
    | nil => exact (hne rfl).elim
    | cons c cs =>
      have hc : outer c = false := decide_eq_false (Nat.not_le.mpr (h c List.mem_cons_self))
      rw [List.cons_append, List.dropWhile_cons, hc]
      rfl
  have hreverse : (middle.reverse ++ (front.dropWhile outer).reverse).dropWhile outer =
      middle.reverse ++ (front.dropWhile outer).reverse :=
    hvisible (by simpa using hne) fun c hc => h c (List.mem_reverse.mp hc)
  have hmiddle : middle.filter (fun c => !(c == '\t' || c == '\n' || c == '\r')) = middle := by
    refine List.filter_eq_self.mpr fun c hc => ?_
    have hvisible := h c hc
    have hne (d : Char) (hd : d.toNat ≤ 0x20) : (c == d) = false := by
      rw [beq_eq_false_iff_ne]
      rintro rfl
      omega
    rw [hne _ (by decide), hne _ (by decide), hne _ (by decide)]
    rfl
  show ((((front ++ (middle ++ back)).dropWhile outer).reverse.dropWhile outer).reverse).filter _ = _
  rw [Text.dropWhile_append_of_head (hvisible hne h), List.reverse_append, List.reverse_append, List.append_assoc,
    Text.dropWhile_append_of_head hreverse]
  simp only [List.reverse_append, List.reverse_reverse, List.append_assoc, List.filter_append, hmiddle]
  rfl

/-! ## The parts of a text -/

/-- A text is cut into the part up to its query, the query with its sign, and the fragment with its sign. -/
structure Cuts (main query fragment : List Char) : Prop where
  main : ∀ c ∈ main, c ≠ '?' ∧ c ≠ '#'
  query : query = [] ∨ ∃ rest, query = '?' :: rest ∧ '#' ∉ rest
  fragment : fragment = [] ∨ ∃ rest, fragment = '#' :: rest

theorem exists_cuts (cs : List Char) :
    ∃ main query fragment, cs = main ++ (query ++ fragment) ∧ Cuts main query fragment := by
  obtain ⟨front, fragment, rfl, hfront, hfragment⟩ := exists_stop (· == '#') cs
  obtain ⟨main, query, rfl, hmain, hquery⟩ := exists_stop (· == '?') front
  refine ⟨main, query, fragment, by rw [List.append_assoc], fun c hc => ?_, ?_, ?_⟩
  · exact ⟨by simpa using hmain c hc, by simpa using hfront c (List.mem_append_left _ hc)⟩
  · rcases hquery with rfl | ⟨c, rest, rfl, hc⟩
    · exact .inl rfl
    · obtain rfl := beq_iff_eq.mp hc
      have hrest : '#' ∉ rest := fun h => by
        simpa using hfront '#' (List.mem_append_right _ (List.mem_cons_of_mem _ h))
      exact .inr ⟨rest, rfl, hrest⟩
  · rcases hfragment with rfl | ⟨c, rest, rfl, hc⟩
    · exact .inl rfl
    · exact .inr ⟨rest, by rw [beq_iff_eq.mp hc]⟩

section
variable {main query fragment : List Char}

theorem Cuts.fst (h : Cuts main query fragment) :
    cutAt (· == '#') (main ++ (query ++ fragment)) = (main ++ query, fragment) := by
  have hnone : ∀ c ∈ main ++ query, (c == '#') = false := by
    intro c hc
    rw [beq_eq_false_iff_ne]
    rcases List.mem_append.mp hc with hc | hc
    · exact (h.main c hc).2
    · rcases h.query with rfl | ⟨rest, rfl, hrest⟩
      · cases hc
      · rintro rfl
        exact hrest (by simpa using hc)
  rw [← List.append_assoc]
  rcases h.fragment with rfl | ⟨rest, rfl⟩
  · rw [List.append_nil, cutAt_of_forall hnone]
  · exact cutAt_append_cons_of_forall hnone (beq_self_eq_true _)

theorem Cuts.snd (h : Cuts main query fragment) : cutAt (· == '?') (main ++ query) = (main, query) := by
  have hnone : ∀ c ∈ main, (c == '?') = false := fun c hc => beq_eq_false_iff_ne.mpr (h.main c hc).1
  rcases h.query with rfl | ⟨rest, rfl, -⟩
  · rw [List.append_nil, cutAt_of_forall hnone]
  · exact cutAt_append_cons_of_forall hnone (beq_self_eq_true _)

/-- A text is read by its parts. -/
theorem parse_of_cuts {text : String} (htext : cleaned text.toList = main ++ (query ++ fragment))
    (h : Cuts main query fragment) : parse text =
      match splitScheme? main with
      | some (scheme, rest) =>
        readBehind none scheme rest (readTail (inQuery (isSpecial scheme)) query)
          (readTail inFragment fragment)
      | none => .error .relativeWithoutBase := by
  cases hscheme : splitScheme? main <;> simp only [parse, read, htext, h.fst, h.snd, hscheme]

end

/-! ## What a part of a URL depends on -/

section
variable {scheme : String} {cs cs' : List Char} {query fragment : Option String} {u : Url}

/-- Where the authority of a URL ends. -/
def endsAuthority (scheme : String) (c : Char) : Bool := c == '/' || (isSpecial scheme && c == '\\')

/-- The path depends on what stands behind the authority, and nothing else does. -/
theorem readAuthority_congr (query' fragment' : Option String)
    (h : (cutAt (endsAuthority scheme) cs).1 = (cutAt (endsAuthority scheme) cs').1) :
    readAuthority scheme cs query fragment =
      (readAuthority scheme cs' query' fragment').map fun u =>
        { u with
          path := readPath (isSpecial scheme) (cutAt (endsAuthority scheme) cs).2
          query := query
          fragment := fragment } := by
  rcases hcs : cutAt (endsAuthority scheme) cs with ⟨authority, path⟩
  rcases hcs' : cutAt (endsAuthority scheme) cs' with ⟨authority', path'⟩
  rw [hcs, hcs'] at h
  obtain rfl : authority = authority' := h
  unfold endsAuthority at hcs hcs'
  unfold readAuthority
  simp only [hcs, hcs', Bind.bind, Except.bind, throw, throwThe, MonadExceptOf.throw, Pure.pure, Except.pure]
  cases readPort scheme (splitPort (splitUser authority).2.2).2 <;>
    cases readHost (splitPort (splitUser authority).2.2).1 <;>
      cases readOpaqueHost (splitPort (splitUser authority).2.2).1 <;> split_ifs <;> rfl

/-- What is read has the scheme and a host. -/
theorem readAuthority_host (h : readAuthority scheme cs query fragment = .ok u) :
    u.scheme = scheme ∧ ∃ host, u.host = some host := by
  rcases hcs : cutAt (endsAuthority scheme) cs with ⟨authority, path⟩
  unfold endsAuthority at hcs
  unfold readAuthority at h
  simp only [hcs, Bind.bind, Except.bind, throw, throwThe, MonadExceptOf.throw, Pure.pure, Except.pure] at h
  revert h
  cases readPort scheme (splitPort (splitUser authority).2.2).2 <;>
    cases readHost (splitPort (splitUser authority).2.2).1 <;>
      cases readOpaqueHost (splitPort (splitUser authority).2.2).1 <;> split_ifs <;> intro h <;> cases h <;>
        exact ⟨rfl, _, rfl⟩

/-- The other parts of what is read. -/
theorem readAuthority_parts (h : readAuthority scheme cs query fragment = .ok u) :
    u.path = readPath (isSpecial scheme) (cutAt (endsAuthority scheme) cs).2 ∧ u.query = query ∧
      u.fragment = fragment := by
  have hsame : readAuthority scheme cs query fragment = _ := readAuthority_congr query fragment rfl
  rw [h, Except.map, Except.ok.injEq] at hsame
  exact ⟨congrArg path hsame, congrArg Url.query hsame, congrArg Url.fragment hsame⟩

theorem readAuthority_tails (query' fragment' : Option String) :
    readAuthority scheme cs query fragment = (readAuthority scheme cs query' fragment').map fun u =>
      { u with query := query, fragment := fragment } := by
  rw [readAuthority_congr query' fragment' (rfl : (cutAt (endsAuthority scheme) cs).1 = _)]
  cases hread : readAuthority scheme cs query' fragment' with
  | error e => rfl
  | ok u => rw [Except.map, Except.map, ← (readAuthority_parts hread).1]

theorem readBehind_tails (query' fragment' : Option String) :
    readBehind none scheme cs query fragment = (readBehind none scheme cs query' fragment').map fun u =>
      { u with query := query, fragment := fragment } := by
  unfold readBehind
  split
  · dsimp only
    split
    · split
      · exact readAuthority_tails query' fragment'
      · rfl
    · exact readAuthority_tails query' fragment'
  · split
    · exact readAuthority_tails query' fragment'
    · rfl
    · rfl

end

/-! ## Queries -/

/-- What carries the pairs in a text, behind the sign of a query; no pairs need no sign. -/
def QueryOf (pairs : List (String × String)) (query : List Char) : Prop :=
  query = '?' :: Form.encodePairs pairs ∨ pairs = [] ∧ query = []

/-- The text has the pairs as its query. -/
def Carries (text : String) (pairs : List (String × String)) : Prop :=
  ∃ front query back, text.toList = front ++ (query ++ back) ∧ QueryOf pairs query ∧
    (∀ c ∈ front, c ≠ '?' ∧ c ≠ '#') ∧ (back = [] ∨ ∃ rest, back = '#' :: rest)

theorem inForm_plain {c : Char} (h : Form.inForm c = true) :
    0x20 < c.toNat ∧ c.toNat < 0x80 ∧ c ≠ '#' ∧ ∀ special, inQuery special c = false := by
  have hascii : c.toNat < 0x80 := by
    rw [Form.inForm, Bool.or_eq_true, Bool.or_eq_true, beq_iff_eq, beq_iff_eq] at h
    rcases h with (h | rfl) | rfl
    · exact of_decide_eq_true (Bool.and_eq_true_iff.mp h).1
    · decide
    · decide
  have hall : ∀ c : Char, c.toNat < 0x80 → Form.inForm c = true →
      0x20 < c.toNat ∧ c ≠ '#' ∧ ∀ special, inQuery special c = false :=
    Form.forall_ascii (by decide +kernel)
  obtain ⟨hvisible, hsign, hquery⟩ := hall c hascii h
  exact ⟨hvisible, hascii, hsign, hquery⟩

theorem trailing_sign (rest : List Char) : ∃ rest', trailing ('#' :: rest) = '#' :: rest' := by
  refine ⟨trailing rest, ?_⟩
  rw [trailing, List.reverse_cons, Text.dropWhile_append_of_head (by decide), List.reverse_append]
  rfl

theorem mem_cleaned {cs : List Char} {c : Char} (h : c ∈ cleaned cs) : c ∈ cs := by
  have hinner := List.mem_reverse.mp (List.mem_filter.mp h).1
  have houter := List.mem_reverse.mp ((List.dropWhile_sublist _).subset hinner)
  exact (List.dropWhile_sublist _).subset houter

theorem mem_leading {cs : List Char} {c : Char} (h : c ∈ leading cs) : c ∈ cs :=
  (List.dropWhile_sublist _).subset (List.mem_filter.mp h).1

/-- A text that carries pairs is cut before and behind them, and they are not changed by cleaning it. -/
theorem cuts_of_carries {text : String} {pairs : List (String × String)} (h : Carries text pairs) :
    ∃ main query fragment, cleaned text.toList = main ++ (query ++ fragment) ∧ Cuts main query fragment ∧
      QueryOf pairs query := by
  obtain ⟨front, query, back, htext, hquery, hfront, hback⟩ := h
  have hleading : ∀ c ∈ leading front, c ≠ '?' ∧ c ≠ '#' := fun c hc => hfront c (mem_leading hc)
  rcases hquery with rfl | ⟨rfl, rfl⟩
  · have hplain {c : Char} (hc : c ∈ Form.encodePairs pairs) := inForm_plain (Form.encodePairs_all hc)
    have hvisible : ∀ c ∈ '?' :: Form.encodePairs pairs, 0x20 < c.toNat :=
      List.forall_mem_cons.mpr ⟨by decide, fun c hc => (hplain hc).1⟩
    have htrailing : trailing back = [] ∨ ∃ rest, trailing back = '#' :: rest := by
      rcases hback with rfl | ⟨rest, rfl⟩
      · exact .inl rfl
      · exact .inr (trailing_sign rest)
    refine ⟨_, _, _, by rw [htext, cleaned_append _ _ (List.cons_ne_nil _ _) hvisible], ?_, .inl rfl⟩
    exact ⟨hleading, .inr ⟨_, rfl, fun h => (hplain h).2.2.1 rfl⟩, htrailing⟩
  · rcases hback with rfl | ⟨rest, rfl⟩
    · refine ⟨cleaned text.toList, [], [], by rw [List.append_nil, List.append_nil], ?_, .inr ⟨rfl, rfl⟩⟩
      refine ⟨fun c hc => hfront c ?_, .inl rfl, .inl rfl⟩
      simpa [htext] using mem_cleaned hc
    · have hsign : cleaned (front ++ (['#'] ++ rest)) = leading front ++ (['#'] ++ trailing rest) :=
        cleaned_append _ _ (List.cons_ne_nil _ _) (List.forall_mem_singleton.mpr (by decide))
      exact ⟨leading front, [], '#' :: trailing rest, by rw [htext]; exact hsign,
        ⟨hleading, .inl rfl, .inr ⟨_, rfl⟩⟩, .inr ⟨rfl, rfl⟩⟩

/-- The query of a URL is the one that its text carries. -/
theorem query_of_carries {text : String} {pairs : List (String × String)} {u : Url} (h : Carries text pairs)
    (hparse : parse text = .ok u) : u.query.getD "" = Form.text pairs := by
  obtain ⟨main, query, fragment, hcleaned, hcuts, hquery⟩ := cuts_of_carries h
  rw [parse_of_cuts hcleaned hcuts] at hparse
  cases hscheme : splitScheme? main with
  | none => rw [hscheme] at hparse; cases hparse
  | some split =>
    obtain ⟨scheme, rest⟩ := split
    rw [hscheme] at hparse
    dsimp only at hparse
    rw [readBehind_tails none none] at hparse
    cases hread : readBehind none scheme rest none none with
    | error e => rw [hread] at hparse; cases hparse
    | ok v =>
      rw [hread, Except.map, Except.ok.injEq] at hparse
      rw [← hparse]
      rcases hquery with rfl | ⟨rfl, rfl⟩
      · have hplain : ∀ c ∈ Form.encodePairs pairs, c.toNat < 0x80 ∧ inQuery (isSpecial scheme) c = false :=
          fun c hc => ⟨(inForm_plain (Form.encodePairs_all hc)).2.1,
            (inForm_plain (Form.encodePairs_all hc)).2.2.2 _⟩
        rw [readTail, Percent.encode_of_forall hplain]
        rfl
      · rfl

/-- The pairs of a URL are those that its text carries. -/
theorem queryPairs_of_carries {text : String} {pairs : List (String × String)} {u : Url}
    (h : Carries text pairs) (hparse : parse text = .ok u) : u.queryPairs = pairs := by
  rw [queryPairs, query_of_carries h hparse, Form.text, String.toList_ofList, Form.decodePairs_encodePairs]

end Checkup.Http.Url
