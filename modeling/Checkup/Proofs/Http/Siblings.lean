import Checkup.Proofs.Http.Target
import Checkup.Proofs.Http.Url

/-!
# Addresses in one directory

An address is often put together from a front and a path with a plain name at its end. Whatever the front
is, putting another name there makes another URL of the web if the first was one: the name never has a part
in the scheme or the host, and the two URLs differ at most in the end of what is asked for. They do not
differ at all if the front has a fragment, which then swallows the path.

Results:
* `resolve_last` and `readPath_last`: a name at the end of a path stays there.
* `splitScheme?_append`: what follows a slash has no part in the scheme.
* `parse_siblings`: the URLs of two addresses, as the structure `Siblings`.
* `isSendable_sibling`: if one of them can be asked for, then so can the other, unless its name is longer.
-/
namespace Checkup.Http.Url

/-! ## Names -/

/-- A character that stands for itself wherever it occurs behind a host. -/
structure IsPlain (c : Char) : Prop where
  visible : 0x20 < c.toNat
  ascii : c.toNat < 0x80
  inPath : inPath c = false
  inQuery : ∀ special, inQuery special c = false
  noSlash : c ≠ '/' ∧ c ≠ '\\'
  noSign : c ≠ '?' ∧ c ≠ '#'
  sent : Target.inPath c = true ∧ Target.inQuery c = true

/-- A name stands as it is in a path, a query and a fragment, and does not stand for a directory. -/
structure IsName (name : List Char) : Prop where
  plain : ∀ c ∈ name, IsPlain c
  here : isHere name = false
  above : isAbove name = false

theorem IsName.encode_path {name : List Char} (h : IsName name) : Percent.encode inPath name = name :=
  Percent.encode_of_forall fun c hc => ⟨(h.plain c hc).ascii, (h.plain c hc).inPath⟩

theorem IsName.encode_query {name : List Char} (h : IsName name) (special : Bool) :
    Percent.encode (inQuery special) name = name :=
  Percent.encode_of_forall fun c hc => ⟨(h.plain c hc).ascii, (h.plain c hc).inQuery special⟩

theorem isPlain_of_lower {c : Char} (h : c.isLower = true) : IsPlain c := by
  have hlast : c.val.toNat ≤ 'z'.val.toNat := of_decide_eq_true (Bool.and_eq_true_iff.mp h).2
  have hascii : c.toNat < 0x80 := Nat.lt_of_le_of_lt hlast (by decide)
  have hall : ∀ c : Char, c.toNat < 0x80 → c.isLower = true → 0x20 < c.toNat ∧ inPath c = false ∧
      (∀ special, inQuery special c = false) ∧ (c ≠ '/' ∧ c ≠ '\\') ∧ (c ≠ '?' ∧ c ≠ '#') ∧
      Target.inPath c = true ∧ Target.inQuery c = true :=
    Form.forall_ascii (by decide +kernel)
  obtain ⟨hvisible, hpath, hquery, hslash, hsign, hsent⟩ := hall c hascii h
  exact ⟨hvisible, hascii, hpath, hquery, hslash, hsign, hsent⟩

/-- A word in small letters is a name. -/
theorem isName_of_lower {name : List Char} (h : name.all Char.isLower = true) (hhere : isHere name = false)
    (habove : isAbove name = false) : IsName name :=
  ⟨fun c hc => isPlain_of_lower (List.all_eq_true.mp h c hc), hhere, habove⟩

/-! ## Paths -/

/-- A name at the end of a path is not resolved, and what is resolved before it does not depend on it. -/
theorem resolve_last (parts above : List (List Char)) :
    ∃ resolved, ∀ name, IsName name → resolve above (parts ++ [name]) = resolved ++ [name] := by
  induction parts generalizing above with
  | nil =>
    refine ⟨above, fun name hname => ?_⟩
    rw [List.nil_append, resolve, hname.above, hname.here, hname.encode_path]
    rfl
  | cons part parts ih =>
    -- Something follows the part, so it is not the last one.
    have hmore (name : List Char) : (parts ++ [name]).isEmpty = false := by cases parts <;> rfl
    simp only [List.cons_append, resolve, hmore, Bool.false_eq_true, if_false]
    by_cases habove : isAbove part = true
    · simpa only [if_pos habove] using ih above.dropLast
    by_cases hhere : isHere part = true
    · simpa only [if_neg habove, if_pos hhere] using ih above
    · simpa only [if_neg habove, if_neg hhere] using ih (above ++ [Percent.encode inPath part])

theorem intercalate_last (parts : List (List Char)) :
    ∃ stem, ∀ name, ['/'].intercalate (parts ++ [name]) = stem ++ name := by
  induction parts with
  | nil => exact ⟨[], fun name => by rw [List.nil_append, List.intercalate_singleton, List.nil_append]⟩
  | cons part parts ih =>
    obtain ⟨stem, hstem⟩ := ih
    refine ⟨part ++ ['/'] ++ stem, fun name => ?_⟩
    have hne : parts ++ [name] ≠ [] := List.append_ne_nil_of_right_ne_nil _ (List.cons_ne_nil _ _)
    rw [List.cons_append, List.intercalate_cons_of_ne_nil hne, hstem]
    simp only [List.append_assoc]

theorem segments_append (front back : List Char) :
    segments true (front ++ '/' :: back) = segments true front ++ segments true back := by
  simp only [segments, if_true, List.map_append, List.map_cons]
  exact Text.splitChars_append _ _

theorem segments_name {name : List Char} (hname : IsName name) : segments true name = [name] := by
  have hmap : name.map (fun c => if c = '\\' then '/' else c) = name :=
    (List.map_congr_left fun c hc => if_neg (hname.plain c hc).noSlash.2).trans (List.map_id _)
  rw [segments, if_pos rfl, hmap, Text.splitChars_of_notMem fun h => (hname.plain _ h).noSlash.1 rfl]

/-- A name at the end of a path is at the end of what is read of it. -/
theorem readPath_last (path : List Char) : ∃ stem, ∀ name, IsName name →
    (readPath true (path ++ '/' :: name)).toList = '/' :: (stem ++ name) := by
  have hsegments : ∃ parts, ∀ name, IsName name →
      readPath true (path ++ '/' :: name) = pathText (resolve [] (parts ++ [name])) := by
    cases path with
    | nil => exact ⟨[], fun name hname => by rw [← segments_name hname]; rfl⟩
    | cons c path =>
      exact ⟨segments true path, fun name hname => by rw [← segments_name hname, ← segments_append]; rfl⟩
  obtain ⟨parts, hparts⟩ := hsegments
  obtain ⟨resolved, hresolved⟩ := resolve_last parts []
  obtain ⟨stem, hstem⟩ := intercalate_last resolved
  refine ⟨stem, fun name hname => ?_⟩
  rw [hparts name hname, hresolved name hname, pathText, String.toList_ofList, hstem]

theorem readPath_root (path : List Char) : ∃ rest, (readPath true path).toList = '/' :: rest := by
  cases path with
  | nil => exact ⟨[], by decide⟩
  | cons c path => exact ⟨_, String.toList_ofList⟩

/-! ## URLs of the web -/

/-- What stands between the scheme and the host. -/
def isSlash (c : Char) : Bool := c == '/' || c == '\\'

/-- The schemes of the web. -/
def IsWebScheme (scheme : String) : Prop := scheme = "http" ∨ scheme = "https"

theorem IsWebScheme.special {scheme : String} (h : IsWebScheme scheme) : isSpecial scheme = true := by
  rcases h with rfl | rfl <;> decide

theorem readBehind_web {scheme : String} (h : IsWebScheme scheme) (cs : List Char)
    (query fragment : Option String) : readBehind none scheme cs query fragment =
      readAuthority scheme (cs.dropWhile isSlash) query fragment := by
  have hfile : scheme ≠ "file" := by rcases h with rfl | rfl <;> decide
  unfold readBehind
  rw [if_pos h.special]
  dsimp only
  rw [if_neg hfile]
  rfl

theorem readBehind_scheme {scheme : String} {cs : List Char} {query fragment : Option String} {u : Url}
    (h : readBehind none scheme cs query fragment = .ok u) : u.scheme = scheme := by
  unfold readBehind at h
  dsimp only at h
  split_ifs at h
  · split at h
    · exact (readAuthority_host h).1
    · cases h; rfl
  · exact (readAuthority_host h).1
  · split at h
    · exact (readAuthority_host h).1
    · cases h; rfl
    · cases h; rfl

section
variable {main query fragment : List Char} {text : String} {u : Url}

/-- A URL of the web is read behind all slashes that follow its scheme. -/
theorem parse_web (htext : cleaned text.toList = main ++ (query ++ fragment))
    (hcuts : Cuts main query fragment) : parse text = .ok u ∧ Request.IsWeb u ↔ ∃ scheme rest,
      splitScheme? main = some (scheme, rest) ∧ IsWebScheme scheme ∧
        readAuthority scheme (rest.dropWhile isSlash) (readTail (inQuery true) query)
          (readTail inFragment fragment) = .ok u := by
  rw [parse_of_cuts htext hcuts]
  constructor
  · rintro ⟨h, hweb⟩
    cases hscheme : splitScheme? main with
    | none => rw [hscheme] at h; cases h
    | some split =>
      obtain ⟨scheme, rest⟩ := split
      rw [hscheme] at h
      dsimp only at h
      obtain rfl : u.scheme = scheme := readBehind_scheme h
      have hread := readBehind_web hweb rest
      rw [hread, IsWebScheme.special hweb] at h
      exact ⟨_, _, rfl, hweb, h⟩
  · rintro ⟨scheme, rest, hscheme, hweb, h⟩
    rw [hscheme]
    dsimp only
    rw [readBehind_web hweb, hweb.special]
    obtain rfl := (readAuthority_host h).1
    exact ⟨h, hweb⟩

end

/-! ## Siblings -/

/-- The URLs differ at most in the name at the end of what is asked for, and in their fragments. -/
structure Siblings (name name' : List Char) (u v : Url) : Prop where
  same : ∃ path query fragment, v = { u with path := path, query := query, fragment := fragment }
  host : ∃ host, u.host = some host
  target : ∃ stem, (u.target.toList = '/' :: stem ∧ v.target.toList = '/' :: stem) ∨
    (u.target.toList = '/' :: (stem ++ name) ∧ v.target.toList = '/' :: (stem ++ name'))

section
variable {scheme : String} {cs rest name name' : List Char} {query fragment : Option String} {u : Url}

/-- URLs that differ in nothing but their fragments, -/
theorem siblings_fragment (hscheme : IsWebScheme scheme) (h : readAuthority scheme cs query fragment = .ok u)
    (fragment' : Option String) :
    ∃ v, readAuthority scheme cs query fragment' = .ok v ∧ Siblings name name' u v := by
  obtain ⟨hpath, rfl, rfl⟩ := readAuthority_parts h
  obtain ⟨root, hroot⟩ := readPath_root (cutAt (endsAuthority scheme) cs).2
  refine ⟨{ u with fragment := fragment' }, ?_, ⟨_, _, _, rfl⟩, (readAuthority_host h).2, ?_⟩
  · rw [readAuthority_tails u.query u.fragment, h]
    rfl
  rw [hscheme.special] at hpath
  have htarget : u.target.toList = '/' :: (root ++ (tailText "?" u.query).toList) := by
    rw [target, String.toList_append, hpath, hroot, List.cons_append]
  exact ⟨_, .inl ⟨htarget, htarget⟩⟩

/-- at the end of their queries, -/
theorem siblings_query (hscheme : IsWebScheme scheme) (hname : IsName name) (hname' : IsName name')
    (h : readAuthority scheme cs (readTail (inQuery true) ('?' :: (rest ++ name))) fragment = .ok u) :
    ∃ v, readAuthority scheme cs (readTail (inQuery true) ('?' :: (rest ++ name'))) fragment = .ok v ∧
      Siblings name name' u v := by
  obtain ⟨hpath, hquery, rfl⟩ := readAuthority_parts h
  obtain ⟨root, hroot⟩ := readPath_root (cutAt (endsAuthority scheme) cs).2
  refine ⟨{ u with query := readTail (inQuery true) ('?' :: (rest ++ name')) }, ?_, ⟨_, _, _, rfl⟩,
    (readAuthority_host h).2, ?_⟩
  · rw [readAuthority_tails, h]
    rfl
  rw [hscheme.special] at hpath
  have htarget {z : List Char} (hz : IsName z) :
      (u.path ++ tailText "?" (readTail (inQuery true) ('?' :: (rest ++ z)))).toList =
        '/' :: (root ++ '?' :: Percent.encode (inQuery true) rest ++ z) := by
    rw [readTail, Percent.encode_append, hz.encode_query, tailText, hpath]
    simp [hroot]
  exact ⟨_, .inr ⟨by rw [target, hquery]; exact htarget hname, htarget hname'⟩⟩

/-- or at the end of their paths. -/
theorem siblings_path (hscheme : IsWebScheme scheme) (hname : IsName name) (hname' : IsName name')
    (h : readAuthority scheme (cs ++ '/' :: name) none none = .ok u) :
    ∃ v, readAuthority scheme (cs ++ '/' :: name') none none = .ok v ∧ Siblings name name' u v := by
  have hslash : endsAuthority scheme '/' = true := rfl
  have hcut (z : List Char) := cutAt_append_cons cs z hslash
  have hread : readAuthority scheme (cs ++ '/' :: name') none none = _ :=
    readAuthority_congr none none (show (cutAt (endsAuthority scheme) (cs ++ '/' :: name')).1 =
      (cutAt (endsAuthority scheme) (cs ++ '/' :: name)).1 by rw [hcut, hcut])
  rw [h, hcut, hscheme.special] at hread
  refine ⟨_, hread, ⟨_, _, _, rfl⟩, (readAuthority_host h).2, ?_⟩
  obtain ⟨hpath, hquery, -⟩ := readAuthority_parts h
  rw [hcut, hscheme.special] at hpath
  obtain ⟨stem, hstem⟩ := readPath_last (cutAt (endsAuthority scheme) cs).2
  refine ⟨stem, .inr ⟨?_, ?_⟩⟩
  · rw [target, hquery, tailText, String.append_empty, hpath, hstem name hname]
  · rw [target, tailText, String.append_empty, hstem name' hname']

end

/-! ## Addresses -/

/-- Where a scheme ends. -/
def endsScheme (c : Char) : Bool := !(c.isAlphanum || "+-.".toList.contains c)

/-- What follows a slash has no part in the scheme. -/
theorem splitScheme?_append (front back : List Char) : splitScheme? (front ++ '/' :: back) =
    (splitScheme? front).map fun (scheme, rest) => (scheme, rest ++ '/' :: back) := by
  have hcut : cutAt endsScheme (front ++ '/' :: back) = _ := cutAt_append_cons front back (by decide)
  unfold endsScheme at hcut
  rw [splitScheme?, splitScheme?, hcut]
  match cutAt (fun c => !(c.isAlphanum || "+-.".toList.contains c)) front with
  | ([], _) => rfl
  | (_ :: _, []) => rfl
  | (c :: name, d :: rest) =>
    by_cases hd : d = ':'
    · subst hd
      by_cases hc : c.isAlpha = true
      · simp only [List.cons_append, if_pos hc]
        rfl
      · simp only [List.cons_append, if_neg hc]
        rfl
    · simp [hd]

/-- A name in a directory, behind the front of an address. -/
def entry (dir name : List Char) : List Char := '/' :: (dir ++ '/' :: name)

section
variable {front main query fragment dir name name' : List Char} {text text' : String} {u : Url}

theorem mem_entry (hdir : IsName dir) (hname : IsName name) {c : Char} (h : c ∈ entry dir name) :
    c ≠ '?' ∧ c ≠ '#' ∧ 0x20 < c.toNat := by
  rcases List.mem_cons.mp h with rfl | h
  · decide
  rcases List.mem_append.mp h with h | h
  · exact ⟨(hdir.plain c h).noSign.1, (hdir.plain c h).noSign.2, (hdir.plain c h).visible⟩
  rcases List.mem_cons.mp h with rfl | h
  · decide
  · exact ⟨(hname.plain c h).noSign.1, (hname.plain c h).noSign.2, (hname.plain c h).visible⟩

theorem cleaned_entry (hdir : IsName dir) (hname : IsName name) (front : List Char) :
    cleaned (front ++ entry dir name) = leading front ++ entry dir name := by
  have h := cleaned_append front [] (List.cons_ne_nil _ _) fun c hc => (mem_entry hdir hname hc).2.2
  rwa [List.append_nil, show trailing [] = [] from rfl, List.append_nil] at h

/-- Behind the slashes that follow a scheme, the end of an address is unchanged. -/
theorem dropWhile_entry (hdir : IsName dir) (hne : dir ≠ []) (rest name : List Char) :
    (rest ++ entry dir name).dropWhile isSlash =
      ((rest ++ ['/']).dropWhile isSlash ++ dir) ++ '/' :: name := by
  have hdrop : (dir ++ '/' :: name).dropWhile isSlash = dir ++ '/' :: name := by
    cases dir with
    | nil => exact (hne rfl).elim
    | cons c dir =>
      have hc := (hdir.plain c List.mem_cons_self).noSlash
      have hslash : isSlash c = false := by simp [isSlash, hc.1, hc.2]
      rw [List.cons_append, List.dropWhile_cons, hslash]
      rfl
  rw [show rest ++ entry dir name = (rest ++ ['/']) ++ (dir ++ '/' :: name) by simp [entry],
    Text.dropWhile_append_of_head hdrop, List.append_assoc]

section
variable {rest : List Char} (h : parse text = .ok u ∧ Request.IsWeb u)
include h

/-- A fragment swallows the end of an address. -/
theorem siblings_behindFragment (hcuts : Cuts main query ('#' :: rest))
    (htext : cleaned text.toList = main ++ (query ++ '#' :: rest) ++ entry dir name)
    (htext' : cleaned text'.toList = main ++ (query ++ '#' :: rest) ++ entry dir name') :
    ∃ v, (parse text' = .ok v ∧ Request.IsWeb v) ∧ Siblings name name' u v := by
  have hcuts' (tail : List Char) : Cuts main query ('#' :: (rest ++ tail)) :=
    ⟨hcuts.main, hcuts.query, .inr ⟨_, rfl⟩⟩
  simp only [List.append_assoc, List.cons_append] at htext htext'
  obtain ⟨scheme, behind, hscheme, hweb, hread⟩ := (parse_web htext (hcuts' _)).mp h
  obtain ⟨v, hread', hsiblings⟩ := siblings_fragment hweb hread
    (readTail inFragment ('#' :: (rest ++ entry dir name')))
  exact ⟨v, (parse_web htext' (hcuts' _)).mpr ⟨scheme, behind, hscheme, hweb, hread'⟩, hsiblings⟩

/-- A query takes the end of an address in. -/
theorem siblings_behindQuery (hdir : IsName dir) (hname : IsName name) (hname' : IsName name')
    (hcuts : Cuts main ('?' :: rest) []) (hrest : '#' ∉ rest)
    (htext : cleaned text.toList = main ++ '?' :: rest ++ entry dir name)
    (htext' : cleaned text'.toList = main ++ '?' :: rest ++ entry dir name') :
    ∃ v, (parse text' = .ok v ∧ Request.IsWeb v) ∧ Siblings name name' u v := by
  have hcuts' {z : List Char} (hz : IsName z) : Cuts main ('?' :: (rest ++ entry dir z)) [] := by
    refine ⟨hcuts.main, .inr ⟨_, rfl, fun hmem => ?_⟩, .inl rfl⟩
    exact (List.mem_append.mp hmem).elim hrest fun hmem => (mem_entry hdir hz hmem).2.1 rfl
  have hentry (z : List Char) : rest ++ entry dir z = (rest ++ '/' :: (dir ++ ['/'])) ++ z := by simp [entry]
  rw [List.append_assoc, List.cons_append, ← List.append_nil ('?' :: _)] at htext htext'
  obtain ⟨scheme, behind, hscheme, hweb, hread⟩ := (parse_web htext (hcuts' hname)).mp h
  rw [hentry] at hread
  obtain ⟨v, hread', hsiblings⟩ := siblings_query hweb hname hname' hread
  rw [← hentry] at hread'
  exact ⟨v, (parse_web htext' (hcuts' hname')).mpr ⟨scheme, behind, hscheme, hweb, hread'⟩, hsiblings⟩

/-- Otherwise it is the end of the path. -/
theorem siblings_behindPath (hdir : IsName dir) (hne : dir ≠ []) (hname : IsName name)
    (hname' : IsName name') (hcuts : Cuts main [] []) (htext : cleaned text.toList = main ++ entry dir name)
    (htext' : cleaned text'.toList = main ++ entry dir name') :
    ∃ v, (parse text' = .ok v ∧ Request.IsWeb v) ∧ Siblings name name' u v := by
  have hcuts' {z : List Char} (hz : IsName z) : Cuts (main ++ entry dir z) [] [] := by
    refine ⟨fun c hc => ?_, .inl rfl, .inl rfl⟩
    exact (List.mem_append.mp hc).elim (hcuts.main c) fun hc => (mem_entry hdir hz hc).imp_right And.left
  rw [← List.append_nil (main ++ _)] at htext htext'
  obtain ⟨scheme, behind, hscheme, hweb, hread⟩ := (parse_web htext (hcuts' hname)).mp h
  -- The scheme and its slashes are in the front of the address.
  rw [entry, splitScheme?_append, Option.map_eq_some_iff] at hscheme
  obtain ⟨⟨scheme', rest⟩, hmain, heq⟩ := hscheme
  cases heq
  have hscheme' : splitScheme? (main ++ entry dir name') = some (scheme, rest ++ entry dir name') := by
    rw [entry, splitScheme?_append, hmain]
    rfl
  have hdrop (z : List Char) := dropWhile_entry hdir hne rest z
  rw [show rest ++ '/' :: (dir ++ '/' :: name) = rest ++ entry dir name from rfl, hdrop] at hread
  obtain ⟨v, hread', hsiblings⟩ := siblings_path hweb hname hname' hread
  rw [← hdrop] at hread'
  exact ⟨v, (parse_web htext' (hcuts' hname')).mpr ⟨scheme, _, hscheme', hweb, hread'⟩, hsiblings⟩

end

/-- Another name at the end of an address makes another URL of the web. -/
theorem parse_siblings (hdir : IsName dir) (hne : dir ≠ []) (hname : IsName name) (hname' : IsName name')
    (htext : text.toList = front ++ entry dir name) (htext' : text'.toList = front ++ entry dir name')
    (h : parse text = .ok u ∧ Request.IsWeb u) :
    ∃ v, (parse text' = .ok v ∧ Request.IsWeb v) ∧ Siblings name name' u v := by
  have hcleaned : cleaned text.toList = leading front ++ entry dir name := by
    rw [htext, cleaned_entry hdir hname]
  have hcleaned' : cleaned text'.toList = leading front ++ entry dir name' := by
    rw [htext', cleaned_entry hdir hname']
  obtain ⟨main, query, fragment, hfront, hcuts⟩ := exists_cuts (leading front)
  rw [hfront] at hcleaned hcleaned'
  rcases hcuts.fragment with rfl | ⟨rest, rfl⟩
  case inr => exact siblings_behindFragment h hcuts hcleaned hcleaned'
  rw [List.append_nil] at hcleaned hcleaned'
  rcases hcuts.query with rfl | ⟨rest, rfl, hrest⟩
  case inr => exact siblings_behindQuery h hdir hname hname' hcuts hrest hcleaned hcleaned'
  rw [List.append_nil] at hcleaned hcleaned'
  exact siblings_behindPath h hdir hne hname hname' hcuts hcleaned hcleaned'

end

/-! ## Asking for siblings -/

/-- The user, the host and the port of a URL. -/
def authority (u : Url) : String :=
  u.userText ++ u.host.getD "" ++ tailText ":" (u.port.map Text.natText)

theorem text_of_host {u : Url} {host : String} (h : u.host = some host) (path : String)
    (query : Option String) : ({ u with path := path, query := query, fragment := none } : Url).text.toList =
      (u.scheme ++ "://").toList ++
        (u.authority.toList ++ ({ u with path := path, query := query } : Url).target.toList) := by
  simp [text, authority, target, userText, tailText, h]

/-- Pairs are added at the end of what is asked for. -/
theorem withPairs_eq (u : Url) (pairs : List (String × String)) : ∃ query rest,
    u.withPairs pairs = { u with query := query } ∧ tailText "?" query = tailText "?" u.query ++ rest := by
  rw [withPairs]
  by_cases hpairs : pairs.isEmpty = true
  · exact ⟨u.query, "", by rw [if_pos hpairs], by rw [String.append_empty]⟩
  rw [if_neg hpairs]
  cases u.query with
  | none => exact ⟨_, "?" ++ Form.text pairs, rfl, by simp [tailText]⟩
  | some q =>
    by_cases hq : q = ""
    · exact ⟨_, Form.text pairs, rfl, by simp [tailText, hq]⟩
    · exact ⟨_, "&" ++ Form.text pairs, rfl, by simp [tailText, hq, String.append_assoc]⟩

/-- If a URL with pairs in its query may stand in a request, then so may a sibling of it without, whose name
is not longer. -/
theorem isSendable_sibling {name name' : List Char} {u v : Url} (h : Siblings name name' u v)
    (hweb : Request.IsWeb u) (pairs : List (String × String)) (hname : IsName name')
    (hsize : (String.ofList name').utf8ByteSize ≤ (String.ofList name).utf8ByteSize)
    (hsend : isSendable ({ u with fragment := none }.withPairs pairs) = true) :
    isSendable { v with fragment := none } = true := by
  obtain ⟨⟨path, query, fragment, rfl⟩, ⟨host, hhost⟩, stem, htarget⟩ := h
  obtain ⟨query', rest, hpairs, hrest⟩ := withPairs_eq { u with fragment := none } pairs
  rw [hpairs] at hsend
  have htail : ({ u with query := query' } : Url).target = u.target ++ rest :=
    (congrArg (u.path ++ ·) hrest).trans String.append_assoc.symm
  -- Both ask for the same front, and the sibling for no more behind it than its name.
  have hends : ∃ back end', (u.target ++ rest).toList = '/' :: (stem ++ back) ∧
      ({ u with path := path, query := query, fragment := fragment } : Url).target.toList =
        '/' :: (stem ++ end') ∧
      (∀ c ∈ end', Target.inPath c = true ∧ Target.inQuery c = true) ∧
      (String.ofList end').utf8ByteSize ≤ (String.ofList back).utf8ByteSize := by
    rcases htarget with ⟨hu, hv⟩ | ⟨hu, hv⟩
    · refine ⟨rest.toList, [], ?_, ?_, nofun, Nat.zero_le _⟩
      · rw [String.toList_append, hu, List.cons_append]
      · rw [hv, List.append_nil]
    · refine ⟨name ++ rest.toList, name', ?_, hv, fun c hc => (hname.plain c hc).sent, ?_⟩
      · rw [String.toList_append, hu, List.cons_append, List.append_assoc]
      · rw [String.ofList_append, String.utf8ByteSize_append]
        exact Nat.le_add_right_of_le hsize
  obtain ⟨back, end', hback, hend, hplain, hshorter⟩ := hends
  have htext : ({ u with query := query', fragment := none } : Url).text.toList =
      (u.scheme ++ "://").toList ++ (u.authority.toList ++ '/' :: (stem ++ back)) := by
    rw [text_of_host hhost u.path query', ← hback, ← htail]
  have htext' : ({ u with path := path, query := query, fragment := none } : Url).text.toList =
      (u.scheme ++ "://").toList ++ (u.authority.toList ++ '/' :: (stem ++ end')) := by
    rw [text_of_host hhost path query, ← hend]
    rfl
  exact Target.parse?_end hweb htext htext' hplain hshorter hsend

end Checkup.Http.Url
