import Checkup.Proofs.Timed.Basic
import Checkup.Proofs.Timed.Ensures

/-!
# What an activity still waits for once it is cancelled

Some calls change something and must not be left alone; `change` tells which, and `cost` how long each
takes. All others cost nothing, since an activity that heeds its token does not wait for them. `Prompt` is
the contract of such an activity: cancelled at tick `a`, it has either ended by then, as if there were no
token, or from `a` on it makes changes only and ends as soon as they are done.

Results:
* `waits` and its laws: how long the calls of a course keep it busy from a tick on.
* `Stopped.append` and `Stopped.delay`: courses that are busy up to their end, one after another.
* `prompt_pure`, `Prompt.bind`, `prompt_call`, `prompt_isCancelled`, `prompt_unlessCancelled_call`,
  `prompt_unlessCancelled_sleep` and `Prompt.mapCalls`: the rules of the contract.
* `Prompt.lingers`: an activity that is cancelled at a tick and still at work then.
-/
namespace Checkup

/-! ## How long calls take -/

section
variable {ε : Type}

/-- How long calls keep an activity busy from tick `l` on, if each takes `cost` and none overlaps with
another: what is left of those under way, and all of those that begin later. -/
def waits (cost : ε → Nat) (l : Nat) : List (Nat × ε) → Nat
  | [] => 0
  | c :: calls => (c.1 + cost c.2 - max c.1 l) + waits cost l calls

variable {cost : ε → Nat} {calls calls' : List (Nat × ε)} {a l t t' : Nat}

theorem waits_nil : waits cost l [] = 0 := rfl

theorem waits_cons (c : Nat × ε) :
    waits cost l (c :: calls) = (c.1 + cost c.2 - max c.1 l) + waits cost l calls := rfl

theorem waits_append : waits cost l (calls ++ calls') = waits cost l calls + waits cost l calls' := by
  induction calls with
  | nil => exact (Nat.zero_add _).symm
  | cons c calls ih => rw [List.cons_append, waits_cons, waits_cons, ih, Nat.add_assoc]

/-- Nothing is left of calls that are done. -/
theorem waits_of_done (h : ∀ c ∈ calls, c.1 + cost c.2 ≤ l) : waits cost l calls = 0 := by
  induction calls with
  | nil => rfl
  | cons c calls ih =>
    have hc := h c List.mem_cons_self
    rw [waits_cons, ih fun c' hc' => h c' (List.mem_cons_of_mem _ hc')]
    omega

theorem waits_later : waits cost l (Course.laterCalls t calls) = waits cost (l - t) calls := by
  induction calls with
  | nil => rfl
  | cons c calls ih =>
    have hcons : Course.laterCalls t (c :: calls) = (t + c.1, c.2) :: Course.laterCalls t calls := rfl
    rw [hcons, waits_cons, waits_cons, ih]
    simp only
    omega

/-- From tick `a` up to its end at `t`, a course with these calls is busy with calls and nothing else. -/
structure Stopped (cost : ε → Nat) (a t : Nat) (calls : List (Nat × ε)) : Prop where
  le : a ≤ t
  done : ∀ c ∈ calls, c.1 + cost c.2 ≤ t
  busy : ∀ l, a ≤ l → l ≤ t → t = l + waits cost l calls

theorem stopped_nil (a : Nat) : Stopped cost a a [] :=
  ⟨Nat.le_refl a, List.forall_mem_nil _, fun _ hal hla => Nat.le_antisymm hal hla⟩

theorem done_append (h : ∀ c ∈ calls, c.1 + cost c.2 ≤ t) (h' : ∀ c ∈ calls', c.1 + cost c.2 ≤ t') :
    ∀ c ∈ calls ++ Course.laterCalls t calls', c.1 + cost c.2 ≤ t + t' := by
  intro c hc
  rcases List.mem_append.mp hc with hc | hc
  · have := h c hc
    omega
  · obtain ⟨c', hc', rfl⟩ := List.mem_map.mp hc
    have := h' c' hc'
    simp only
    omega

theorem Stopped.append (h : Stopped cost a t calls) (h' : Stopped cost 0 t' calls') :
    Stopped cost a (t + t') (calls ++ Course.laterCalls t calls') := by
  refine ⟨by have := h.le; omega, done_append h.done h'.done, fun l hal hlt => ?_⟩
  rw [waits_append, waits_later]
  by_cases hl : l ≤ t
  · -- The second part is all ahead.
    have h1 := h.busy l hal hl
    have h2 := h'.busy 0 (Nat.le_refl 0) (Nat.zero_le t')
    rw [Nat.sub_eq_zero_of_le hl]
    omega
  · have h1 : waits cost l calls = 0 := waits_of_done fun c hc => by have := h.done c hc; omega
    have h2 := h'.busy (l - t) (Nat.zero_le _) (by omega)
    rw [h1]
    omega

/-- A course that is over before the tick may stand in front. -/
theorem Stopped.delay (hdone : ∀ c ∈ calls, c.1 + cost c.2 ≤ t) (ht : t ≤ a)
    (h' : Stopped cost (a - t) t' calls') :
    Stopped cost a (t + t') (calls ++ Course.laterCalls t calls') := by
  refine ⟨by have := h'.le; omega, done_append hdone h'.done, fun l hal hlt => ?_⟩
  have h1 : waits cost l calls = 0 := waits_of_done fun c hc => by have := hdone c hc; omega
  have h2 := h'.busy (l - t) (by omega) (by omega)
  rw [waits_append, waits_later, h1]
  omega

end

/-! ## The contract -/

namespace Timed

variable {ε α β : Type}

/-- The activity ends by tick `a`, in the same way for each token that does not fire before. -/
def InTime (cost : ε → Nat) (x : Timed ε α) (a : Nat) (Q : List ε → α → Prop) : Prop :=
  ∃ t v calls, t ≤ a ∧
    (∀ tok : Token, tok.firesBefore t = false → x tok = ⟨calls, .returned t (tok.after t) v⟩) ∧
    (∀ c ∈ calls, c.1 + cost c.2 ≤ t) ∧ Q (calls.map Prod.snd) v

/-- The activity is still at work at tick `a`. Cancelled there, it has called what it calls by then
without a token, makes changes only from then on, and ends as soon as they are done. -/
def Interrupted (cost : ε → Nat) (change : ε → Prop) (x : Timed ε α) (a : Nat)
    (Q : List ε → α → Prop) : Prop :=
  ∃ t v after, x (.due a) = ⟨(x .never).callsUntil a ++ after, .returned t .fired v⟩ ∧
    (∀ u, (x .never).ending.time? = some u → a < u) ∧
    Stopped cost a t (x (.due a)).calls ∧ (∀ c ∈ after, change c.2 ∧ a ≤ c.1) ∧
    Q (x (.due a)).called v

/-- Cancelled before it begins, the activity makes changes only, and ends as soon as they are done. -/
def Quits (cost : ε → Nat) (change : ε → Prop) (x : Timed ε α) (Q : List ε → α → Prop) : Prop :=
  ∃ t v, (x .fired).ending = .returned t .fired v ∧ Stopped cost 0 t (x .fired).calls ∧
    (∀ c ∈ (x .fired).calls, change c.2) ∧ Q (x .fired).called v

/-- The activity heeds its token, whenever that fires. -/
structure Prompt (cost : ε → Nat) (change : ε → Prop) (x : Timed ε α) (Q : List ε → α → Prop) :
    Prop where
  fired : x.Quits cost change Q
  due : ∀ a, x.InTime cost a Q ∨ x.Interrupted cost change a Q

variable {cost : ε → Nat} {change : ε → Prop} {x : Timed ε α} {f : α → Timed ε β} {a t : Nat}
  {P : List ε → α → Prop} {Q : List ε → β → Prop}

theorem Prompt.mono {P' : List ε → α → Prop} (h : x.Prompt cost change P)
    (hpq : ∀ es v, P es v → P' es v) : x.Prompt cost change P' where
  fired := by
    obtain ⟨t, v, he, hs, hc, hP⟩ := h.fired
    exact ⟨t, v, he, hs, hc, hpq _ _ hP⟩
  due a := by
    rcases h.due a with ⟨t, v, calls, hle, hrun, hdone, hP⟩ | ⟨t, v, after, hrun, hn, hs, hc, hP⟩
    · exact .inl ⟨t, v, calls, hle, hrun, hdone, hpq _ _ hP⟩
    · exact .inr ⟨t, v, after, hrun, hn, hs, hc, hpq _ _ hP⟩

theorem prompt_pure {v : β} (h : Q [] v) : (Pure.pure v : Timed ε β).Prompt cost change Q where
  fired := ⟨0, v, rfl, stopped_nil 0, List.forall_mem_nil _, h⟩
  due a := by
    refine .inl ⟨0, v, [], Nat.zero_le a, fun tok htok => ?_, List.forall_mem_nil _, h⟩
    have hafter : tok.after 0 = tok := by cases tok <;> rfl
    rw [hafter]
    rfl

/-! ### Sequencing -/

/-- What follows an activity that is still at work at a tick makes no call by then. -/
theorem callsUntil_bind (h : ∀ u, (x .never).ending.time? = some u → a < u) :
    ((x >>= f) .never).callsUntil a = (x .never).callsUntil a ∧
      ∀ u, ((x >>= f) .never).ending.time? = some u → a < u := by
  cases hend : (x .never).ending with
  | returned t tok v =>
    have hlt : a < t := h t (by rw [hend]; rfl)
    rw [bind_returned hend]
    constructor
    · have hnone : (Course.laterCalls t (f v tok).calls).filter (·.1 ≤ a) = [] := by
        refine List.filter_eq_nil_iff.mpr fun c hc => ?_
        obtain ⟨c', -, rfl⟩ := List.mem_map.mp hc
        simp only [decide_eq_true_eq]
        omega
      simp only [Course.following, Course.callsUntil, List.filter_append, hnone, List.append_nil]
    · intro u hu
      simp only [Course.following, Ending.time?_later, Option.map_eq_some_iff] at hu
      obtain ⟨u', -, rfl⟩ := hu
      omega
  | panicked t q =>
    rw [bind_panicked hend]
    refine ⟨rfl, fun u hu => h u ?_⟩
    rw [hend]
    exact hu
  | never =>
    rw [bind_never hend]
    refine ⟨rfl, fun u hu => ?_⟩
    cases hu

theorem Quits.bind (hx : x.Quits cost change P)
    (hf : ∀ es v, P es v → (f v).Quits cost change fun es' w => Q (es ++ es') w) :
    (x >>= f).Quits cost change Q := by
  obtain ⟨t, v, he, hs, hc, hP⟩ := hx
  obtain ⟨t', w, he', hs', hc', hQ⟩ := hf _ v hP
  have hrun := bind_returned (f := f) he
  refine ⟨t + t', w, ?_, ?_, ?_, ?_⟩
  · rw [hrun, Course.following, he']
    rfl
  · rw [hrun]
    exact hs.append hs'
  · rw [hrun]
    intro c hmem
    rcases List.mem_append.mp hmem with hmem | hmem
    · exact hc c hmem
    · obtain ⟨c', hmem', rfl⟩ := List.mem_map.mp hmem
      exact hc' c' hmem'
  · rw [hrun, Course.called_following]
    exact hQ

theorem Interrupted.bind (hx : x.Interrupted cost change a P)
    (hf : ∀ es v, P es v → (f v).Quits cost change fun es' w => Q (es ++ es') w) :
    (x >>= f).Interrupted cost change a Q := by
  obtain ⟨t, v, after, hxrun, hnever, hs, hafter, hP⟩ := hx
  obtain ⟨t', w, he', hs', hc', hQ⟩ := hf _ v hP
  obtain ⟨huntil, hlater⟩ := callsUntil_bind (f := f) hnever
  have hend : (x (.due a)).ending = .returned t .fired v := by rw [hxrun]
  have hrun := bind_returned (f := f) hend
  refine ⟨t + t', w, after ++ Course.laterCalls t (f v .fired).calls, ?_, hlater, ?_, ?_, ?_⟩
  · rw [hrun, Course.following, he', huntil, hxrun]
    simp only [List.append_assoc, Ending.later]
  · rw [hrun]
    exact hs.append hs'
  · intro c hmem
    rcases List.mem_append.mp hmem with hmem | hmem
    · exact hafter c hmem
    · obtain ⟨c', hmem', rfl⟩ := List.mem_map.mp hmem
      have := hs.le
      exact ⟨hc' c' hmem', by simp only; omega⟩
  · rw [hrun, Course.called_following]
    exact hQ

theorem InTime.bind_inTime {t' : Nat} {v : α} {w : β} {calls calls' : List (Nat × ε)} (ht : t + t' ≤ a)
    (hx : ∀ tok : Token, tok.firesBefore t = false → x tok = ⟨calls, .returned t (tok.after t) v⟩)
    (hdone : ∀ c ∈ calls, c.1 + cost c.2 ≤ t)
    (hf : ∀ tok : Token, tok.firesBefore t' = false →
      f v tok = ⟨calls', .returned t' (tok.after t') w⟩)
    (hdone' : ∀ c ∈ calls', c.1 + cost c.2 ≤ t')
    (hQ : Q (calls.map Prod.snd ++ calls'.map Prod.snd) w) :
    (x >>= f).InTime cost a Q := by
  refine ⟨t + t', w, calls ++ Course.laterCalls t calls', ht, fun tok htok => ?_,
    done_append hdone hdone', ?_⟩
  · have hfirst := hx tok (Token.firesBefore_mono (Nat.le_add_right t t') htok)
    have hsecond := hf (tok.after t) (Token.firesBefore_after htok)
    rw [Token.after_after htok] at hsecond
    rw [bind_returned (by rw [hfirst]), hfirst, hsecond]
    rfl
  · simpa only [List.map_append, Course.laterCalls, List.map_map, Function.comp_def] using hQ

theorem InTime.bind_interrupted {v : α} {calls : List (Nat × ε)} (ht : t ≤ a)
    (hx : ∀ tok : Token, tok.firesBefore t = false → x tok = ⟨calls, .returned t (tok.after t) v⟩)
    (hdone : ∀ c ∈ calls, c.1 + cost c.2 ≤ t)
    (hf : (f v).Interrupted cost change (a - t) fun es w => Q (calls.map Prod.snd ++ es) w) :
    (x >>= f).Interrupted cost change a Q := by
  obtain ⟨t', w, after, hfrun, hnever, hs, hafter, hQ⟩ := hf
  have hdue := hx (.due a) (Token.firesBefore_due ht)
  rw [Token.after_due ht] at hdue
  have hnone : x .never = ⟨calls, .returned t .never v⟩ := hx .never rfl
  have hend : (x (.due a)).ending = .returned t (.due (a - t)) v := by rw [hdue]
  have hnoend : (x .never).ending = .returned t .never v := by rw [hnone]
  have hrun := bind_returned (f := f) hend
  have hnorun := bind_returned (f := f) hnoend
  rw [hdue] at hrun
  rw [hnone] at hnorun
  have hbefore : calls.filter (·.1 ≤ a) = calls :=
    List.filter_eq_self.mpr fun c hc => decide_eq_true (by have := hdone c hc; omega)
  have hmoved : (Course.laterCalls t (f v .never).calls).filter (·.1 ≤ a) =
      Course.laterCalls t ((f v .never).callsUntil (a - t)) := by
    simp only [Course.laterCalls, Course.callsUntil, List.filter_map, Function.comp_def]
    refine congrArg _ (List.filter_congr fun c _ => ?_)
    exact decide_eq_decide.mpr (by omega)
  refine ⟨t + t', w, Course.laterCalls t after, ?_, ?_, ?_, ?_, ?_⟩
  · rw [hrun, hnorun, Course.callsUntil, Course.following, Course.following, List.filter_append,
      hbefore, hmoved, hfrun]
    simp only [Course.laterCalls_append, List.append_assoc, Ending.later]
  · intro u hu
    simp only [hnorun, Course.following, Ending.time?_later, Option.map_eq_some_iff] at hu
    obtain ⟨u', hu', rfl⟩ := hu
    have := hnever u' hu'
    omega
  · rw [hrun]
    exact Stopped.delay hdone ht hs
  · intro c hc
    obtain ⟨c', hc', rfl⟩ := List.mem_map.mp hc
    have := hafter c' hc'
    exact ⟨this.1, by simp only; omega⟩
  · rw [hrun, Course.called_following]
    exact hQ

/-- One activity after another: whichever of them the cancellation strikes, both heed it. -/
theorem Prompt.bind (hx : x.Prompt cost change P)
    (hf : ∀ es v, P es v → (f v).Prompt cost change fun es' w => Q (es ++ es') w) :
    (x >>= f).Prompt cost change Q where
  fired := hx.fired.bind fun es v hP => (hf es v hP).fired
  due a := by
    rcases hx.due a with ⟨t, v, calls, ht, hxrun, hdone, hP⟩ | hint
    · rcases (hf _ v hP).due (a - t) with ⟨t', w, calls', ht', hfrun, hdone', hQ⟩ | hint
      · exact .inl (InTime.bind_inTime (by omega) hxrun hdone hfrun hdone' hQ)
      · exact .inr (InTime.bind_interrupted ht hxrun hdone hint)
    · exact .inr (hint.bind fun es v hP => (hf es v hP).fired)

/-! ### Calls and pauses -/

/-- A change is waited for, whatever becomes of the token. -/
theorem prompt_call {e : ε} {d : Nat} {r : Except Fault α} (he : change e) (hd : cost e = d) :
    (call e (.answers d r)).Prompt cost change fun es v => es = [e] ∧ v = r := by
  have hrun : ∀ tok, call e (.answers d r) tok = ⟨[(0, e)], .returned d (tok.after d) r⟩ :=
    fun _ => rfl
  have hdone : ∀ c ∈ [(0, e)], c.1 + cost c.2 ≤ d := by
    intro c hc
    cases List.mem_singleton.mp hc
    simp only [hd, Nat.zero_add, Nat.le_refl]
  have hbusy : ∀ a, a ≤ d → Stopped cost a d [(0, e)] := by
    intro a had
    refine ⟨had, hdone, fun l _ hl => ?_⟩
    rw [waits_cons, waits_nil, hd]
    simp only
    omega
  constructor
  · refine ⟨d, r, rfl, hbusy 0 (Nat.zero_le d), fun c hc => ?_, rfl, rfl⟩
    cases List.mem_singleton.mp hc
    exact he
  · intro a
    by_cases had : d ≤ a
    · exact .inl ⟨d, r, [(0, e)], had, fun tok _ => hrun tok, hdone, rfl, rfl⟩
    · have hafter : (Token.due a).after d = .fired := if_pos (by omega)
      refine .inr ⟨d, r, [], ?_, ?_, hbusy a (by omega), List.forall_mem_nil _, rfl, rfl⟩
      · rw [hrun, hrun, hafter]
        simp [Course.callsUntil]
      · intro u hu
        cases hu
        omega

theorem prompt_isCancelled :
    (isCancelled : Timed ε Bool).Prompt cost change fun es _ => es = [] := by
  constructor
  · exact ⟨0, true, rfl, stopped_nil 0, List.forall_mem_nil _, rfl⟩
  · intro a
    refine .inl ⟨0, false, [], Nat.zero_le a, fun tok htok => ?_, List.forall_mem_nil _, rfl⟩
    cases tok with
    | fired => cases htok
    | due c => rfl
    | never => rfl

theorem unlessCancelled_inTime {tok tok' : Token} {calls : List (Nat × ε)} {v : α}
    (h : x tok = ⟨calls, .returned t tok' v⟩) (htok : tok.firesBefore t = false) :
    x.unlessCancelled tok = ⟨calls, .returned t tok' (some v)⟩ := by
  cases tok with
  | fired => cases htok
  | due c => simp [unlessCancelled, h, htok]
  | never => simp [unlessCancelled, h, htok]

theorem unlessCancelled_due (h : ∀ u, (x (.due a)).ending.time? = some u → a < u) :
    x.unlessCancelled (.due a) = (x (.due a)).cut a .fired none := by
  unfold unlessCancelled
  cases hend : (x (.due a)).ending with
  | returned u tok v =>
    have hlt : a < u := h u (by rw [hend]; rfl)
    simp [hend, Token.firesBefore, Token.time?, hlt]
  | panicked u q =>
    have hlt : a < u := h u (by rw [hend]; rfl)
    simp [hend, Token.firesBefore, Token.time?, hlt]
  | never => simp [hend, Token.time?]

theorem done_of_free {calls : List (Nat × ε)} (hcalls : ∀ c ∈ calls, c.1 = 0 ∧ cost c.2 = 0) (t : Nat) :
    ∀ c ∈ calls, c.1 + cost c.2 ≤ t := by
  intro c hc
  have := hcalls c hc
  omega

/-- Still at work when the token fires: the calls are left alone there. -/
theorem interrupted_unlessCancelled {calls : List (Nat × ε)}
    (hcalls : ∀ c ∈ calls, c.1 = 0 ∧ cost c.2 = 0) (hdue : (x (.due a)).calls = calls)
    (hlate : ∀ u, (x (.due a)).ending.time? = some u → a < u)
    (hnever : (x.unlessCancelled .never).calls = calls)
    (hlater : ∀ u, (x.unlessCancelled .never).ending.time? = some u → a < u) :
    x.unlessCancelled.Interrupted cost change a fun es _ => es ⊆ calls.map Prod.snd := by
  have hall : calls.filter (·.1 ≤ a) = calls :=
    List.filter_eq_self.mpr fun c hc => decide_eq_true (by have := hcalls c hc; omega)
  have hbusy : Stopped cost a a calls := by
    refine ⟨Nat.le_refl a, done_of_free hcalls a, fun l hal hla => ?_⟩
    rw [waits_of_done (done_of_free hcalls l)]
    omega
  have hrun : x.unlessCancelled (.due a) = ⟨calls, .returned a .fired none⟩ := by
    rw [unlessCancelled_due hlate, Course.cut, Course.callsUntil, hdue, hall]
  refine ⟨a, none, [], ?_, hlater, ?_, List.forall_mem_nil _, ?_⟩
  · rw [hrun, Course.callsUntil, hnever, hall, List.append_nil]
  · rw [hrun]
    exact hbusy
  · rw [hrun]
    exact List.Subset.refl _

/-- Calls that nothing needs are waited for until the token fires, and not at all once it has. -/
theorem prompt_unlessCancelled {calls : List (Nat × ε)} (hcalls : ∀ c ∈ calls, c.1 = 0 ∧ cost c.2 = 0)
    (h : (∃ d v, ∀ tok : Token, x tok = ⟨calls, .returned d (tok.after d) v⟩) ∨
      ∀ tok, x tok = ⟨calls, .never⟩) :
    x.unlessCancelled.Prompt cost change fun es _ => es ⊆ calls.map Prod.snd := by
  constructor
  · exact ⟨0, none, rfl, stopped_nil 0, List.forall_mem_nil _, List.nil_subset _⟩
  · intro a
    rcases h with ⟨d, v, hrun⟩ | hrun
    · have hnever : x.unlessCancelled .never = ⟨calls, .returned d .never (some v)⟩ :=
        unlessCancelled_inTime (hrun .never) rfl
      by_cases had : d ≤ a
      · exact .inl ⟨d, some v, calls, had, fun tok htok => unlessCancelled_inTime (hrun tok) htok,
          done_of_free hcalls d, List.Subset.refl _⟩
      · have hlate : ∀ u, some d = some u → a < u := by
          intro u hu
          cases hu
          omega
        refine .inr (interrupted_unlessCancelled hcalls ?_ ?_ ?_ ?_)
        · rw [hrun]
        · rw [hrun]
          exact hlate
        · rw [hnever]
        · rw [hnever]
          exact hlate
    · have hnever : x.unlessCancelled .never = ⟨calls, .never⟩ := by
        simp [unlessCancelled, hrun, Token.time?]
      have hlate : ∀ u, none = some u → a < u := by
        intro u hu
        cases hu
      refine .inr (interrupted_unlessCancelled hcalls ?_ ?_ ?_ ?_)
      · rw [hrun]
      · rw [hrun]
        exact hlate
      · rw [hnever]
      · rw [hnever]
        exact hlate

theorem prompt_unlessCancelled_call {e : ε} {r : Reply α} (he : cost e = 0)
    (hr : ∀ d q, r ≠ .panics d q) :
    (call e r).unlessCancelled.Prompt cost change fun es _ => ∀ e' ∈ es, e' = e := by
  have hcalls : ∀ c ∈ [(0, e)], c.1 = 0 ∧ cost c.2 = 0 := by
    intro c hc
    cases List.mem_singleton.mp hc
    exact ⟨rfl, he⟩
  have hrun : (∃ d v, ∀ tok : Token, call e r tok = ⟨[(0, e)], .returned d (tok.after d) v⟩) ∨
      ∀ tok, call e r tok = ⟨[(0, e)], .never⟩ := by
    cases r with
    | answers d result => exact .inl ⟨d, result, fun _ => rfl⟩
    | panics d q => exact absurd rfl (hr d q)
    | hangs => exact .inr fun _ => rfl
  refine (prompt_unlessCancelled hcalls hrun).mono fun es _ h e' he' => ?_
  exact List.mem_singleton.mp (h he')

theorem prompt_unlessCancelled_sleep (n : Nat) :
    (sleep n : Timed ε Unit).unlessCancelled.Prompt cost change fun es _ => es = [] := by
  have hrun : ∀ tok : Token, (sleep n : Timed ε Unit) tok = ⟨[], .returned n (tok.after n) ()⟩ :=
    fun _ => rfl
  have hcalls : ∀ c ∈ ([] : List (Nat × ε)), c.1 = 0 ∧ cost c.2 = 0 := by
    intro c hc
    cases hc
  refine (prompt_unlessCancelled hcalls (.inl ⟨n, (), hrun⟩)).mono fun es _ h => ?_
  exact List.subset_nil.mp h

theorem Prompt.mapCalls {δ : Type} {g : ε → δ} {cost : δ → Nat} {change : δ → Prop}
    (h : x.Prompt (fun e => cost (g e)) (fun e => change (g e)) P) :
    (x.mapCalls g).Prompt cost change fun es v => ∃ es', es = es'.map g ∧ P es' v := by
  let moved (calls : List (Nat × ε)) : List (Nat × δ) := calls.map fun c => (c.1, g c.2)
  have hwaits : ∀ l calls, waits cost l (moved calls) = waits (fun e => cost (g e)) l calls := by
    intro l calls
    induction calls with
    | nil => rfl
    | cons c calls ih => rw [waits_cons, ← ih]; rfl
  have hdone : ∀ {t calls}, (∀ c ∈ calls, c.1 + cost (g c.2) ≤ t) →
      ∀ c ∈ moved calls, c.1 + cost c.2 ≤ t := by
    intro t calls hcalls c hc
    obtain ⟨c', hc', rfl⟩ := List.mem_map.mp hc
    exact hcalls c' hc'
  have hstopped : ∀ {a t calls}, Stopped (fun e => cost (g e)) a t calls →
      Stopped cost a t (moved calls) := by
    intro a t calls hs
    exact ⟨hs.le, hdone hs.done, fun l hal hla => by rw [hwaits]; exact hs.busy l hal hla⟩
  have hcalled : ∀ calls, (moved calls).map Prod.snd = (calls.map Prod.snd).map g := by
    intro calls
    simp only [moved, List.map_map, Function.comp_def]
  constructor
  · obtain ⟨t, v, he, hs, hc, hP⟩ := h.fired
    refine ⟨t, v, he, hstopped hs, fun c hmem => ?_, _, hcalled _, hP⟩
    obtain ⟨c', hc', rfl⟩ := List.mem_map.mp hmem
    exact hc c' hc'
  · intro a
    rcases h.due a with ⟨t, v, calls, ht, hrun, hd, hP⟩ | ⟨t, v, after, hrun, hnever, hs, hc, hP⟩
    · refine .inl ⟨t, v, moved calls, ht, fun tok htok => ?_, hdone hd, _, hcalled _, hP⟩
      simp only [Timed.mapCalls, hrun tok htok, moved]
    · refine .inr ⟨t, v, moved after, ?_, hnever, hstopped hs, fun c hmem => ?_, _, hcalled _, hP⟩
      · simp only [Timed.mapCalls, hrun, moved, Course.callsUntil, List.map_append, List.filter_map,
          Function.comp_def]
      · obtain ⟨c', hc', rfl⟩ := List.mem_map.mp hmem
        exact hc c' hc'

/-! ### Cancelled while at work -/

/-- An activity that is cancelled at tick `l` at the latest and is still at work then. What it has begun
by its cancellation is what it begins without a token; behind that it makes changes only; and it ends as
soon as what is left of the changes at tick `l` is done. -/
structure Lingers (cost : ε → Nat) (change : ε → Prop) (x : Timed ε α) (tok : Token) (l : Nat)
    (before after : List (Nat × ε)) (t : Nat) (v : α) : Prop where
  course : x (tok.within l) = ⟨before ++ after, .returned t .fired v⟩
  le : l ≤ t
  busy : t = l + waits cost l (before ++ after)
  begun : ∀ c ∈ before, c.1 ≤ l
  changes : ∀ c ∈ after, change c.2
  uncancelled : tok.firesBefore l = false →
    before = (x .never).callsUntil l ∧ ∀ c ∈ after, l ≤ c.1

variable {tok : Token} {l : Nat}

theorem Interrupted.lingers {m : Nat} (h : x.Interrupted cost change m P) (hml : m ≤ l)
    (hw : tok.within l = .due m) (hl : tok.firesBefore l = false → m = l)
    (hlate : ∀ u, (x (.due m)).ending.time? = some u → l ≤ u) :
    ∃ before after t v, x.Lingers cost change tok l before after t v ∧
      P ((before ++ after).map Prod.snd) v := by
  obtain ⟨t, v, after, hrun, -, hs, hafter, hP⟩ := h
  have hlt : l ≤ t := hlate t (by rw [hrun]; rfl)
  rw [Course.called, hrun] at hP
  rw [hrun] at hs
  refine ⟨(x .never).callsUntil m, after, t, v, ?_, hP⟩
  exact
    { course := by rw [hw, hrun]
      le := hlt
      busy := hs.busy l hml hlt
      begun := fun c hc => by
        have := of_decide_eq_true (List.mem_filter.mp hc).2
        omega
      changes := fun c hc => (hafter c hc).1
      uncancelled := fun hu => by
        rw [hl hu] at hafter ⊢
        exact ⟨rfl, fun c hc => (hafter c hc).2⟩ }

theorem Prompt.lingers (h : x.Prompt cost change P)
    (hlate : ∀ u, (x tok).ending.time? = some u → l < u) :
    ∃ before after t v, x.Lingers cost change tok l before after t v ∧
      P ((before ++ after).map Prod.snd) v := by
  -- An activity that would be over by tick `l` is not late.
  have hnot : ∀ m, m ≤ l → (∀ t, t ≤ m → tok.firesBefore t = false) → ¬ x.InTime cost m P := by
    rintro m hm htok ⟨t, v, calls, ht, hrun, -, -⟩
    have := hlate t (by rw [hrun tok (htok t ht)]; rfl)
    omega
  have hlimit : (∀ t, t ≤ l → tok.firesBefore t = false) → tok.within l = .due l →
      ∃ before after t v, x.Lingers cost change tok l before after t v ∧
        P ((before ++ after).map Prod.snd) v := by
    intro htok hw
    have hint := (h.due l).resolve_left (hnot l (Nat.le_refl l) htok)
    refine hint.lingers (Nat.le_refl l) hw (fun _ => rfl) fun u hu => ?_
    obtain ⟨t, v, after, hrun, -, hs, -⟩ := hint
    rw [hrun] at hu
    cases hu
    exact hs.le
  cases tok with
  | fired =>
    obtain ⟨t, v, he, hs, hc, hP⟩ := h.fired
    have hlt : l ≤ t := Nat.le_of_lt (hlate t (by rw [he]; rfl))
    refine ⟨[], (x .fired).calls, t, v, ?_, hP⟩
    exact
      { course := by rw [Token.within, List.nil_append, ← he]
        le := hlt
        busy := hs.busy l (Nat.zero_le l) hlt
        begun := nofun
        changes := hc
        uncancelled := nofun }
  | never => exact hlimit (fun _ _ => rfl) rfl
  | due c =>
    by_cases hcl : l ≤ c
    · refine hlimit (fun t ht => Token.firesBefore_due (Nat.le_trans ht hcl)) ?_
      rw [Token.within, Nat.min_eq_right hcl]
    · -- The shutdown comes before the limit, and the activity is run with it in any case.
      have hint := (h.due c).resolve_left
        (hnot c (by omega) fun t ht => Token.firesBefore_due ht)
      refine hint.lingers (by omega) ?_ (fun hu => ?_) fun u hu => Nat.le_of_lt (hlate u hu)
      · rw [Token.within, Nat.min_eq_left (by omega)]
      · simp only [Token.firesBefore, decide_eq_false_iff_not] at hu
        omega

end Timed
end Checkup
