import Checkup.Proofs.Timed.Cancellation
import Checkup.Proofs.Wait.Timing

/-!
# A wait that is cancelled

The same wait under different tokens. `Wait.under` gives a wait another token, and `Settles` says what
that makes of it: up to the tick at which the wait ends without a token, a token that does not fire makes
no difference; one that does ends the wait there, and the wait awaits no fetch any more.

Results:
* `poll_back` and `poll_late`: a fetch under any token.
* `turn_under`: a turn under any token, as the relation `Turns`.
* `pollFrom_settles` and `waitOn_prompt`: a whole wait.
* `waitOn_satisfied`: a wait that is satisfied is over before its token fires.
-/
namespace Checkup

namespace Wait

variable {w : Wait} {s : State} {tok : Token}

/-- The wait with another token. -/
def under (w : Wait) (tok : Token) : Wait := { w with token := tok }

theorem poll_back {now n d : Nat} {x : Except Fault Bool} (ho : w.observe n = .answers d x)
    (hl : now + d < w.limit) : (w.under tok).poll now n =
      if tok.firesBefore (now + d) then .cancelled else .answered (now + d) x := by
  have hmin : min (now + d) w.limit = now + d := Nat.min_eq_left (Nat.le_of_lt hl)
  simp [under, poll, ho, hmin, hl]

/-- A fetch that does not come back in time is left alone when the token fires or at the deadline. -/
theorem poll_late {now n : Nat} (hcalm : ∀ n d p, w.observe n ≠ .panics d p)
    (hl : ∀ d x, w.observe n = .answers d x → w.limit ≤ now + d) : (w.under tok).poll now n =
      if tok.firesBefore w.limit then .cancelled else .timedOut := by
  cases ho : w.observe n with
  | answers d x =>
    have hle := hl d x ho
    have hmin : min (now + d) w.limit = w.limit := Nat.min_eq_right hle
    simp [under, poll, ho, hmin, Nat.not_lt.mpr hle]
  | panics d p => exact absurd ho (hcalm n d p)
  | hangs =>
    simp only [under, poll, ho]
    rfl

/-- What a turn from a state comes to, under any token: it ends the wait at a tick, or the loop goes on
from another state; a token that fires before ends the wait there. -/
inductive Turns (w : Wait) (s : State) : Prop where
  | stops {t : Nat} {r : Result} : s.now ≤ t →
      (∀ tok : Token, tok.firesBefore t = false →
        (w.under tok).turn s = .stops (.returned t (tok.after t) r)) →
      (∀ a, s.now ≤ a → a < t → (w.under (.due a)).turn s = .stops (cancelled a s.begun)) → Turns w s
  | goesOn {u : State} : s.now < u.now →
      (∀ tok : Token, tok.firesBefore u.now = false → (w.under tok).turn s = .goesOn u) →
      (∀ a, s.now ≤ a → a < u.now → (w.under (.due a)).turn s = .stops (cancelled a s.begun)) →
      Turns w s

/-- A fetch that comes back before the deadline, unless the token fires while it is under way or during
the pause behind it. -/
theorem turn_under_back {d : Nat} {x : Except Fault Bool} (hw : w.Fits)
    (ho : w.observe s.polls = .answers d x) (hd : s.now + d < w.limit) : w.Turns s := by
  have hearly : ∀ a, s.now ≤ a → a < s.now + d →
      (w.under (.due a)).turn s = .stops (cancelled a s.begun) := by
    intro a _ had
    have hpoll : (w.under (.due a)).poll s.now s.polls = .cancelled := by
      rw [poll_back ho hd, if_pos (Token.firesBefore_due_of_lt had)]
    unfold turn
    rw [hpoll]
    rfl
  have hpoll : ∀ tok : Token, tok.firesBefore (s.now + d) = false →
      (w.under tok).poll s.now s.polls = .answered (s.now + d) x := by
    intro tok htok
    rw [poll_back ho hd, htok]
    rfl
  by_cases hx : x = .ok true
  · subst hx
    refine .stops (t := s.now + d) (r := .ok ⟨s.begun.counted, Span.ofMillis (s.now + d)⟩)
      (by omega) (fun tok htok => ?_) hearly
    unfold turn
    rw [hpoll tok htok]
    rfl
  · obtain ⟨p, hp, hclock⟩ := hw s.polls (s.now + d) hd
    let u := min (s.now + d + p.ticks) w.limit
    have hpos := p.ticks_pos
    have hu : s.now + d < u := by simp only [u]; omega
    have hpause : ∀ tok, (w.under tok).pause (s.now + d) s.polls = .ok u := by
      intro tok
      simp only [under, pause, hp, hclock, if_true, u]
    refine .goesOn (u := ⟨u, s.polls + 1, lastErrorOf x s.lastError⟩)
      (by simp only; omega) (fun tok htok => ?_) fun a ha hau => ?_
    · have htok' : tok.firesBefore (s.now + d) = false :=
        Token.firesBefore_mono (Nat.le_of_lt hu) htok
      rw [turn_of_vain (hpoll tok htok') hx]
      exact rest_of_ok hd htok' (hpause tok) htok
    · by_cases had : a < s.now + d
      · exact hearly a ha had
      · -- The token fires during the pause.
        have htok' : (Token.due a).firesBefore (s.now + d) = false :=
          Token.firesBefore_due (by omega)
        have hcheck : (w.under (.due a)).checkStop
            ⟨s.now + d, s.polls + 1, lastErrorOf x s.lastError⟩ = none := checkStop_of_lt htok' hd
        rw [turn_of_vain (hpoll _ htok') hx]
        simp only [rest, hcheck, hpause]
        exact if_pos (Token.firesBefore_due_of_lt hau)

/-- A fetch that does not come back before the deadline. -/
theorem turn_under_late (hcalm : ∀ n d p, w.observe n ≠ .panics d p) (hl : s.now < w.limit)
    (hlate : ∀ d x, w.observe s.polls = .answers d x → w.limit ≤ s.now + d) : w.Turns s := by
  refine .stops (t := w.limit) (r := .error (.deadlineExceeded w.deadline s.begun.counted
    (some (s.lastError.getD unfinishedFetch)))) (Nat.le_of_lt hl) (fun tok htok => ?_)
    fun a ha hal => ?_
  · unfold turn
    rw [poll_late hcalm hlate, htok]
    rfl
  · unfold turn
    rw [poll_late hcalm hlate, if_pos (Token.firesBefore_due_of_lt hal)]
    rfl

theorem turn_under (hw : w.Fits) (hcalm : ∀ n d p, w.observe n ≠ .panics d p) (hl : s.now < w.limit) :
    w.Turns s := by
  by_cases hback : ∃ d x, w.observe s.polls = .answers d x ∧ s.now + d < w.limit
  · obtain ⟨d, x, ho, hd⟩ := hback
    exact turn_under_back hw ho hd
  · exact turn_under_late hcalm hl fun d x ho => Nat.le_of_not_lt fun hd => hback ⟨d, x, ho, hd⟩

/-- What becomes of the wait from a state on, under any token: these calls, and an end at tick `t`; a
token that fires before ends the wait there. -/
structure Settles (w : Wait) (s : State) (t : Nat) (r : Result) (calls : List (Nat × Fetch)) : Prop where
  le : s.now ≤ t
  within : ∀ c ∈ calls, s.now ≤ c.1 ∧ c.1 ≤ t
  unfired : ∀ tok : Token, tok.firesBefore t = false →
    (w.under tok).pollFrom s = ⟨calls, .returned t (tok.after t) r⟩
  fired : ∀ a, s.now ≤ a → a < t → ∃ k, (w.under (.due a)).pollFrom s =
    ⟨calls.filter (·.1 ≤ a), .returned a .fired (.error (.cancelled k))⟩

section
variable {t : Nat} {r : Result} {calls : List (Nat × Fetch)}

theorem checkStop_under (hl : s.now < w.limit) (htok : tok.firesBefore s.now = false) :
    (w.under tok).checkStop s = none := checkStop_of_lt htok hl

theorem settles_of_stops (hl : s.now < w.limit) (hle : s.now ≤ t)
    (hstop : ∀ tok : Token, tok.firesBefore t = false →
      (w.under tok).turn s = .stops (.returned t (tok.after t) r))
    (hcut : ∀ a, s.now ≤ a → a < t → (w.under (.due a)).turn s = .stops (cancelled a s.begun)) :
    w.Settles s t r [(s.now, w.fetch)] where
  le := hle
  within c hc := by
    cases List.mem_singleton.mp hc
    exact ⟨Nat.le_refl _, hle⟩
  unfired tok htok :=
    pollFrom_stops (checkStop_under hl (Token.firesBefore_mono hle htok)) (hstop tok htok)
  fired a ha hat := by
    refine ⟨s.begun.counted, ?_⟩
    rw [pollFrom_stops (checkStop_under hl (Token.firesBefore_due ha)) (hcut a ha hat)]
    simp [ha, under, cancelled]

theorem Settles.goesOn {u : State} (h : w.Settles u t r calls) (hl : s.now < w.limit)
    (hlt : s.now < u.now)
    (hgo : ∀ tok : Token, tok.firesBefore u.now = false → (w.under tok).turn s = .goesOn u)
    (hcut : ∀ a, s.now ≤ a → a < u.now → (w.under (.due a)).turn s = .stops (cancelled a s.begun)) :
    w.Settles s t r ((s.now, w.fetch) :: calls) where
  le := by
    have := h.le
    omega
  within c hc := by
    have hle := h.le
    rcases List.mem_cons.mp hc with rfl | hc
    · exact ⟨Nat.le_refl _, by simp only; omega⟩
    · have := h.within c hc
      omega
  unfired tok htok := by
    have htok' := Token.firesBefore_mono h.le htok
    have hcheck := checkStop_under hl (Token.firesBefore_mono (Nat.le_of_lt hlt) htok')
    rw [pollFrom_goesOn hcheck (hgo tok htok'), h.unfired tok htok]
    rfl
  fired a ha hat := by
    have hcheck := checkStop_under hl (Token.firesBefore_due ha)
    by_cases hau : a < u.now
    · -- The token fires in this turn, and all later fetches are still ahead.
      have hnone : calls.filter (·.1 ≤ a) = [] :=
        List.filter_eq_nil_iff.mpr fun c hc => by
          have := h.within c hc
          simp only [decide_eq_true_eq]
          omega
      refine ⟨s.begun.counted, ?_⟩
      rw [pollFrom_stops hcheck (hcut a ha hau)]
      simp [ha, hnone, under, cancelled]
    · obtain ⟨k, hk⟩ := h.fired a (by omega) hat
      refine ⟨k, ?_⟩
      rw [pollFrom_goesOn hcheck (hgo _ (Token.firesBefore_due (by omega))), hk]
      simp [ha, under]

/-- At the deadline the wait is over whatever the token is. -/
theorem settles_at_limit (hl : w.limit ≤ s.now) :
    w.Settles s s.now (.error (.deadlineExceeded w.deadline s.counted s.lastError)) [] where
  le := Nat.le_refl _
  within := List.forall_mem_nil _
  unfired tok htok := by
    have hlimit : (w.under tok).limit ≤ s.now := hl
    have htoken : (w.under tok).token.firesBefore s.now = false := htok
    refine pollFrom_stopped ?_
    simp only [checkStop, htoken, Bool.false_eq_true, if_false, if_pos hlimit]
    rfl
  fired a ha hat := absurd hat (Nat.not_lt.mpr ha)

end

theorem pollFrom_settles (hw : w.Fits) (hcalm : ∀ n d p, w.observe n ≠ .panics d p) (s : State) :
    ∃ t r calls, w.Settles s t r calls := by
  -- Each turn brings the clock nearer to the deadline.
  induction hn : w.limit - s.now using Nat.strongRecOn generalizing s with
  | ind n ih =>
    subst hn
    by_cases hl : s.now < w.limit
    · cases turn_under hw hcalm hl with
      | stops hle hstop hcut => exact ⟨_, _, _, settles_of_stops hl hle hstop hcut⟩
      | @goesOn u hlt hgo hcut =>
        obtain ⟨t, r, calls, hsettles⟩ := ih (w.limit - u.now) (by omega) u rfl
        exact ⟨t, r, _, hsettles.goesOn hl hlt hgo hcut⟩
    · exact ⟨_, _, _, settles_at_limit (Nat.le_of_not_lt hl)⟩

end Wait

/-- A wait fetches only until its token fires, and then ends at once. -/
theorem WaitSpec.waitOn_prompt (s : WaitSpec) {source : StateSource} (hcalm : source.Calm)
    {delays : Nat → Delay} (hr : s.Representable delays) {change : Fetch → Prop} :
    (s.waitOn source fun n => .ok (delays n)).Prompt (fun _ => 0) change fun _ _ => True := by
  cases hc : s.resolve with
  | error e =>
    -- A spec that does not resolve is refused, whatever the token is.
    have hrefused : (s.waitOn source fun n => .ok (delays n)) = Pure.pure (.error e) := by
      funext tok
      simp only [waitOn, hc]
      rfl
    rw [hrefused]
    exact Timed.prompt_pure trivial
  | ok c =>
    let w := s.waitFor c source (fun n => .ok (delays n)) .never
    have hrun : ∀ tok, s.waitOn source (fun n => .ok (delays n)) tok =
        (w.under tok).pollFrom ⟨0, 0, none⟩ := fun tok => waitOn_of_resolve hc hr.deadline ..
    obtain ⟨t, r, calls, hw⟩ := Wait.pollFrom_settles (w := w) (fits_waitFor hr c source .never)
      (c.observe_calm hcalm) ⟨0, 0, none⟩
    constructor
    · have hstop : (w.under .fired).pollFrom ⟨0, 0, none⟩ =
          ⟨[], .returned 0 .fired (.error (.cancelled 0))⟩ := Wait.pollFrom_stopped rfl
      refine ⟨0, .error (.cancelled 0), ?_, ?_, ?_, trivial⟩
      · rw [hrun, hstop]
      · rw [hrun, hstop]
        exact stopped_nil 0
      · rw [hrun, hstop]
        exact List.forall_mem_nil _
    · intro a
      have hnever : s.waitOn source (fun n => .ok (delays n)) .never =
          ⟨calls, .returned t .never r⟩ := (hrun .never).trans (hw.unfired .never rfl)
      by_cases hta : t ≤ a
      · exact .inl ⟨t, r, calls, hta, fun tok htok => (hrun tok).trans (hw.unfired tok htok),
          fun c hc => (hw.within c hc).2, trivial⟩
      · obtain ⟨k, hk⟩ := hw.fired a (Nat.zero_le a) (by omega)
        have hdue := (hrun (.due a)).trans hk
        refine .inr ⟨a, .error (.cancelled k), [], ?_, fun u hu => ?_, ?_, List.forall_mem_nil _, trivial⟩
        · rw [hdue, Course.callsUntil, hnever, List.append_nil]
        · rw [hnever] at hu
          cases hu
          omega
        · have hbefore : ∀ c ∈ calls.filter (·.1 ≤ a), c.1 + 0 ≤ a := fun c hc =>
            of_decide_eq_true (List.mem_filter.mp hc).2
          rw [hdue]
          refine ⟨Nat.le_refl a, hbefore, fun l hal hla => ?_⟩
          rw [waits_of_done fun c hc => Nat.le_trans (hbefore c hc) hal]
          omega

/-- A wait that ends with success leaves its token unfired. -/
theorem WaitSpec.waitOn_satisfied (s : WaitSpec) {source : StateSource} (hcalm : source.Calm)
    {delays : Nat → Delay} (hr : s.Representable delays) {tok tok' : Token} {t : Nat}
    {report : WaitReport}
    (h : (s.waitOn source (fun n => .ok (delays n)) tok).ending = .returned t tok' (.ok report)) :
    tok' ≠ .fired := by
  cases hc : s.resolve with
  | error e =>
    simp only [waitOn, hc] at h
    cases h
  | ok c =>
    let w := s.waitFor c source (fun n => .ok (delays n)) .never
    have hrun : s.waitOn source (fun n => .ok (delays n)) tok =
        (w.under tok).pollFrom ⟨0, 0, none⟩ := waitOn_of_resolve hc hr.deadline ..
    obtain ⟨u, r, calls, hw⟩ := Wait.pollFrom_settles (w := w) (fits_waitFor hr c source .never)
      (c.observe_calm hcalm) ⟨0, 0, none⟩
    cases hlate : tok.firesBefore u with
    | false =>
      rw [hrun, hw.unfired tok hlate] at h
      cases h
      exact Token.after_ne_fired hlate
    | true =>
      -- The token ends the wait, and not with success.
      cases tok with
      | fired =>
        have hstop : (w.under .fired).pollFrom ⟨0, 0, none⟩ =
            ⟨[], .returned 0 .fired (.error (.cancelled 0))⟩ := Wait.pollFrom_stopped rfl
        rw [hrun, hstop] at h
        cases h
      | never => cases hlate
      | due a =>
        obtain ⟨k, hk⟩ := hw.fired a (Nat.zero_le a) (by simpa [Token.firesBefore] using hlate)
        rw [hrun, hk] at h
        cases h

end Checkup
