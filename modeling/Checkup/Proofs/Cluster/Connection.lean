import Mathlib.Data.Nat.Find
import Checkup.Cluster.Probe
import Checkup.Proofs.Timed.Cancellation

/-!
# The connection test

A connection test requests a URL until it answers with success, a number of times at most, and pauses
between one answer and the next request. What the replies are and how long each takes fixes the tick of
every request that the test may come to make, so `Timeline` holds the replies, and `startAt` and `doneAt`
say when a request begins and when it is answered. A test goes along its timeline up to the first success,
the last request or the moment at which the token fires, whichever comes first.

**Assumptions.** Every request is answered, with a status or an error, after some time. The token has not
fired when the test begins.

Results:
* `requestsFrom_reached`, `requestsFrom_cut` and `requestsFrom_vain`: what one request comes to.
* `goOn_zero`, `goOn_succ` and `goOn_cut`: what becomes of the test behind one without success.
* `Timeline.unroll`: some requests without success, and what is left of the test behind them.
* `Timeline.reached`, `Timeline.exhausted` and `Timeline.cancelled`: the three ways a whole test ends.
* `testConnection_conducted`: all of it, as the structure `Conducted`.
-/
namespace Checkup.Cluster

/-! ## One request -/

/-- What is left of a test behind a request without success, of which `last` tells. -/
def goOn (svc : Service) (s : Settings) (url : String) (left completed : Nat) (last : String)
    (requested : List String) : Timed Call Tested :=
  if left = 0 then return (.error (testFailed url s.reachAttempts last), requested)
  else do
    match ← Timed.unlessCancelled (Timed.sleep s.reachInterval.ticks) with
    | none => return (.error (testCancelled completed), requested)
    | some _ => requestsFrom svc s url left completed last requested

section
variable {svc : Service} {s : Settings} {url last : String} {requested : List String}
  {left completed d a : Nat} {result : Except Fault UInt16} {tok : Token}

theorem requestsFrom_succ : requestsFrom svc s url (left + 1) completed last requested =
    (Timed.call (Call.get url) (svc.status requested url)).unlessCancelled >>= fun outcome =>
      match outcome with
      | none => pure (.error (testCancelled completed), requested ++ [url])
      | some (.ok 200) => pure (.ok (), requested ++ [url])
      | some result => goOn svc s url left (completed + 1) (resultText result) (requested ++ [url]) :=
  rfl

/-- A request that is answered before the token fires. -/
theorem request_inTime (h : svc.status requested url = .answers d result)
    (htok : tok.firesBefore d = false) :
    (Timed.call (Call.get url) (svc.status requested url)).unlessCancelled tok =
      ⟨[(0, .get url)], .returned d (tok.after d) (some result)⟩ := by
  rw [h]
  exact Timed.unlessCancelled_inTime rfl htok

/-- A request that is under way when the token fires. -/
theorem request_cut (h : svc.status requested url = .answers d result) (ha : a < d) :
    (Timed.call (Call.get url) (svc.status requested url)).unlessCancelled (.due a) =
      ⟨[(0, .get url)], .returned a .fired none⟩ := by
  rw [h, Timed.unlessCancelled_due]
  · simp [Timed.call, Timed.await, Course.cut, Course.callsUntil]
  · intro u hu
    have hud : d = u := by simpa [Timed.call, Timed.await, Ending.time?] using hu
    omega

theorem requestsFrom_reached (h : svc.status requested url = .answers d (.ok 200))
    (htok : tok.firesBefore d = false) :
    requestsFrom svc s url (left + 1) completed last requested tok =
      ⟨[(0, .get url)], .returned d (tok.after d) (.ok (), requested ++ [url])⟩ := by
  have hrequest := request_inTime h htok
  rw [requestsFrom_succ, Timed.bind_returned (by rw [hrequest]), hrequest]
  rfl

theorem requestsFrom_cut (h : svc.status requested url = .answers d result) (ha : a < d) :
    requestsFrom svc s url (left + 1) completed last requested (.due a) =
      ⟨[(0, .get url)], .returned a .fired (.error (testCancelled completed), requested ++ [url])⟩ := by
  have hrequest := request_cut h ha
  rw [requestsFrom_succ, Timed.bind_returned (by rw [hrequest]), hrequest]
  rfl

theorem requestsFrom_vain (h : svc.status requested url = .answers d result)
    (hresult : result ≠ .ok 200) (htok : tok.firesBefore d = false) :
    requestsFrom svc s url (left + 1) completed last requested tok =
      Course.following [(0, .get url)] d (goOn svc s url left (completed + 1) (resultText result)
        (requested ++ [url]) (tok.after d)) := by
  have hrequest := request_inTime h htok
  rw [requestsFrom_succ, Timed.bind_returned (by rw [hrequest]), hrequest]
  refine congrArg (Course.following _ d) (congrFun ?_ (tok.after d))
  split
  · contradiction
  · next heq => exact absurd (Option.some.inj heq) hresult
  · next heq => cases heq; rfl

/-! ### Behind a request without success -/

/-- Behind the last request there is no pause. -/
theorem goOn_zero : goOn svc s url 0 completed last requested tok =
    ⟨[], .returned 0 tok (.error (testFailed url s.reachAttempts last), requested)⟩ :=
  rfl

theorem goOn_succ (htok : tok.firesBefore s.reachInterval.ticks = false) :
    goOn svc s url (left + 1) completed last requested tok =
      Course.following [] s.reachInterval.ticks
        (requestsFrom svc s url (left + 1) completed last requested
          (tok.after s.reachInterval.ticks)) := by
  have hpause : (Timed.sleep s.reachInterval.ticks : Timed Call Unit).unlessCancelled tok =
      ⟨[], .returned s.reachInterval.ticks (tok.after s.reachInterval.ticks) (some ())⟩ :=
    Timed.unlessCancelled_inTime rfl htok
  unfold goOn
  rw [if_neg (Nat.succ_ne_zero left), Timed.bind_returned (by rw [hpause]), hpause]

theorem goOn_cut (ha : a < s.reachInterval.ticks) :
    goOn svc s url (left + 1) completed last requested (.due a) =
      ⟨[], .returned a .fired (.error (testCancelled completed), requested)⟩ := by
  have hpause : (Timed.sleep s.reachInterval.ticks : Timed Call Unit).unlessCancelled (.due a) =
      ⟨[], .returned a .fired none⟩ := by
    rw [Timed.unlessCancelled_due]
    · rfl
    · intro u hu
      have hut : s.reachInterval.ticks = u := by simpa [Timed.sleep, Ending.time?] using hu
      omega
  unfold goOn
  rw [if_neg (Nat.succ_ne_zero left), Timed.bind_returned (by rw [hpause]), hpause]
  rfl

end

/-! ## Timelines -/

/-- The replies to the requests of a test, one after another, and the length of the pauses between. -/
structure Timeline where
  pause : Nat
  delay : Nat → Nat
  result : Nat → Except Fault UInt16

namespace Timeline

/-- The tick at which a request begins: a pause behind the answer to the one before. -/
def startAt (l : Timeline) : Nat → Nat
  | 0 => 0
  | k + 1 => l.startAt k + l.delay k + l.pause

/-- The tick at which a request is answered. -/
def doneAt (l : Timeline) (k : Nat) : Nat := l.startAt k + l.delay k

/-- The tick at which a number of requests are over. -/
def overAt (l : Timeline) : Nat → Nat
  | 0 => 0
  | k + 1 => l.doneAt k

/-- What is said of the last of a number of requests. -/
def lastText (l : Timeline) : Nat → String
  | 0 => "no attempt made"
  | k + 1 =>
    match l.result k with
    | .ok code => "status code " ++ Text.natText code.toNat
    | .error e => e.text

def requests (l : Timeline) (url : String) (made : Nat) : List (Nat × Call) :=
  (List.range made).map fun k => (l.startAt k, .get url)

/-- A test of a URL behind some requests meets with these replies and pauses. -/
structure Holds (l : Timeline) (svc : Service) (s : Settings) (url : String)
    (requested : List String) : Prop where
  pause : l.pause = s.reachInterval.ticks
  replies : ∀ k, svc.status (requested ++ List.replicate k url) url =
    .answers (l.delay k) (l.result k)

variable {l : Timeline}

theorem startAt_succ (k : Nat) : l.startAt (k + 1) = l.doneAt k + l.pause := rfl

theorem doneAt_eq (k : Nat) : l.doneAt k = l.startAt k + l.delay k := rfl

theorem doneAt_mono {j k : Nat} (h : j ≤ k) : l.doneAt j ≤ l.doneAt k := by
  induction h with
  | refl => exact Nat.le_refl _
  | @step m _ ih =>
    calc l.doneAt j ≤ l.doneAt m := ih
      _ ≤ l.startAt (m + 1) := Nat.le_add_right _ _
      _ ≤ l.doneAt (m + 1) := Nat.le_add_right _ _

theorem doneAt_le_overAt {k n : Nat} (h : k < n) : l.doneAt k ≤ l.overAt n := by
  cases n with
  | zero => exact absurd h (Nat.not_lt_zero k)
  | succ n => exact l.doneAt_mono (Nat.le_of_lt_succ h)

/-- Requests that are not over by a tick include one that is not answered by then. -/
theorem exists_lt_doneAt {a n : Nat} (h : a < l.overAt n) : ∃ k, k < n ∧ a < l.doneAt k := by
  cases n with
  | zero => exact absurd h (Nat.not_lt_zero a)
  | succ n => exact ⟨n, Nat.lt_succ_self n, h⟩

theorem requests_succ (url : String) (k : Nat) :
    l.requests url (k + 1) = l.requests url k ++ [(l.startAt k, .get url)] := by
  simp only [requests, List.range_succ, List.map_append, List.map_cons, List.map_nil]

/-! ### A test along its timeline -/

section
variable {svc : Service} {s : Settings} {url : String} {requested : List String} {j n a : Nat}
  {tok : Token}

/-- The test behind some requests without success, seen from the tick at which the next one begins. -/
theorem unroll (h : l.Holds svc s url requested) (hj : j < n)
    (hvain : ∀ k, k < j → l.result k ≠ .ok 200) (htok : tok.firesBefore (l.startAt j) = false) :
    ∃ text, requestsFrom svc s url n 0 "no attempt made" requested tok =
      Course.following (l.requests url j) (l.startAt j) (requestsFrom svc s url (n - j) j text
        (requested ++ List.replicate j url) (tok.after (l.startAt j))) := by
  induction j with
  | zero =>
    refine ⟨"no attempt made", ?_⟩
    have hafter : tok.after 0 = tok := by cases tok <;> rfl
    simp only [requests, startAt, hafter, List.range_zero, List.map_nil, List.replicate_zero,
      List.append_nil, Nat.sub_zero, Course.following_nil_zero]
  | succ j ih =>
    have hstart : l.startAt (j + 1) = l.startAt j + (l.delay j + l.pause) := Nat.add_assoc ..
    rw [hstart] at htok
    obtain ⟨text, hrun⟩ := ih (by omega) (fun k hk => hvain k (by omega))
      (Token.firesBefore_mono (Nat.le_add_right _ _) htok)
    -- Seen from the tick of this request, the token fires behind the pause at the earliest.
    have hlater := Token.firesBefore_after htok
    have hdone := Token.firesBefore_mono (Nat.le_add_right _ _) hlater
    have hpause := Token.firesBefore_after hlater
    obtain ⟨left, hleft⟩ : ∃ left, n - j = left + 2 := ⟨n - j - 2, by omega⟩
    have hrest : n - (j + 1) = left + 1 := by omega
    have hrequested : requested ++ List.replicate j url ++ [url] =
        requested ++ List.replicate (j + 1) url := by
      rw [List.replicate_succ', List.append_assoc]
    refine ⟨resultText (l.result j), ?_⟩
    rw [hrun, hleft, requestsFrom_vain (h.replies j) (hvain j (Nat.lt_succ_self j)) hdone,
      goOn_succ (by rw [← h.pause]; exact hpause), ← h.pause, Token.after_after hlater,
      Token.after_after htok, Course.following_following, Course.following_following, hrequested,
      hrest, requests_succ, hstart]
    simp only [Course.laterCalls, List.map_cons, List.map_nil, Nat.add_zero, List.append_nil,
      Nat.add_assoc]

/-- The test up to the answer to a request, if all before are without success. -/
theorem unroll_request (h : l.Holds svc s url requested) (hj : j < n)
    (hvain : ∀ k, k < j → l.result k ≠ .ok 200) (htok : tok.firesBefore (l.startAt j) = false) :
    ∃ text, requestsFrom svc s url n 0 "no attempt made" requested tok =
      Course.following (l.requests url j) (l.startAt j) (requestsFrom svc s url (n - j - 1 + 1) j text
        (requested ++ List.replicate j url) (tok.after (l.startAt j))) := by
  have hleft : n - j - 1 + 1 = n - j := by omega
  rw [hleft]
  exact l.unroll h hj hvain htok

theorem reached (h : l.Holds svc s url requested) (hj : j < n)
    (hvain : ∀ k, k < j → l.result k ≠ .ok 200) (hresult : l.result j = .ok 200)
    (htok : tok.firesBefore (l.doneAt j) = false) :
    requestsFrom svc s url n 0 "no attempt made" requested tok =
      ⟨l.requests url (j + 1), .returned (l.doneAt j) (tok.after (l.doneAt j))
        (.ok (), requested ++ List.replicate (j + 1) url)⟩ := by
  have hstart := Token.firesBefore_mono (Nat.le_add_right _ _) htok
  have hreply := h.replies j
  rw [hresult] at hreply
  obtain ⟨text, hrun⟩ := unroll_request h hj hvain hstart
  rw [hrun, requestsFrom_reached hreply (Token.firesBefore_after htok), Token.after_after htok,
    requests_succ, List.replicate_succ', List.append_assoc]
  rfl

/-- A request without success, and what the test goes on to behind it. -/
theorem unroll_vain (h : l.Holds svc s url requested) (hj : j < n)
    (hvain : ∀ k, k ≤ j → l.result k ≠ .ok 200) (htok : tok.firesBefore (l.doneAt j) = false) :
    requestsFrom svc s url n 0 "no attempt made" requested tok =
      Course.following (l.requests url (j + 1)) (l.doneAt j)
        (goOn svc s url (n - j - 1) (j + 1) (l.lastText (j + 1))
          (requested ++ List.replicate (j + 1) url) (tok.after (l.doneAt j))) := by
  have hstart := Token.firesBefore_mono (Nat.le_add_right _ _) htok
  obtain ⟨text, hrun⟩ := unroll_request h hj (fun k hk => hvain k (by omega)) hstart
  rw [hrun, requestsFrom_vain (h.replies j) (hvain j (Nat.le_refl j)) (Token.firesBefore_after htok),
    Token.after_after htok, Course.following_following, requests_succ, List.replicate_succ',
    List.append_assoc]
  rfl

theorem exhausted (h : l.Holds svc s url requested) (hvain : ∀ k, k < n → l.result k ≠ .ok 200)
    (htok : tok.firesBefore (l.overAt n) = false) :
    requestsFrom svc s url n 0 "no attempt made" requested tok =
      ⟨l.requests url n, .returned (l.overAt n) (tok.after (l.overAt n))
        (.error (testFailed url s.reachAttempts (l.lastText n)), requested ++ List.replicate n url)⟩ := by
  cases n with
  | zero =>
    have hafter : tok.after 0 = tok := by cases tok <;> rfl
    rw [overAt, hafter, List.replicate_zero, List.append_nil]
    rfl
  | succ n =>
    have hleft : n + 1 - n - 1 = 0 := by omega
    rw [unroll_vain h (Nat.lt_succ_self n) (fun k hk => hvain k (by omega)) htok, hleft, goOn_zero]
    simp only [Course.following, Course.laterCalls, List.map_nil, List.append_nil, Ending.later,
      Nat.add_zero, overAt]

/-- The token fires when some requests are answered, and one more is under way if it has begun. -/
theorem cancelled (h : l.Holds svc s url requested) (hj : j < n)
    (hvain : ∀ k, k < j → l.result k ≠ .ok 200) (hdone : ∀ k, k < j → l.doneAt k ≤ a)
    (ha : a < l.doneAt j) {made : Nat} (hmade : made = if l.startAt j ≤ a then j + 1 else j) :
    requestsFrom svc s url n 0 "no attempt made" requested (.due a) =
      ⟨l.requests url made, .returned a .fired
        (.error (testCancelled j), requested ++ List.replicate made url)⟩ := by
  have hdoneAt := l.doneAt_eq j
  by_cases hstart : l.startAt j ≤ a
  · rw [if_pos hstart] at hmade
    obtain ⟨text, hrun⟩ := unroll_request h hj hvain (Token.firesBefore_due hstart)
    have hcut : a - l.startAt j < l.delay j := by omega
    have hend : l.startAt j + (a - l.startAt j) = a := by omega
    rw [hrun, Token.after_due hstart, requestsFrom_cut (h.replies j) hcut, hmade, requests_succ,
      List.replicate_succ', List.append_assoc]
    simp only [Course.following, Course.laterCalls, List.map_cons, List.map_nil, Ending.later,
      Nat.add_zero, hend]
  · rw [if_neg hstart] at hmade
    -- Only behind another request does a test wait for the next one to begin.
    obtain ⟨i, rfl⟩ : ∃ i, j = i + 1 := Nat.exists_eq_succ_of_ne_zero fun hzero => by
      rw [hzero] at hstart
      exact hstart (Nat.zero_le a)
    have hi : l.doneAt i ≤ a := hdone i (Nat.lt_succ_self i)
    have hpause := l.startAt_succ i
    have hcut : a - l.doneAt i < s.reachInterval.ticks := by rw [← h.pause]; omega
    have hleft : n - i - 1 = n - i - 2 + 1 := by omega
    have hend : l.doneAt i + (a - l.doneAt i) = a := by omega
    rw [unroll_vain h (by omega) (fun k hk => hvain k (by omega)) (Token.firesBefore_due hi),
      Token.after_due hi, hleft, goOn_cut hcut, hmade]
    simp only [Course.following, Course.laterCalls, List.map_nil, List.append_nil, Ending.later, hend]

end
end Timeline

/-! ## A whole test -/

theorem testFailed_eq (url : String) (attempts : Nat) (last : String) : testFailed url attempts last =
    .message ("Failed to reach test deployment at " ++ url ++ " after " ++ Text.natText attempts ++
      " attempts, last result: " ++ last) := by
  have hliteral : " attempts, " ++ "last result: " = " attempts, last result: " := by decide
  let front := "Failed to reach test deployment at " ++ url ++ " after " ++ Text.natText attempts
  calc testFailed url attempts last
      = .message (front ++ " attempts, " ++ ("last result: " ++ last)) := rfl
    _ = .message (front ++ (" attempts, " ++ "last result: ") ++ last) := by simp only [String.append_assoc]
    _ = .message (front ++ " attempts, last result: " ++ last) := by rw [hliteral]

/-- What a test of a URL comes to on its timeline: it makes so many requests and ends at tick `t` with an
outcome. A token that is due at the very tick at which a request is answered fires after it. -/
structure Conducted (l : Timeline) (s : Settings) (url : String) (requested : List String)
    (tok : Token) (c : Course Call Tested) (t made : Nat) (outcome : Except Fault Unit) : Prop where
  calls : c.calls = l.requests url made
  /-- The requests are made one at a time, each a pause behind the answer to the one before. -/
  spaced : ∀ k, l.startAt (k + 1) = l.doneAt k + s.reachInterval.ticks
  returns : ∃ tok', c.ending = .returned t tok' (outcome, requested ++ List.replicate made url)
  limited : made ≤ s.reachAttempts
  /-- Behind the first success there is no further request. -/
  stops : ∀ k, k + 1 < made → l.result k ≠ .ok 200
  succeeds : outcome = .ok () ↔
    ∃ k, k < s.reachAttempts ∧ l.result k = .ok 200 ∧ tok.firesBefore (l.doneAt k) = false
  reached : outcome = .ok () → ∃ k, made = k + 1 ∧ l.result k = .ok 200 ∧ t = l.doneAt k
  /-- The token fires first: `j` requests are answered by then. -/
  cancelled : outcome ≠ .ok () → ∀ a, tok.time? = some a → a < l.overAt s.reachAttempts →
    t = a ∧ ∃ j, j < s.reachAttempts ∧ (∀ k, k < s.reachAttempts → (l.doneAt k ≤ a ↔ k < j)) ∧
      outcome = .error (.message ("Connection test cancelled after " ++ Text.natText j ++ " attempts"))
  /-- Neither a success nor the token ends the test early. -/
  exhausted : outcome ≠ .ok () → tok.firesBefore (l.overAt s.reachAttempts) = false →
    t = l.overAt s.reachAttempts ∧ made = s.reachAttempts ∧
      outcome = .error (.message ("Failed to reach test deployment at " ++ url ++ " after " ++
        Text.natText s.reachAttempts ++ " attempts, last result: " ++ l.lastText s.reachAttempts))

section
variable {l : Timeline} {svc : Service} {s : Settings} {host : String} {requested : List String}
  {tok : Token} {j a : Nat}

theorem conducted_reached (h : l.Holds svc s (urlOf host) requested) (hj : j < s.reachAttempts)
    (hvain : ∀ k, k < j → l.result k ≠ .ok 200) (hresult : l.result j = .ok 200)
    (htok : tok.firesBefore (l.doneAt j) = false) :
    Conducted l s (urlOf host) requested tok (testConnection svc s host requested tok) (l.doneAt j)
      (j + 1) (.ok ()) := by
  have hrun := Timeline.reached h hj hvain hresult htok
  exact
    { calls := by rw [testConnection, hrun]
      spaced := fun k => by rw [← h.pause]; exact l.startAt_succ k
      returns := ⟨tok.after (l.doneAt j), by rw [testConnection, hrun]⟩
      limited := hj
      stops := fun k hk => hvain k (by omega)
      succeeds := ⟨fun _ => ⟨j, hj, hresult, htok⟩, fun _ => rfl⟩
      reached := fun _ => ⟨j, rfl, hresult, rfl⟩
      cancelled := fun hne => absurd rfl hne
      exhausted := fun hne => absurd rfl hne }

theorem conducted_exhausted (h : l.Holds svc s (urlOf host) requested)
    (hvain : ∀ k, k < s.reachAttempts → l.result k ≠ .ok 200)
    (htok : tok.firesBefore (l.overAt s.reachAttempts) = false) :
    Conducted l s (urlOf host) requested tok (testConnection svc s host requested tok)
      (l.overAt s.reachAttempts) s.reachAttempts
      (.error (testFailed (urlOf host) s.reachAttempts (l.lastText s.reachAttempts))) := by
  have hrun := l.exhausted h hvain htok
  exact
    { calls := by rw [testConnection, hrun]
      spaced := fun k => by rw [← h.pause]; exact l.startAt_succ k
      returns := ⟨tok.after (l.overAt s.reachAttempts), by rw [testConnection, hrun]⟩
      limited := Nat.le_refl _
      stops := fun k hk => hvain k (by omega)
      succeeds := ⟨nofun, fun ⟨k, hk, hresult, _⟩ => absurd hresult (hvain k hk)⟩
      reached := nofun
      cancelled := fun _ a ha hlt => by
        have := Token.firesBefore_eq_false htok a ha
        omega
      exhausted := fun _ _ => ⟨rfl, rfl, congrArg _ (testFailed_eq ..)⟩ }

theorem conducted_cancelled (h : l.Holds svc s (urlOf host) requested) (hj : j < s.reachAttempts)
    (hvain : ∀ k, k < s.reachAttempts → l.result k = .ok 200 → a < l.doneAt k)
    (hdone : ∀ k, k < j → l.doneAt k ≤ a) (ha : a < l.doneAt j) :
    Conducted l s (urlOf host) requested (.due a) (testConnection svc s host requested (.due a)) a
      (if l.startAt j ≤ a then j + 1 else j) (.error (testCancelled j)) := by
  have hbefore : ∀ k, k < j → l.result k ≠ .ok 200 := by
    intro k hk hresult
    have hlate := hvain k (by omega) hresult
    have hearly := hdone k hk
    omega
  have hrun := Timeline.cancelled h hj hbefore hdone ha rfl
  have hlimit : (if l.startAt j ≤ a then j + 1 else j) ≤ j + 1 := by split <;> omega
  have hanswered : ∀ k, k < s.reachAttempts → (l.doneAt k ≤ a ↔ k < j) := by
    intro k _
    constructor
    · intro hk
      refine Nat.lt_of_not_le fun hjk => ?_
      have hlater := l.doneAt_mono hjk
      omega
    · exact hdone k
  have hover : l.doneAt j ≤ l.overAt s.reachAttempts := l.doneAt_le_overAt hj
  exact
    { calls := by rw [testConnection, hrun]
      spaced := fun k => by rw [← h.pause]; exact l.startAt_succ k
      returns := ⟨.fired, by rw [testConnection, hrun]⟩
      limited := by omega
      stops := fun k hk => hbefore k (by omega)
      succeeds := by
        refine ⟨nofun, fun ⟨k, hk, hresult, htok⟩ => ?_⟩
        have hlate := hvain k hk hresult
        have hearly := Token.firesBefore_eq_false htok a rfl
        omega
      reached := nofun
      cancelled := fun _ b hb _ => by
        cases hb
        exact ⟨rfl, j, hj, hanswered, rfl⟩
      exhausted := fun _ htok => by
        have := Token.firesBefore_eq_false htok a rfl
        omega }

end

/-- Whatever the hosts reply and whenever the token fires, a connection test makes its requests one by one
and a pause apart until one succeeds, the token fires or all attempts are used up, and ends right there. -/
theorem testConnection_conducted (svc : Service) (s : Settings) (host : String)
    (requested : List String) (tok : Token) (l : Timeline) (htok : tok ≠ .fired)
    (h : l.Holds svc s (urlOf host) requested) :
    ∃ t made outcome, Conducted l s (urlOf host) requested tok
      (testConnection svc s host requested tok) t made outcome := by
  by_cases hsuccess : ∃ k, k < s.reachAttempts ∧ l.result k = .ok 200 ∧
      tok.firesBefore (l.doneAt k) = false
  · -- The first success comes no later than any other, and so before the token as well.
    obtain ⟨k, hk, hresult, hinTime⟩ := hsuccess
    have hfirst : ∃ j, l.result j = .ok 200 := ⟨k, hresult⟩
    have hle : Nat.find hfirst ≤ k := Nat.find_min' hfirst hresult
    exact ⟨_, _, _, conducted_reached h (Nat.lt_of_le_of_lt hle hk)
      (fun i hi => Nat.find_min hfirst hi) (Nat.find_spec hfirst)
      (Token.firesBefore_mono (l.doneAt_mono hle) hinTime)⟩
  · have hvain : ∀ k, k < s.reachAttempts → l.result k = .ok 200 →
        tok.firesBefore (l.doneAt k) = true := by
      intro k hk hresult
      cases hlate : tok.firesBefore (l.doneAt k) with
      | true => rfl
      | false => exact absurd ⟨k, hk, hresult, hlate⟩ hsuccess
    cases hlate : tok.firesBefore (l.overAt s.reachAttempts) with
    | false =>
      refine ⟨_, _, _, conducted_exhausted h (fun k hk hresult => ?_) hlate⟩
      have hinTime := Token.firesBefore_mono (l.doneAt_le_overAt hk) hlate
      rw [hvain k hk hresult] at hinTime
      contradiction
    | true =>
      obtain ⟨a, rfl⟩ : ∃ a, tok = .due a := by
        cases tok with
        | fired => exact absurd rfl htok
        | due a => exact ⟨a, rfl⟩
        | never => cases hlate
      have hover : a < l.overAt s.reachAttempts := by simpa [Token.firesBefore] using hlate
      -- The token fires during the first request that is not answered by tick `a`, or in the pause before it.
      obtain ⟨n, hn, hlast⟩ := l.exists_lt_doneAt hover
      have hopen : ∃ j, a < l.doneAt j := ⟨n, hlast⟩
      have hj : Nat.find hopen ≤ n := Nat.find_min' hopen hlast
      refine ⟨_, _, _, conducted_cancelled h (by omega) (fun k hk hresult => ?_) (fun k hk => ?_)
        (Nat.find_spec hopen)⟩
      · simpa [Token.firesBefore] using hvain k hk hresult
      · exact Nat.le_of_not_lt (Nat.find_min hopen hk)

/-- A host that is down at first: an error, a server error, and success from then on. -/
def warmingUp : Service where
  create _ := .answers 0 (.ok ())
  delete _ := .answers 0 (.ok ())
  states := ⟨fun _ _ => .answers 0 (.ok 2), fun _ _ => .hangs⟩
  status requested _ := .answers 10 (if requested.length = 0 then .error (.message "refused")
    else if requested.length = 1 then .ok 503 else .ok 200)

/-- The timeline of a test of that host with pauses of a quarter of a second. -/
def warmingUpTimeline : Timeline where
  pause := 250
  delay _ := 10
  result k := if k = 0 then .error (.message "refused") else if k = 1 then .ok 503 else .ok 200

/-- The token fires in the pause behind the second request. -/
theorem testConnection_conducted_warmingUp :
    let s := Settings.ofImage "nginx:1.25"
    (Token.due 400 ≠ .fired) ∧ warmingUpTimeline.Holds warmingUp s (urlOf "a.example") [] ∧
      ∃ t made outcome, Conducted warmingUpTimeline s (urlOf "a.example") [] (.due 400)
        (testConnection warmingUp s "a.example" [] (.due 400)) t made outcome := by
  have hholds : warmingUpTimeline.Holds warmingUp (Settings.ofImage "nginx:1.25")
      (urlOf "a.example") [] :=
    { pause := rfl
      replies := fun k => by simp [warmingUp, warmingUpTimeline] }
  exact ⟨nofun, hholds, testConnection_conducted warmingUp (Settings.ofImage "nginx:1.25") "a.example" []
    (.due 400) warmingUpTimeline nofun hholds⟩

end Checkup.Cluster
