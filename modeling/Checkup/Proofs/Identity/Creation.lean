import Checkup.Proofs.Identity.Cleanup
import Checkup.Proofs.Identity.Failure
import Checkup.Proofs.Json.Compact
import Checkup.Proofs.Script.Frame

/-!
# Creations and the conflicts that they tolerate

A creation has come to something new if and only if its response has the status for that and a body that
tells of it, and has found something that existed if and only if its response tells of the conflict that
has the name for that. In a check, the leaf of the test user shows which of the two it was: no other step
adds a leaf of that name, and none sends the request that creates the user.

**Assumptions.** The other side does not panic, but may answer anything after any time, or never; the token
may fire at any time.

Results:
* `readCreation_classifies`: what a creation comes to, as the structure `Classifies`.
* `script_attempts`: a check tries to create the user once at most.
* `creations_named`: what the client tolerates, and what a check shows of it, as the structure `NamesConflicts`.
-/
namespace Checkup.Identity.Client

open Json Http

/-! ## The outcome of a creation -/

section
variable {α : Type} {r : Response} {name : String}

/-- The body of the response tells of this user. -/
def GivesUser (r : Response) (u : User) : Prop := ∃ s, Syntax.parseBytes? r.body = some s ∧ User.Describes s u

structure Classifies (r : Response) (name : String) (Made : α → Prop)
    (outcome : Except Fault (Creation α)) : Prop where
  created : ∀ v, outcome = .ok (.created v) ↔ r.status = 201 ∧ Made v
  existed : outcome = .ok .existed ↔ Conflicts r name
  failed : (∃ e, outcome = .error e) ↔ ¬ (r.status = 201 ∧ ∃ v, Made v) ∧ ¬ Conflicts r name

section
variable {Made : α → Prop}

/-- The three ways in which a response is classified. -/
theorem classifies_failed (e : Fault) (hmade : ¬ (r.status = 201 ∧ ∃ v, Made v))
    (hconflict : ¬ Conflicts r name) : Classifies r name Made (.error e) where
  created v := ⟨fun h => (by cases h), fun h => (hmade ⟨h.1, v, h.2⟩).elim⟩
  existed := ⟨fun h => (by cases h), fun h => (hconflict h).elim⟩
  failed := ⟨fun _ => ⟨hmade, hconflict⟩, fun _ => ⟨e, rfl⟩⟩

theorem classifies_existed (hmade : ¬ (r.status = 201 ∧ ∃ v, Made v)) (hconflict : Conflicts r name) :
    Classifies r name Made (.ok .existed) where
  created v := ⟨fun h => (by cases h), fun h => (hmade ⟨h.1, v, h.2⟩).elim⟩
  existed := ⟨fun _ => hconflict, fun _ => rfl⟩
  failed := ⟨fun ⟨_, h⟩ => (by cases h), fun h => (h.2 hconflict).elim⟩

theorem classifies_created {v : α} (hstatus : r.status = 201) (hconflict : ¬ Conflicts r name)
    (hmade : ∀ w, v = w ↔ Made w) : Classifies r name Made (.ok (.created v)) where
  created w := by
    rw [and_iff_right hstatus, ← hmade, Except.ok.injEq, Creation.created.injEq]
  existed := ⟨fun h => (by cases h), fun h => (hconflict h).elim⟩
  failed := ⟨fun ⟨_, h⟩ => (by cases h), fun h => (h.1 ⟨hstatus, v, (hmade v).mp rfl⟩).elim⟩

end

theorem readCreation_classifies {created : Response → Except Fault α} {Made : α → Prop}
    (hname : Distinct name) (hcreated : ∀ v, created r = .ok v ↔ Made v) :
    Classifies r name Made (readCreation name created r) := by
  by_cases hstatus : r.status = 201
  · have hconflict : ¬ Conflicts r name := fun h => absurd (hstatus.symm.trans h.1) (by decide)
    rw [readCreation, if_pos hstatus]
    cases hr : created r with
    | error e =>
      have hmade (v : α) : ¬ Made v := fun hv => by cases hr.symm.trans ((hcreated v).mpr hv)
      exact classifies_failed e (fun h => h.2.elim hmade) hconflict
    | ok v =>
      have hmade (w : α) : v = w ↔ Made w := by rw [← hcreated, hr, Except.ok.injEq]
      exact classifies_created hstatus hconflict hmade
  · have hnone : ¬ (r.status = 201 ∧ ∃ v, Made v) := fun h => hstatus h.1
    by_cases hconflict : Conflicts r name
    · rw [readCreation, if_neg hstatus]
      dsimp only
      rw [if_pos ((conflicts_iff hname).mp hconflict)]
      exact classifies_existed hnone hconflict
    · rw [readCreation_refused hname hstatus hconflict]
      exact classifies_failed _ hnone hconflict

theorem userCreation_classifies (r : Response) : Classifies r "scim_resource_already_exists" (GivesUser r)
    (readCreation "scim_resource_already_exists" (·.decode User.ofSyntax?) r) :=
  readCreation_classifies distinct_userExists fun _ => decode_eq_ok fun _ _ => User.ofSyntax?_eq_some

theorem memberCreation_classifies (r : Response) : Classifies r "member_already_exists" (fun _ => True)
    (readCreation "member_already_exists" (fun _ => .ok ()) r) :=
  readCreation_classifies distinct_memberExists fun _ => ⟨fun _ => trivial, fun _ => rfl⟩

end

/-! ## Leaves -/

/-- The leaf has passed and shows that the user existed. -/
def ShowsConflict (leaf : Node) : Prop := leaf.passed = true ∧ leaf.statusCode = some conflict

/-- The leaf has passed and shows no status code. -/
def ShowsPlain (leaf : Node) : Prop := leaf.passed = true ∧ leaf.statusCode = none

section
variable {α : Type} {label : String} {outcome : Except Fault (Creation α)}

theorem creationLeaf_name : (creationLeaf label outcome).name = label := by
  match outcome with
  | .ok .existed | .ok (.created _) => rfl
  | .error e => exact (Node.ofFault_leaf label e).1

theorem creationLeaf_failed (e : Fault) :
    (creationLeaf label (.error e : Except Fault (Creation α))).passed = false :=
  (Node.ofFault_leaf label e).2.1

theorem showsConflict_creationLeaf :
    ShowsConflict (creationLeaf label outcome) ↔ outcome = .ok .existed := by
  match outcome with
  | .ok .existed => exact ⟨fun _ => rfl, fun _ => ⟨rfl, rfl⟩⟩
  | .ok (.created _) => exact ⟨fun h => (by cases h.2), nofun⟩
  | .error e => exact ⟨fun h => (by cases (creationLeaf_failed e).symm.trans h.1), nofun⟩

theorem showsPlain_creationLeaf :
    ShowsPlain (creationLeaf label outcome) ↔ ∃ v, outcome = .ok (.created v) := by
  match outcome with
  | .ok .existed => exact ⟨fun h => (by cases h.2), nofun⟩
  | .ok (.created v) => exact ⟨fun _ => ⟨v, rfl⟩, fun _ => ⟨rfl, rfl⟩⟩
  | .error e => exact ⟨fun h => (by cases (creationLeaf_failed e).symm.trans h.1), nofun⟩

end

/-! ## The request that creates the user -/

section
variable {t : Transport} {s : Settings} {q : Request} {bearer : String}

/-- The request is one to create the test user. -/
def IsCreation (s : Settings) (q : Request) : Prop :=
  ∃ bearer, Asks s (.createUser bearer testUser testPassword) q

/-- A creation bears the test user in its body, and says so. -/
theorem IsCreation.body (h : IsCreation s q) : q.body = some (userJson testUser testPassword).text := by
  obtain ⟨bearer, -, u, -, rfl⟩ := h
  rfl

theorem IsCreation.headers (h : IsCreation s q) : ∃ bearer : String, q.headers =
    [("accept", "application/json"), ("authorization", "Bearer " ++ bearer),
      ("content-type", "application/json")] := by
  obtain ⟨bearer, -, u, -, rfl⟩ := h
  exact ⟨bearer, rfl⟩

theorem not_isCreation_of_body (h : q.body = none) : ¬ IsCreation s q := fun hq => by
  cases h.symm.trans hq.body

theorem scimRequest_notCreation {method : Method} {path : String}
    (h : scimRequest s method path bearer = .ok q) : ¬ IsCreation s q := by
  obtain ⟨u, -, -, -, rfl⟩ := scimRequest_eq_ok.mp h
  exact not_isCreation_of_body rfl

theorem findRequest_notCreation {user : String} (h : findRequest s bearer user = .ok q) :
    ¬ IsCreation s q := by
  obtain ⟨r, hr, rfl⟩ := findRequest_eq_ok.mp h
  obtain ⟨u, -, -, -, rfl⟩ := scimRequest_eq_ok.mp hr
  exact not_isCreation_of_body rfl

theorem authorizeRequest_notCreation (h : authorizeRequest s bearer = .ok q) : ¬ IsCreation s q := by
  obtain ⟨u, -, -, -, rfl⟩ := authorizeRequest_eq_ok.mp h
  exact not_isCreation_of_body rfl

theorem tokenRequest_notCreation {form : List (String × String)} (h : tokenRequest s form = .ok q) :
    ¬ IsCreation s q := by
  obtain ⟨u, -, -, rfl⟩ := tokenRequest_eq_ok.mp h
  intro hq
  obtain ⟨bearer, hheaders⟩ := hq.headers
  simp at hheaders

theorem memberRequest_notCreation {group user : String} (h : memberRequest s bearer group user = .ok q) :
    ¬ IsCreation s q := by
  obtain ⟨r, -, rfl⟩ := memberRequest_eq_ok.mp h
  intro hq
  have htext : (memberJson user).text = (userJson testUser testPassword).text := Option.some.inj hq.body
  have hspelled := congrArg Syntax.parse? htext
  rw [parse?_text, parse?_text] at hspelled
  simp [memberJson, userJson, Value.spelled, spelledMembers] at hspelled

end

/-! ## A check creates the user once at most -/

section
variable {t : Transport} {s : Settings} {α : Type}

theorem requestTimeout_fits : fitsClock 0 requestTimeout = true := by decide +kernel

/-- The part of a script adds no leaf of the test user, and sends no request to create it. -/
def Spares (s : Settings) (x : Script Request α) : Prop :=
  x.Adds (¬ IsCreation s ·) (·.name ≠ "Create local user")

theorem spares_exchange (ht : t.Calm) {request : Except Fault Request} {read : Response → Except Fault α}
    (hrequest : ∀ q, request = .ok q → ¬ IsCreation s q) :
    Timed.Only (¬ IsCreation s ·) (exchange t requestTimeout request read) :=
  exchange_only ht requestTimeout_fits hrequest

theorem spares_step {label : String} {x : Timed Request (Except Fault α)}
    (hx : Timed.Only (¬ IsCreation s ·) x) (hlabel : label ≠ "Create local user") :
    Spares s (Script.step label x) :=
  Script.adds_step hx fun _ hname => hname ▸ hlabel

theorem codeToken_spares (ht : t.Calm) (userToken : String) :
    Timed.Only (¬ IsCreation s ·) ((provider t s).codeToken userToken) := by
  dsimp only [provider, codeToken]
  refine (spares_exchange ht fun _ => authorizeRequest_notCreation).bind fun outcome => ?_
  cases outcome with
  | error e => exact Timed.only_pure _
  | ok code => exact spares_exchange ht fun _ => tokenRequest_notCreation

theorem userOf_spares (ht : t.Calm) (token : String) (creation : Creation User) :
    Spares s (userOf (provider t s) token creation) := by
  cases creation with
  | created user => exact Script.adds_pure user
  | existed =>
    dsimp only [userOf, provider]
    exact spares_step (spares_exchange ht fun _ => findRequest_notCreation) (by decide)

theorem exercise_spares (ht : t.Calm) (token : String) (user : User) :
    Spares s (exercise (provider t s) token user) := by
  have hgrants : Spares s (do
      let userToken ← Script.step "Resource owner password credentials grant"
        ((provider t s).passwordToken testUser testPassword)
      let _ ← Script.step "Authorization code grant" ((provider t s).codeToken userToken)) := by
    refine Script.Adds.bind ?password fun userToken => Script.Adds.bind ?code fun _ => Script.adds_pure ()
    case password =>
      dsimp only [provider]
      exact spares_step (spares_exchange ht fun _ => tokenRequest_notCreation) (by decide)
    case code => exact spares_step (codeToken_spares ht userToken) (by decide)
  have hgroups : Spares s (Script.step "Get local groups/scopes" ((provider t s).listGroups token)) := by
    dsimp only [provider]
    exact spares_step (spares_exchange ht fun _ => scimRequest_notCreation) (by decide)
  refine Script.Adds.bind hgroups fun groups => ?_
  cases groups.find? (·.displayName == testGroup) with
  | none => exact Script.Adds.bind (Script.adds_fail fun _ hname => hname ▸ by decide) fun _ => hgrants
  | some group =>
    have hmember : Spares s (creationStep "Add local user to group"
        ((provider t s).addMember token group.id user.id)) := by
      dsimp only [provider]
      exact Script.adds_recorded (creationStep_run _ _)
        (spares_exchange ht fun _ => memberRequest_notCreation) fun _ => creationLeaf_name ▸ by decide
    exact Script.Adds.bind hmember fun _ => hgrants

/-- The ways in which a check can try to create the user. -/
inductive Attempted (t : Transport) (s : Settings) : List Request → List Node → Prop where
  | unauthorized {called : List Request} {leaves : List Node} : (∀ q ∈ called, ¬ IsCreation s q) →
      (∀ leaf ∈ leaves, leaf.name ≠ "Create local user") → Attempted t s called leaves
  | tried {bearer : String} {before asked after : List Request} {front back : List Node}
      {outcome : Except Fault (Creation User)} : (∀ q ∈ before ++ after, ¬ IsCreation s q) →
      (∀ leaf ∈ front ++ back, leaf.name ≠ "Create local user") →
      Concludes t requestTimeout (createRequest s bearer testUser testPassword)
        (readCreation "scim_resource_already_exists" (·.decode User.ofSyntax?)) asked outcome →
      Attempted t s (before ++ (asked ++ after)) (front ++ (creationLeaf "Create local user" outcome :: back))

/-- What follows the creation. -/
theorem aftermath_spares (ht : t.Calm) (token : String) (creation : Creation User) : Spares s (do
    let user ← userOf (provider t s) token creation
    let _ ← Script.attempt (exercise (provider t s) token user)
    Script.step "Delete local user" ((provider t s).deleteUser token user.id)) := by
  refine Script.Adds.bind (userOf_spares ht token creation) fun user =>
    Script.Adds.bind (exercise_spares ht token user).attempt fun _ => ?_
  dsimp only [provider]
  exact spares_step (spares_exchange ht fun _ => scimRequest_notCreation) (by decide)

theorem script_attempts (ht : t.Calm) :
    (script (provider t s)).Ensures .empty fun called _ log => Attempted t s called log.leaves := by
  have hfirst : Spares s (Script.step "Client credentials grant" (provider t s).clientToken) := by
    dsimp only [provider]
    exact spares_step (spares_exchange ht fun _ => tokenRequest_notCreation) (by decide)
  have hcreate (token : String) : ((provider t s).createUser token testUser testPassword).Ensures
      (Concludes t requestTimeout (createRequest s token testUser testPassword)
        (readCreation "scim_resource_already_exists" (·.decode User.ofSyntax?))) := by
    dsimp only [provider]
    exact exchange_ensures ht requestTimeout_fits
  refine (hfirst .empty).bind (fun before log h => ?unauthorized) fun before token log h => ?_
  case unauthorized =>
    obtain ⟨hbefore, front, hlog, hfront⟩ := h
    rw [show log.leaves = front from hlog]
    exact .unauthorized hbefore hfront
  obtain ⟨hbefore, front, hlog, hfront⟩ := h
  refine (Script.ensures_recorded (creationStep_run _ _) (hcreate token) log).bind
    (fun asked log' h => ?failed) fun asked creation log' h => ?_
  case failed =>
    obtain ⟨outcome, hasked, -, rfl⟩ := h
    rw [StepLog.leaves_record, show log.leaves = front from hlog, ← List.append_nil asked]
    exact .tried (by rwa [List.append_nil]) (by rwa [List.append_nil]) hasked
  obtain ⟨outcome, hasked, -, rfl⟩ := h
  refine (aftermath_spares ht token creation _).mono fun after _ log'' h => ?_
  obtain ⟨hafter, back, hlog'', hback⟩ := h
  rw [hlog'', StepLog.leaves_record, show log.leaves = front from hlog, List.append_assoc]
  refine .tried (fun q hq => ?_) (fun leaf hleaf => ?_) hasked
  · exact (List.mem_append.mp hq).elim (hbefore q) (hafter q)
  · exact (List.mem_append.mp hleaf).elim (hfront leaf) (hback leaf)

/-! ## What a check shows of the creation -/

/-- The request to create the user was answered in time with a response of this kind. -/
def Received (t : Transport) (s : Settings) (called : List Request) (Kind : Response → Prop) : Prop :=
  ∃ q ∈ called, IsCreation s q ∧ ∃ d r, t.Answers requestTimeout q d r ∧ Kind r

/-- What the leaves of a check say of the creation of the test user. -/
structure Shows (t : Transport) (s : Settings) (called : List Request) (leaves : List Node) : Prop where
  existed : (∃ leaf ∈ leaves, leaf.name = "Create local user" ∧ ShowsConflict leaf) ↔
    Received t s called (Conflicts · "scim_resource_already_exists")
  created : (∃ leaf ∈ leaves, leaf.name = "Create local user" ∧ ShowsPlain leaf) ↔
    Received t s called fun r => r.status = 201 ∧ ∃ u, GivesUser r u

/-- Among leaves of which one alone has the name, it is that one that shows something. -/
theorem exists_named_iff {front back : List Node} {leaf : Node} {label : String} {Shown : Node → Prop}
    (hleaf : leaf.name = label) (hothers : ∀ u ∈ front ++ back, u.name ≠ label) :
    (∃ u ∈ front ++ leaf :: back, u.name = label ∧ Shown u) ↔ Shown leaf := by
  constructor
  · rintro ⟨u, hmem, hname, hshown⟩
    rcases List.mem_append.mp hmem with hmem | hmem
    · exact (hothers u (List.mem_append_left _ hmem) hname).elim
    rcases List.mem_cons.mp hmem with rfl | hmem
    · exact hshown
    · exact (hothers u (List.mem_append_right _ hmem) hname).elim
  · exact fun h => ⟨leaf, List.mem_append_right _ List.mem_cons_self, hleaf, h⟩

/-- Requests that are no creation make no difference to what was received for one. -/
theorem received_append_iff {before asked after : List Request} {Kind : Response → Prop}
    (hothers : ∀ q ∈ before ++ after, ¬ IsCreation s q) :
    Received t s (before ++ (asked ++ after)) Kind ↔ Received t s asked Kind := by
  constructor
  · rintro ⟨q, hmem, hq, hr⟩
    rcases List.mem_append.mp hmem with hmem | hmem
    · exact (hothers q (List.mem_append_left _ hmem) hq).elim
    rcases List.mem_append.mp hmem with hmem | hmem
    · exact ⟨q, hmem, hq, hr⟩
    · exact (hothers q (List.mem_append_right _ hmem) hq).elim
  · rintro ⟨q, hmem, hq, hr⟩
    exact ⟨q, List.mem_append_right _ (List.mem_append_left _ hmem), hq, hr⟩

section
variable {called : List Request} {leaves : List Node} {Shown : Node → Prop} {Kind : Response → Prop}
  (hfailed : ∀ e, ¬ Shown (creationLeaf "Create local user" (.error e : Except Fault (Creation User))))
  (hread : ∀ r, Shown (creationLeaf "Create local user"
    (readCreation "scim_resource_already_exists" (·.decode User.ofSyntax?) r)) ↔ Kind r)
include hfailed hread

/-- The leaf of a creation shows what was received for its request. -/
theorem creation_shows_iff {bearer : String} {asked : List Request} {outcome : Except Fault (Creation User)}
    (h : Concludes t requestTimeout (createRequest s bearer testUser testPassword)
      (readCreation "scim_resource_already_exists" (·.decode User.ofSyntax?)) asked outcome) :
    Shown (creationLeaf "Create local user" outcome) ↔ Received t s asked Kind := by
  cases h with
  | unsent => exact ⟨fun h => (hfailed _ h).elim, fun ⟨q, hmem, _⟩ => nomatch hmem⟩
  | @answered q d r hrequest hanswers =>
    have hcreation : IsCreation s q :=
      ⟨bearer, (firstRequest_eq_ok (c := .createUser ..)).mp (outgoing_eq_ok.mp hrequest).1⟩
    rw [hread]
    constructor
    · exact fun hr => ⟨q, List.mem_singleton_self q, hcreation, d, r, hanswers, hr⟩
    · rintro ⟨q', hmem, -, d', r', hanswers', hr⟩
      rw [List.mem_singleton.mp hmem] at hanswers'
      rwa [hanswers.unique hanswers']
  | unanswered hrequest hnone =>
    refine ⟨fun h => (hfailed _ h).elim, ?_⟩
    rintro ⟨q', hmem, -, d, r, hanswers, -⟩
    rw [List.mem_singleton.mp hmem] at hanswers
    exact (hnone d r hanswers).elim

/-- The leaf of the user is that of the creation, and the request for it that of the creation. -/
theorem Attempted.shows_iff (h : Attempted t s called leaves) :
    (∃ leaf ∈ leaves, leaf.name = "Create local user" ∧ Shown leaf) ↔ Received t s called Kind := by
  cases h with
  | unauthorized hcalled hleaves =>
    exact ⟨fun ⟨leaf, hmem, hname, _⟩ => (hleaves leaf hmem hname).elim,
      fun ⟨q, hmem, hq, _⟩ => (hcalled q hmem hq).elim⟩
  | tried hcalled hleaves hasked =>
    rw [exists_named_iff creationLeaf_name hleaves, received_append_iff hcalled]
    exact creation_shows_iff hfailed hread hasked

end

variable {called : List Request} {leaves : List Node}

theorem Attempted.shows (h : Attempted t s called leaves) : Shows t s called leaves where
  existed := h.shows_iff (fun e => by rw [showsConflict_creationLeaf]; exact nofun) fun r => by
    rw [showsConflict_creationLeaf, (userCreation_classifies r).existed]
  created := h.shows_iff (fun e => by rw [showsPlain_creationLeaf]; exact nofun) fun r => by
    rw [showsPlain_creationLeaf, ← exists_and_left]
    exact exists_congr (userCreation_classifies r).created

/-- Only the conflicts with these names are tolerated, and a check shows whether the user was created or
existed. -/
structure NamesConflicts (t : Transport) (s : Settings) : Prop where
  /-- The request to create a user is sent at once if it can be built, and nothing else. -/
  userSent : ∀ bearer user password tok k q,
    (k, q) ∈ ((provider t s).createUser bearer user password tok).calls ↔
    k = 0 ∧ Asks s (.createUser bearer user password) q ∧ isSendable q.url = true
  users : ∀ bearer user password tok k q d r,
    (k, q) ∈ ((provider t s).createUser bearer user password tok).calls → t.Answers requestTimeout q d r →
      ∃ outcome, EndsAt ((provider t s).createUser bearer user password tok) (k + d) outcome ∧
        Classifies r "scim_resource_already_exists" (GivesUser r) outcome
  /-- So is the request to add a member. -/
  memberSent : ∀ bearer group user tok k q, (k, q) ∈ ((provider t s).addMember bearer group user tok).calls ↔
    k = 0 ∧ Asks s (.addMember bearer group user) q ∧ isSendable q.url = true
  members : ∀ bearer group user tok k q d r,
    (k, q) ∈ ((provider t s).addMember bearer group user tok).calls → t.Answers requestTimeout q d r →
      ∃ outcome, EndsAt ((provider t s).addMember bearer group user tok) (k + d) outcome ∧
        Classifies r "member_already_exists" (fun _ => True) outcome
  shown : (probe (provider t s)).run.Ensures fun called node => ∃ leaves,
    node = Node.aggregate key name leaves ∧ Shows t s called leaves

/-- An exchange for the first request of an operation sends that and nothing else. -/
theorem mem_calls_iff_asks {α : Type} {read : Response → Except Fault α} (c : Call) {tok : Token} {k : Nat}
    {q : Request} : (k, q) ∈ (exchange t requestTimeout (firstRequest s c) read tok).calls ↔
      k = 0 ∧ Asks s c q ∧ isSendable q.url = true := by
  rw [mem_exchange_calls, outgoing_eq_ok, firstRequest_eq_ok]

theorem creations_named (ht : t.Calm) (s : Settings) : NamesConflicts t s where
  userSent bearer user password _ _ _ := mem_calls_iff_asks (.createUser bearer user password)
  users bearer user password tok k q d r hcall hanswers := by
    dsimp only [provider] at hcall ⊢
    exact ⟨_, exchange_endsAt hcall hanswers, userCreation_classifies r⟩
  memberSent bearer group user _ _ _ := mem_calls_iff_asks (.addMember bearer group user)
  members bearer group user tok k q d r hcall hanswers := by
    dsimp only [provider] at hcall ⊢
    exact ⟨_, exchange_endsAt hcall hanswers, memberCreation_classifies r⟩
  shown := by
    refine (((script_attempts ht).node key name).mono fun called node h => ?_).shielded
    obtain ⟨log, hattempted, rfl⟩ := h
    exact ⟨log.leaves, rfl, hattempted.shows⟩

/-- A response that tells of an error by its name. -/
def named (status : UInt16) (error : String) : Response :=
  ⟨status, [], Text.Utf8.encode ("\x7b\"error\":\"" ++ error ++ "\"\x7d").toList⟩

/-- A zone with a test user that is left over from an earlier check, and was a member of the group. -/
def leftover : Transport := fun q => .answers 1 (.ok
  (if q.body = some (userJson testUser testPassword).text then named 409 "scim_resource_already_exists"
  else if q.body = some (memberJson "u").text then named 409 "member_already_exists"
  else ⟨200, [], Text.Utf8.encode "\x7b\"access_token\":\"a\"\x7d".toList⟩))

/-- The leaves of a run that has come to its end. -/
def endLeaves : Ending Node → List Node
  | .returned _ _ node => node.children
  | _ => []

theorem creations_named_leftover : leftover.Calm ∧ NamesConflicts leftover localZone ∧
    (∃ leaf ∈ endLeaves ((probe (provider leftover localZone)).run .never).ending,
      leaf.name = "Create local user" ∧ ShowsConflict leaf) ∧
    EndsAt ((provider leftover localZone).addMember "t" "g" "u" .never) 1 (.ok .existed) := by
  have hcalm : leftover.Calm := fun q d p h => by cases h
  have hnames := creations_named hcalm localZone
  have hleaf : (endLeaves ((probe (provider leftover localZone)).run .never).ending).any
      (fun leaf => leaf.name == "Create local user" && (leaf.passed && leaf.statusCode == some conflict)) =
        true := by
    decide +kernel
  obtain ⟨leaf, hmem, hleaf⟩ := List.any_eq_true.mp hleaf
  simp only [Bool.and_eq_true, beq_iff_eq] at hleaf
  refine ⟨hcalm, hnames, ⟨leaf, hmem, hleaf⟩, ?_⟩
  -- The request is sent, and its response tells of the conflict.
  obtain ⟨q, hrequest⟩ := exists_eq_ok (x := outgoing (memberRequest localZone "t" "g" "u")) (by decide +kernel)
  have hcall : (0, q) ∈ ((provider leftover localZone).addMember "t" "g" "u" .never).calls :=
    mem_exchange_calls.mpr ⟨rfl, hrequest⟩
  obtain ⟨-, ⟨-, u, -, hq⟩, -⟩ := (hnames.memberSent ..).mp hcall
  have hother : ¬ some (memberJson "u").text = some (userJson testUser testPassword).text := by decide +kernel
  have hanswers : leftover.Answers requestTimeout q 1 (named 409 "member_already_exists") := by
    refine ⟨?_, by decide⟩
    simp only [leftover, hq, if_neg hother, if_pos]
  have hconflict : Conflicts (named 409 "member_already_exists") "member_already_exists" :=
    (conflicts_iff distinct_memberExists).mpr ⟨rfl, by decide +kernel⟩
  obtain ⟨outcome, hends, hclassifies⟩ := hnames.members "t" "g" "u" .never 0 q 1 _ hcall hanswers
  rwa [hclassifies.existed.mpr hconflict, Nat.zero_add] at hends

end

end Checkup.Identity.Client
