import Checkup.Identity.Probe
import Checkup.Proofs.Script.Contract

/-!
# What becomes of the test user

A check of an identity provider has three parts: it gets hold of the user, exercises it, and deletes it.
The first two stop at the first step that fails; the last is done whenever the first has come to a user.
`Opened` and `Exercised` list the ways in which the first two parts can go, with their calls, and each
call leaves the leaf that `Behaviour.leaf?` has for its reply.

**Assumptions.** Every call comes back with a value or an error, after any time (`Behaviour.Settles`). The
reply may be another one for other arguments; no call is made twice, so it need not depend on more. The
token may fire at any time.

Results:
* `open_ensures` and `exercise_ensures`: the first two parts go in one of the listed ways.
* `Opened.known`, `Opened.upToFailure`, `Exercised.upToFailure` and `Exercised.adds`: what holds of all
  ways.
* `probe_cleansUp`: the calls and the leaves of the whole check, as the structure `CleansUp`.
-/
namespace Checkup.Identity

structure Behaviour where
  clientToken : Reply String
  createUser : (token user password : String) → Reply (Creation User)
  findUser : (token user : String) → Reply User
  listGroups : (token : String) → Reply (List Group)
  addMember : (token group user : String) → Reply (Creation Unit)
  passwordToken : (user password : String) → Reply String
  codeToken : (userToken : String) → Reply String
  deleteUser : (token user : String) → Reply Unit

/-- The leaf of a creation. -/
def creationLeaf {α : Type} (label : String) : Except Fault (Creation α) → Node
  | .ok .existed => (Node.pass label).withStatusCode conflict
  | outcome => .ofOutcome label outcome

/-- The leaf that says that there is no group to add the user to. -/
def missingGroup : Node :=
  .fail "Add local user to group" (shownError s!"Group {testGroup} not found")

/-- The leaf that a reply leaves, if it comes. -/
@[simp] def leafOf? {α : Type} (leaf : Except Fault α → Node) : Reply α → Option Node
  | .answers _ result => some (leaf result)
  | _ => none

namespace Behaviour

def provider (b : Behaviour) : Provider Call where
  clientToken := Timed.call .clientToken b.clientToken
  createUser token user password :=
    Timed.call (.createUser token user password) (b.createUser token user password)
  findUser token user := Timed.call (.findUser token user) (b.findUser token user)
  listGroups token := Timed.call (.listGroups token) (b.listGroups token)
  addMember token group user := Timed.call (.addMember token group user) (b.addMember token group user)
  passwordToken user password :=
    Timed.call (.passwordToken user password) (b.passwordToken user password)
  codeToken userToken := Timed.call (.codeToken userToken) (b.codeToken userToken)
  deleteUser token user := Timed.call (.deleteUser token user) (b.deleteUser token user)

/-- Every call comes back with a value or an error. -/
structure Settles (b : Behaviour) : Prop where
  clientToken : b.clientToken.Returns
  createUser : ∀ token user password, (b.createUser token user password).Returns
  findUser : ∀ token user, (b.findUser token user).Returns
  listGroups : ∀ token, (b.listGroups token).Returns
  addMember : ∀ token group user, (b.addMember token group user).Returns
  passwordToken : ∀ user password, (b.passwordToken user password).Returns
  codeToken : ∀ userToken, (b.codeToken userToken).Returns
  deleteUser : ∀ token user, (b.deleteUser token user).Returns

/-- The client has this token, and its test user existed already. -/
def Conflicts (b : Behaviour) (token : String) : Prop :=
  b.clientToken.Yields token ∧ (b.createUser token testUser testPassword).Yields .existed

/-- The client has this token, and its test user was created as this one, or it existed and was found to
be this one. -/
def Knows (b : Behaviour) (token : String) (user : User) : Prop :=
  (b.clientToken.Yields token ∧ (b.createUser token testUser testPassword).Yields (.created user)) ∨
    (b.Conflicts token ∧ (b.findUser token testUser).Yields user)

/-- The leaf that a call leaves. -/
@[simp] def leaf? (b : Behaviour) : Call → Option Node
  | .clientToken => leafOf? (.ofOutcome "Client credentials grant") b.clientToken
  | .createUser token user password =>
    leafOf? (creationLeaf "Create local user") (b.createUser token user password)
  | .findUser token user => leafOf? (.ofOutcome "Get local user") (b.findUser token user)
  | .listGroups token => leafOf? (.ofOutcome "Get local groups/scopes") (b.listGroups token)
  | .addMember token group user =>
    leafOf? (creationLeaf "Add local user to group") (b.addMember token group user)
  | .passwordToken user password =>
    leafOf? (.ofOutcome "Resource owner password credentials grant") (b.passwordToken user password)
  | .codeToken userToken => leafOf? (.ofOutcome "Authorization code grant") (b.codeToken userToken)
  | .deleteUser token user => leafOf? (.ofOutcome "Delete local user") (b.deleteUser token user)

/-- The call found a conflict and tolerates it. -/
def Tolerates (b : Behaviour) : Call → Prop
  | .createUser token user password => (b.createUser token user password).Yields .existed
  | .addMember token group user => (b.addMember token group user).Yields .existed
  | _ => False

end Behaviour

/-- The group is the first of the list that has the name of the test group. -/
def FirstOf (groups : List Group) (group : Group) : Prop :=
  ∃ before after, groups = before ++ group :: after ∧ group.displayName = testGroup ∧
    ∀ g ∈ before, g.displayName ≠ testGroup

/-- The ways to get hold of the user: the calls, and the token and the user if they are known. -/
inductive Opened (b : Behaviour) : List Call → Option (String × User) → Prop where
  | refused : b.clientToken.Fails → Opened b [.clientToken] none
  | uncreated {token : String} : b.clientToken.Yields token →
      (b.createUser token testUser testPassword).Fails →
        Opened b [.clientToken, .createUser token testUser testPassword] none
  | created {token : String} {user : User} : b.clientToken.Yields token →
      (b.createUser token testUser testPassword).Yields (.created user) →
        Opened b [.clientToken, .createUser token testUser testPassword] (some (token, user))
  | unfound {token : String} : b.Conflicts token → (b.findUser token testUser).Fails →
      Opened b [.clientToken, .createUser token testUser testPassword, .findUser token testUser] none
  | found {token : String} {user : User} : b.Conflicts token →
      (b.findUser token testUser).Yields user →
        Opened b [.clientToken, .createUser token testUser testPassword, .findUser token testUser]
          (some (token, user))

/-- The ways to exercise the user: the calls, and the leaf that no call leaves. -/
inductive Exercised (b : Behaviour) (token : String) (user : User) :
    List Call → List Node → Prop where
  | unlisted : (b.listGroups token).Fails → Exercised b token user [.listGroups token] []
  | ungrouped {groups : List Group} : (b.listGroups token).Yields groups →
      (∀ g ∈ groups, g.displayName ≠ testGroup) →
        Exercised b token user [.listGroups token] [missingGroup]
  | unadded {groups : List Group} {group : Group} : (b.listGroups token).Yields groups →
      FirstOf groups group → (b.addMember token group.id user.id).Fails →
        Exercised b token user [.listGroups token, .addMember token group.id user.id] []
  | ungranted {groups : List Group} {group : Group} {added : Creation Unit} :
      (b.listGroups token).Yields groups → FirstOf groups group →
      (b.addMember token group.id user.id).Yields added →
      (b.passwordToken testUser testPassword).Fails →
        Exercised b token user [.listGroups token, .addMember token group.id user.id,
          .passwordToken testUser testPassword] []
  | granted {groups : List Group} {group : Group} {added : Creation Unit} {userToken : String} :
      (b.listGroups token).Yields groups → FirstOf groups group →
      (b.addMember token group.id user.id).Yields added →
      (b.passwordToken testUser testPassword).Yields userToken →
        Exercised b token user [.listGroups token, .addMember token group.id user.id,
          .passwordToken testUser testPassword, .codeToken userToken] []

inductive Ran (b : Behaviour) : List Call → List Node → Prop where
  | unknown {opening : List Call} : Opened b opening none → Ran b opening (opening.filterMap b.leaf?)
  | known {opening middle : List Call} {token : String} {user : User} {extra : List Node} :
      Opened b opening (some (token, user)) → Exercised b token user middle extra →
        Ran b (opening ++ (middle ++ [.deleteUser token user.id]))
          (opening.filterMap b.leaf? ++ ((middle.filterMap b.leaf? ++ extra) ++
            [.deleteUser token user.id].filterMap b.leaf?))

/-- The leaves of the parts of a check: those to get hold of the user, those to exercise it, and that of
its deletion. -/
structure Parts (b : Behaviour) (opening middle closing : List Node) : Prop where
  /-- The user is looked up only if it existed already. -/
  fresh : (∀ token, ¬ b.Conflicts token) →
    UpToFailure ["Client credentials grant", "Create local user"] opening
  existed : ∀ token, b.Conflicts token →
    UpToFailure ["Client credentials grant", "Create local user", "Get local user"] opening
  exercised : ∀ token user, b.Knows token user →
    UpToFailure ["Get local groups/scopes", "Add local user to group",
      "Resource owner password credentials grant", "Authorization code grant"] middle
  deleted : ∀ token user, b.Knows token user → ∃ leaf, closing = [leaf] ∧
    leaf.name = "Delete local user" ∧ b.leaf? (.deleteUser token user.id) = some leaf
  unknown : (∀ token user, ¬ b.Knows token user) → middle = [] ∧ closing = []

structure CleansUp (b : Behaviour) (called : List Call) (leaves : List Node) : Prop where
  /-- A user is deleted if and only if one is known, -/
  deletes : (∃ token id, .deleteUser token id ∈ called) ↔ ∃ token user, b.Knows token user
  /-- once and at the end, with the token of the client and by the identifier of the user. -/
  deletesLast : ∀ token user, b.Knows token user → ∃ before,
    called = before ++ [.deleteUser token user.id] ∧ ∀ t id, .deleteUser t id ∉ before
  /-- The leaves are those of the three parts. -/
  parts : ∃ opening middle closing, leaves = opening ++ (middle ++ closing) ∧
    Parts b opening middle closing
  /-- Only the deletion follows a leaf that failed. -/
  stops : leaves.Pairwise fun earlier later =>
    earlier.passed = true ∨ later.name = "Delete local user"
  /-- Each call leaves its leaf, in their order, -/
  recorded : (called.filterMap b.leaf?).Sublist leaves
  /-- and the only other leaf is the one for a group that is missing. -/
  others : ∀ leaf ∈ leaves, leaf ∈ called.filterMap b.leaf? ∨ leaf = missingGroup
  /-- A conflict that is tolerated gives a leaf that passed, with its status code; -/
  conflicts : ∀ c ∈ called, b.Tolerates c → ∃ leaf ∈ leaves, b.leaf? c = some leaf ∧
    leaf.passed = true ∧ leaf.statusCode = some conflict
  /-- no other leaf that passed has a status code. -/
  plain : ∀ leaf ∈ leaves, leaf.passed = true → leaf.statusCode = none ∨
    ∃ c ∈ called, b.Tolerates c ∧ b.leaf? c = some leaf
  /-- A user is added to a group if and only if a known one meets a group of that name, -/
  adds : (∃ token group id, .addMember token group id ∈ called) ↔
    ∃ token user groups, b.Knows token user ∧ (b.listGroups token).Yields groups ∧
      ∃ group ∈ groups, group.displayName = testGroup
  /-- and then to the first of them. -/
  addsToFirst : ∀ token id userId, .addMember token id userId ∈ called → ∃ user groups group,
    b.Knows token user ∧ userId = user.id ∧ (b.listGroups token).Yields groups ∧
      FirstOf groups group ∧ id = group.id
  /-- The authorization is asked for with the token that the password gave. -/
  authorizes : ∀ userToken, .codeToken userToken ∈ called →
    .passwordToken testUser testPassword ∈ called ∧
      (b.passwordToken testUser testPassword).Yields userToken

variable {b : Behaviour} {token : String} {user : User}

/-! ## Leaves -/

theorem settleCreation_eq {α : Type} (log : StepLog) (label : String)
    (r : Except Fault (Creation α)) :
    settleCreation log label r = (r.toOption, log.record (creationLeaf label r)) := by
  match r with
  | .ok .existed | .ok (.created _) | .error _ => rfl

theorem creationStep_run {ε α : Type} (label : String) (x : Timed ε (Except Fault (Creation α)))
    (log : StepLog) : (creationStep label x).run log = do
      let result ← x
      return (result.toOption, log.record (creationLeaf label result)) := by
  show (do return settleCreation log label (← x)) = _
  simp only [settleCreation_eq]

/-! ## The parts of the script -/

theorem firstOf_of_find? {groups : List Group} {group : Group}
    (h : groups.find? (·.displayName == testGroup) = some group) : FirstOf groups group := by
  obtain ⟨hname, before, after, rfl, hbefore⟩ := List.find?_eq_some_iff_append.mp h
  exact ⟨before, after, rfl, by simpa using hname, fun g hg => by simpa using hbefore g hg⟩

theorem exercise_ensures (hb : b.Settles) (log : StepLog) :
    (exercise b.provider token user).Ensures log fun es _ log' => ∃ extra,
      log'.leaves = log.leaves ++ (es.filterMap b.leaf? ++ extra) ∧
        Exercised b token user es extra := by
  unfold exercise
  refine Script.Ensures.bind_step (hb.listGroups token) (fun d e h => ?unlisted) fun d groups h => ?_
  case unlisted => exact ⟨[], by simp [h, Node.ofOutcome], .unlisted ⟨d, e, h⟩⟩
  cases hfind : groups.find? (·.displayName == testGroup) with
  | none =>
    refine Script.Ensures.bind_fail ⟨[missingGroup], ?_, .ungrouped ⟨d, h⟩ ?_⟩
    · simp [h, Node.ofOutcome, StepLog.fail, missingGroup]
    · simpa using hfind
  | some group =>
    have hfirst := firstOf_of_find? hfind
    refine Script.Ensures.bind_recording (hb.addMember token group.id user.id)
      (creationStep_run _ _) (fun d' e h' => ?unadded) fun d' added h' => ?_
    case unadded =>
      exact ⟨[], by simp [h, h', Node.ofOutcome], .unadded ⟨d, h⟩ hfirst ⟨d', e, h'⟩⟩
    refine Script.Ensures.bind_step (hb.passwordToken testUser testPassword)
      (fun d'' e h'' => ?ungranted) fun d'' userToken h'' => ?_
    case ungranted =>
      exact ⟨[], by simp [h, h', h'', Node.ofOutcome],
        .ungranted ⟨d, h⟩ hfirst ⟨d', h'⟩ ⟨d'', e, h''⟩⟩
    have hgranted := Exercised.granted ⟨d, h⟩ hfirst ⟨d', h'⟩ ⟨d'', h''⟩
    refine Script.Ensures.bind_step (hb.codeToken userToken) (fun d₃ e h₃ => ?_) fun d₃ _ h₃ =>
      Script.ensures_pure ?_
    · exact ⟨[], by simp [h, h', h'', h₃, Node.ofOutcome], hgranted⟩
    · exact ⟨[], by simp [h, h', h'', h₃, Node.ofOutcome], hgranted⟩

/-- The first part, and whatever follows it if it comes to a user. -/
theorem open_ensures (hb : b.Settles) {f : String → User → Script Call Unit}
    {Q : List Call → Option Unit → StepLog → Prop}
    (hnone : ∀ es log, Opened b es none → log.leaves = es.filterMap b.leaf? → Q es none log)
    (hsome : ∀ es token user log, Opened b es (some (token, user)) →
      log.leaves = es.filterMap b.leaf? →
        (f token user).Ensures log fun es' v log' => Q (es ++ es') v log') :
    Script.Ensures (do
      let token ← Script.step "Client credentials grant" b.provider.clientToken
      let creation ← creationStep "Create local user"
        (b.provider.createUser token testUser testPassword)
      let user ← userOf b.provider token creation
      f token user) .empty Q := by
  refine Script.Ensures.bind_step hb.clientToken (fun d e h => ?_) fun d token h => ?_
  · exact hnone _ _ (.refused ⟨d, e, h⟩) (by simp [h, Node.ofOutcome, StepLog.empty])
  refine Script.Ensures.bind_recording (hb.createUser token testUser testPassword)
    (creationStep_run _ _) (fun d' e h' => ?_) fun d' creation h' => ?_
  · exact hnone _ _ (.uncreated ⟨d, h⟩ ⟨d', e, h'⟩) (by simp [h, h', Node.ofOutcome, StepLog.empty])
  cases creation with
  | created user =>
    exact Script.Ensures.bind_pure <| hsome _ _ _ _ (.created ⟨d, h⟩ ⟨d', h'⟩)
      (by simp [h, h', Node.ofOutcome, creationLeaf, StepLog.empty])
  | existed =>
    refine Script.Ensures.bind_step (hb.findUser token testUser) (fun d'' e h'' => ?_)
      fun d'' user h'' => ?_
    · exact hnone _ _ (.unfound ⟨⟨d, h⟩, d', h'⟩ ⟨d'', e, h''⟩)
        (by simp [h, h', h'', Node.ofOutcome, StepLog.empty])
    · exact hsome _ _ _ _ (.found ⟨⟨d, h⟩, d', h'⟩ ⟨d'', h''⟩)
        (by simp [h, h', h'', Node.ofOutcome, StepLog.empty])

theorem script_ensures (hb : b.Settles) :
    (script b.provider).Ensures .empty fun es _ log => Ran b es log.leaves := by
  refine open_ensures hb (fun es log ho hlog => hlog ▸ .unknown ho) fun es token user log ho hlog => ?_
  refine (exercise_ensures hb log).bind_attempt fun es' _ log' hes => ?_
  obtain ⟨extra, hleaves, hex⟩ := hes
  refine (Script.ensures_recording (hb.deleteUser token user.id) (Script.step_run _ _)).mono ?_
  rintro es'' _ log'' ⟨rfl, d, result, hr, -, rfl⟩
  have := Ran.known ho hex
  simpa [hleaves, hlog, hr] using this

/-! ## What holds of all ways -/

theorem Behaviour.Knows.authorized (h : b.Knows token user) : b.clientToken.Yields token := by
  rcases h with ⟨ht, -⟩ | ⟨⟨ht, -⟩, -⟩ <;> exact ht

/-- The first part comes to a user exactly if there is one to know. -/
theorem Opened.known {es : List Call} {o : Option (String × User)} (h : Opened b es o)
    (token : String) (user : User) : o = some (token, user) ↔ b.Knows token user := by
  cases h with
  | refused ht => exact ⟨nofun, fun hk => (ht.not_yields _ hk.authorized).elim⟩
  | uncreated ht hc =>
    refine ⟨nofun, fun hk => ?_⟩
    obtain rfl := ht.unique hk.authorized
    rcases hk with ⟨-, hu⟩ | ⟨⟨-, hu⟩, -⟩ <;> exact (hc.not_yields _ hu).elim
  | @created token' user' ht hc =>
    refine ⟨fun h => ?_, fun hk => ?_⟩
    · cases h
      exact .inl ⟨ht, hc⟩
    · obtain rfl := ht.unique hk.authorized
      rcases hk with ⟨-, hu⟩ | ⟨⟨-, hu⟩, -⟩ <;> cases hc.unique hu
      rfl
  | unfound hc hf =>
    refine ⟨nofun, fun hk => ?_⟩
    obtain rfl := hc.1.unique hk.authorized
    rcases hk with ⟨-, hu⟩ | ⟨-, hu⟩
    · cases hc.2.unique hu
    · exact (hf.not_yields _ hu).elim
  | found hc hf =>
    refine ⟨fun h => ?_, fun hk => ?_⟩
    · cases h
      exact .inr ⟨hc, hf⟩
    · obtain rfl := hc.1.unique hk.authorized
      rcases hk with ⟨-, hu⟩ | ⟨-, hu⟩
      · cases hc.2.unique hu
      · rw [hf.unique hu]

/-- There is a leaf under this label, and it has passed or failed. -/
def IsLeaf (leaf? : Option Node) (label : String) (passed : Bool) : Prop :=
  ∃ leaf, leaf? = some leaf ∧ leaf.name = label ∧ leaf.passed = passed ∧ leaf.children = []

section
variable {α : Type} {label : String} {labels : List String}

theorem isLeaf_of_yields {r : Reply α} {v : α} (h : r.Yields v) :
    IsLeaf (leafOf? (.ofOutcome label) r) label true := by
  obtain ⟨d, rfl⟩ := h
  exact ⟨_, rfl, rfl, rfl, rfl⟩

theorem isLeaf_of_fails {r : Reply α} (h : r.Fails) :
    IsLeaf (leafOf? (.ofOutcome label) r) label false := by
  obtain ⟨d, e, rfl⟩ := h
  exact ⟨_, rfl, Node.ofFault_leaf label e⟩

theorem isLeaf_of_creates {r : Reply (Creation α)} {v : Creation α} (h : r.Yields v) :
    IsLeaf (leafOf? (creationLeaf label) r) label true := by
  obtain ⟨d, rfl⟩ := h
  cases v <;> exact ⟨_, rfl, rfl, rfl, rfl⟩

theorem isLeaf_of_refuses {r : Reply (Creation α)} (h : r.Fails) :
    IsLeaf (leafOf? (creationLeaf label) r) label false := by
  obtain ⟨d, e, rfl⟩ := h
  exact ⟨_, rfl, Node.ofFault_leaf label e⟩

theorem upToFailure_failed {c : Call} (hc : IsLeaf (b.leaf? c) label false) :
    UpToFailure (label :: labels) ([c].filterMap b.leaf?) := by
  obtain ⟨leaf, hleaf, hname, hpassed, hchildren⟩ := hc
  rw [List.filterMap_cons_some hleaf]
  exact .failed hname hpassed hchildren

theorem upToFailure_passed {c : Call} {cs : List Call} (hc : IsLeaf (b.leaf? c) label true)
    (h : UpToFailure labels (cs.filterMap b.leaf?)) :
    UpToFailure (label :: labels) ((c :: cs).filterMap b.leaf?) := by
  obtain ⟨leaf, hleaf, hname, hpassed, hchildren⟩ := hc
  rw [List.filterMap_cons_some hleaf]
  exact .passed hname hpassed hchildren h

end

/-- The leaves of the first part: the user is looked up only if it existed already. -/
theorem Opened.upToFailure {es : List Call} {o : Option (String × User)} (h : Opened b es o) :
    ((∀ token, ¬ b.Conflicts token) →
      UpToFailure ["Client credentials grant", "Create local user"] (es.filterMap b.leaf?)) ∧
    ∀ token, b.Conflicts token →
      UpToFailure ["Client credentials grant", "Create local user", "Get local user"]
        (es.filterMap b.leaf?) := by
  cases h with
  | refused ht =>
    exact ⟨fun _ => upToFailure_failed (isLeaf_of_fails ht),
      fun _ _ => upToFailure_failed (isLeaf_of_fails ht)⟩
  | uncreated ht hc =>
    refine ⟨fun _ => ?_, fun _ _ => ?_⟩
    all_goals
      exact upToFailure_passed (isLeaf_of_yields ht) (upToFailure_failed (isLeaf_of_refuses hc))
  | created ht hc =>
    refine ⟨fun _ => ?_, fun token hconflict => ?_⟩
    · exact upToFailure_passed (isLeaf_of_yields ht) (upToFailure_passed (isLeaf_of_creates hc) .done)
    · obtain rfl := ht.unique hconflict.1
      cases hc.unique hconflict.2
  | unfound hconflict hf =>
    refine ⟨fun hno => (hno _ hconflict).elim, fun _ _ => ?_⟩
    exact upToFailure_passed (isLeaf_of_yields hconflict.1) <|
      upToFailure_passed (isLeaf_of_creates hconflict.2) (upToFailure_failed (isLeaf_of_fails hf))
  | found hconflict hf =>
    refine ⟨fun hno => (hno _ hconflict).elim, fun _ _ => ?_⟩
    exact upToFailure_passed (isLeaf_of_yields hconflict.1) <|
      upToFailure_passed (isLeaf_of_creates hconflict.2) (upToFailure_passed (isLeaf_of_yields hf) .done)

theorem Opened.labels {es : List Call} {o : Option (String × User)} (h : Opened b es o) :
    ∃ labels, UpToFailure labels (es.filterMap b.leaf?) := by
  by_cases hconflict : ∃ token, b.Conflicts token
  · obtain ⟨token, hconflict⟩ := hconflict
    exact ⟨_, h.upToFailure.2 token hconflict⟩
  · exact ⟨_, h.upToFailure.1 fun token hc => hconflict ⟨token, hc⟩⟩

theorem Opened.calls {es : List Call} {o : Option (String × User)} (h : Opened b es o) :
    ∀ c ∈ es, c = .clientToken ∨ (∃ t u p, c = .createUser t u p) ∨ ∃ t u, c = .findUser t u := by
  cases h <;> simp

/-- If the first part comes to a user, all of its leaves have passed. -/
theorem Opened.passed {es : List Call} {k : String × User} (h : Opened b es (some k)) :
    ∀ leaf ∈ es.filterMap b.leaf?, leaf.passed = true := by
  cases h with
  | created ht hc =>
    obtain ⟨d, ht⟩ := ht
    obtain ⟨d', hc⟩ := hc
    simp [ht, hc, Node.ofOutcome, creationLeaf, Node.pass]
  | found hconflict hf =>
    obtain ⟨⟨d, ht⟩, d', hc⟩ := hconflict
    obtain ⟨d'', hf⟩ := hf
    simp [ht, hc, hf, Node.ofOutcome, creationLeaf, Node.pass, Node.withStatusCode]

section
variable {es : List Call} {extra : List Node} (h : Exercised b token user es extra)
include h

/-- The leaves of the second part. -/
theorem Exercised.upToFailure (hb : b.Settles) :
    UpToFailure ["Get local groups/scopes", "Add local user to group",
      "Resource owner password credentials grant", "Authorization code grant"]
      (es.filterMap b.leaf? ++ extra) := by
  cases h with
  | unlisted hl =>
    rw [List.append_nil]
    exact upToFailure_failed (isLeaf_of_fails hl)
  | ungrouped hl _ =>
    have hlisted : IsLeaf (b.leaf? (.listGroups token)) "Get local groups/scopes" true :=
      isLeaf_of_yields hl
    obtain ⟨leaf, hleaf, hname, hpassed, hchildren⟩ := hlisted
    rw [List.filterMap_cons_some hleaf]
    exact .passed hname hpassed hchildren (.failed rfl rfl rfl)
  | unadded hl _ ha =>
    rw [List.append_nil]
    exact upToFailure_passed (isLeaf_of_yields hl) (upToFailure_failed (isLeaf_of_refuses ha))
  | ungranted hl _ ha hp =>
    rw [List.append_nil]
    exact upToFailure_passed (isLeaf_of_yields hl) <|
      upToFailure_passed (isLeaf_of_creates ha) (upToFailure_failed (isLeaf_of_fails hp))
  | @granted _ _ _ userToken hl _ ha hp =>
    rw [List.append_nil]
    refine upToFailure_passed (isLeaf_of_yields hl) <|
      upToFailure_passed (isLeaf_of_creates ha) <| upToFailure_passed (isLeaf_of_yields hp) ?_
    obtain ⟨d, result, hc⟩ := hb.codeToken userToken
    cases result with
    | ok v => exact upToFailure_passed (isLeaf_of_yields ⟨d, hc⟩) .done
    | error e => exact upToFailure_failed (isLeaf_of_fails ⟨d, e, hc⟩)

theorem Exercised.others : ∀ leaf ∈ extra, leaf = missingGroup := by
  cases h <;> simp

theorem Exercised.keeps (t id : String) : .deleteUser t id ∉ es := by
  cases h <;> simp

theorem Exercised.addsToFirst {t id userId : String} (hadd : .addMember t id userId ∈ es) :
    t = token ∧ userId = user.id ∧ ∃ groups group, (b.listGroups token).Yields groups ∧
      FirstOf groups group ∧ id = group.id := by
  cases h with
  | unlisted | ungrouped => simp at hadd
  | unadded hgroups hfirst | ungranted hgroups hfirst | granted hgroups hfirst =>
    simp only [List.mem_cons, Call.addMember.injEq, reduceCtorEq, false_or, List.not_mem_nil,
      or_false] at hadd
    obtain ⟨rfl, rfl, rfl⟩ := hadd
    exact ⟨rfl, rfl, _, _, hgroups, hfirst, rfl⟩

theorem Exercised.adds {groups : List Group} (hgroups : (b.listGroups token).Yields groups)
    (hgroup : ∃ group ∈ groups, group.displayName = testGroup) :
    ∃ id, .addMember token id user.id ∈ es := by
  cases h with
  | unlisted hlist => exact (hlist.not_yields _ hgroups).elim
  | ungrouped hgroups' hno =>
    obtain ⟨group, hmem, hname⟩ := hgroup
    rw [hgroups.unique hgroups'] at hmem
    exact (hno group hmem hname).elim
  | unadded | ungranted | granted => exact ⟨_, List.mem_cons_of_mem _ List.mem_cons_self⟩

theorem Exercised.authorizes {userToken : String} (hcode : .codeToken userToken ∈ es) :
    .passwordToken testUser testPassword ∈ es ∧
      (b.passwordToken testUser testPassword).Yields userToken := by
  cases h with
  | unlisted | ungrouped | unadded | ungranted => simp at hcode
  | granted _ _ _ htoken =>
    simp only [List.mem_cons, Call.codeToken.injEq, reduceCtorEq, false_or, List.not_mem_nil,
      or_false] at hcode
    rw [hcode]
    exact ⟨by simp, htoken⟩

end

/-! ## The whole check -/

theorem leafOf?_eq_some {α : Type} {leaf : Except Fault α → Node} {r : Reply α} {u : Node} :
    leafOf? leaf r = some u ↔ ∃ d result, r = .answers d result ∧ u = leaf result := by
  cases r with
  | answers d result =>
    refine ⟨fun h => ⟨d, result, rfl, (Option.some.inj h).symm⟩, ?_⟩
    rintro ⟨d', result', hr, rfl⟩
    cases hr
    rfl
  | panics | hangs => exact ⟨nofun, nofun⟩

theorem ofOutcome_name {α : Type} (label : String) (r : Except Fault α) :
    (Node.ofOutcome label r).name = label :=
  (Node.ofOutcome_leaf label r).1

theorem ofOutcome_plain {α : Type} {label : String} {r : Except Fault α} {u : Node}
    (hu : u = .ofOutcome label r) (hpassed : u.passed = true) : u.statusCode = none := by
  subst hu
  cases r with
  | ok => rfl
  | error e => exact absurd hpassed (by simp [Node.ofOutcome, (Node.ofFault_leaf label e).2.1])

/-- A leaf that passed shows a status code only if its call found a conflict. -/
theorem plain_leaf {u : Node} {c : Call} (hu : b.leaf? c = some u) (hpassed : u.passed = true) :
    u.statusCode = none ∨ b.Tolerates c := by
  have hcreation : ∀ {α : Type} {label : String} {r : Except Fault (Creation α)},
      u = creationLeaf label r → u.statusCode = none ∨ r = .ok .existed := by
    intro α label r hu
    match r with
    | .ok .existed => exact .inr rfl
    | .ok (.created _) => exact .inl (by rw [hu]; rfl)
    | .error e => exact .inl (ofOutcome_plain (r := (.error e : Except Fault α)) hu hpassed)
  cases c with
  | createUser | addMember =>
    obtain ⟨d, result, hr, hleaf⟩ := leafOf?_eq_some.mp hu
    exact (hcreation hleaf).imp_right fun hexisted => ⟨d, by rw [hr, hexisted]⟩
  | _ =>
    obtain ⟨d, result, -, hleaf⟩ := leafOf?_eq_some.mp hu
    exact .inl (ofOutcome_plain hleaf hpassed)

theorem tolerates_leaf {c : Call} (h : b.Tolerates c) : ∃ leaf, b.leaf? c = some leaf ∧
    leaf.passed = true ∧ leaf.statusCode = some conflict := by
  cases c with
  | createUser | addMember =>
    obtain ⟨d, h⟩ := h
    exact ⟨_, leafOf?_eq_some.mpr ⟨d, _, h, rfl⟩, rfl, rfl⟩
  | _ => exact h.elim

theorem Ran.others {es : List Call} {leaves : List Node} (h : Ran b es leaves) :
    (es.filterMap b.leaf?).Sublist leaves ∧
      ∀ leaf ∈ leaves, leaf ∈ es.filterMap b.leaf? ∨ leaf = missingGroup := by
  cases h with
  | unknown => exact ⟨.refl _, fun leaf hleaf => .inl hleaf⟩
  | @known opening middle token user extra ho hex =>
    simp only [List.filterMap_append]
    refine ⟨(List.Sublist.refl _).append ((List.sublist_append_left _ _).append (.refl _)), ?_⟩
    intro leaf hleaf
    simp only [List.mem_append] at hleaf ⊢
    rcases hleaf with hleaf | (hleaf | hleaf) | hleaf
    · exact .inl (.inl hleaf)
    · exact .inl (.inr (.inl hleaf))
    · exact .inr (hex.others leaf hleaf)
    · exact .inl (.inr (.inr hleaf))

section
variable {es : List Call} {leaves : List Node} (h : Ran b es leaves)
include h

theorem Ran.deletesLast (hk : b.Knows token user) : ∃ before,
    es = before ++ [.deleteUser token user.id] ∧ ∀ t id, .deleteUser t id ∉ before := by
  cases h with
  | unknown ho => cases (ho.known token user).mpr hk
  | @known opening middle _ _ extra ho hex =>
    cases (ho.known token user).mpr hk
    refine ⟨opening ++ middle, (List.append_assoc ..).symm, fun t id hmem => ?_⟩
    rcases List.mem_append.mp hmem with hmem | hmem
    · simpa using ho.calls _ hmem
    · exact hex.keeps t id hmem

theorem Ran.deletes :
    (∃ token id, .deleteUser token id ∈ es) ↔ ∃ token user, b.Knows token user := by
  constructor
  · rintro ⟨token, id, hmem⟩
    cases h with
    | unknown ho => simpa using ho.calls _ hmem
    | known ho _ => exact ⟨_, _, (ho.known _ _).mp rfl⟩
  · rintro ⟨token, user, hk⟩
    obtain ⟨before, rfl, -⟩ := h.deletesLast hk
    exact ⟨token, user.id, by simp⟩

theorem Ran.addsToFirst {t id userId : String} (hmem : .addMember t id userId ∈ es) :
    ∃ user groups group, b.Knows t user ∧ userId = user.id ∧ (b.listGroups t).Yields groups ∧
      FirstOf groups group ∧ id = group.id := by
  cases h with
  | unknown ho => simpa using ho.calls _ hmem
  | @known opening middle token user extra ho hex =>
    have hmiddle : .addMember t id userId ∈ middle := by
      rcases List.mem_append.mp hmem with hmem | hmem
      · simpa using ho.calls _ hmem
      · simpa using hmem
    obtain ⟨rfl, rfl, groups, group, hgroups, hfirst, rfl⟩ := hex.addsToFirst hmiddle
    exact ⟨user, groups, group, (ho.known _ _).mp rfl, rfl, hgroups, hfirst, rfl⟩

theorem Ran.adds : (∃ token group id, .addMember token group id ∈ es) ↔
    ∃ token user groups, b.Knows token user ∧ (b.listGroups token).Yields groups ∧
      ∃ group ∈ groups, group.displayName = testGroup := by
  constructor
  · rintro ⟨token, id, userId, hmem⟩
    obtain ⟨user, groups, group, hk, -, hgroups, ⟨before, after, rfl, hname, -⟩, -⟩ :=
      h.addsToFirst hmem
    exact ⟨token, user, _, hk, hgroups, group, by simp, hname⟩
  · rintro ⟨token, user, groups, hk, hgroups, hgroup⟩
    cases h with
    | unknown ho => cases (ho.known token user).mpr hk
    | known ho hex =>
      cases (ho.known token user).mpr hk
      obtain ⟨id, hmem⟩ := hex.adds hgroups hgroup
      exact ⟨token, id, user.id, by simp [hmem]⟩

theorem Ran.authorizes {userToken : String} (hmem : .codeToken userToken ∈ es) :
    .passwordToken testUser testPassword ∈ es ∧
      (b.passwordToken testUser testPassword).Yields userToken := by
  cases h with
  | unknown ho => simpa using ho.calls _ hmem
  | @known opening middle token user extra ho hex =>
    have hmiddle : .codeToken userToken ∈ middle := by
      rcases List.mem_append.mp hmem with hmem | hmem
      · simpa using ho.calls _ hmem
      · simpa using hmem
    obtain ⟨hpassword, hyields⟩ := hex.authorizes hmiddle
    exact ⟨by simp [hpassword], hyields⟩

variable (hb : b.Settles)
include hb

theorem Ran.parts : ∃ opening middle closing, leaves = opening ++ (middle ++ closing) ∧
    Parts b opening middle closing := by
  cases h with
  | unknown ho =>
    obtain ⟨hfresh, hexisted⟩ := ho.upToFailure
    have hno : ∀ token user, ¬ b.Knows token user := fun token user hk => by
      cases (ho.known token user).mpr hk
    exact ⟨_, [], [], (List.append_nil _).symm, {
      fresh := hfresh
      existed := hexisted
      exercised := fun token user hk => (hno token user hk).elim
      deleted := fun token user hk => (hno token user hk).elim
      unknown := fun _ => ⟨rfl, rfl⟩ }⟩
  | @known _ _ token user _ ho hex =>
    obtain ⟨hfresh, hexisted⟩ := ho.upToFailure
    exact ⟨_, _, _, rfl, {
      fresh := hfresh
      existed := hexisted
      exercised := fun _ _ _ => hex.upToFailure hb
      deleted := fun token user hk => by
        cases (ho.known token user).mpr hk
        obtain ⟨d, result, hr⟩ := hb.deleteUser token user.id
        exact ⟨.ofOutcome "Delete local user" result, by simp [hr], ofOutcome_name .., by simp [hr]⟩
      unknown := fun hno => (hno token user ((ho.known _ _).mp rfl)).elim }⟩

theorem Ran.stops : leaves.Pairwise fun earlier later =>
    earlier.passed = true ∨ later.name = "Delete local user" := by
  cases h with
  | unknown ho =>
    obtain ⟨labels, hopening⟩ := ho.labels
    exact hopening.pairwise.imp .inl
  | @known _ _ token user _ ho hex =>
    obtain ⟨d, result, hr⟩ := hb.deleteUser token user.id
    have hclosing : ∀ leaf ∈ [Call.deleteUser token user.id].filterMap b.leaf?,
        leaf.name = "Delete local user" := by simp [hr, ofOutcome_name]
    rw [List.pairwise_append, List.pairwise_append]
    refine ⟨?_, ⟨(hex.upToFailure hb).pairwise.imp .inl, ?_, ?_⟩, ?_⟩
    · exact List.pairwise_of_forall_mem_list fun leaf hleaf _ _ => .inl (ho.passed leaf hleaf)
    · simp [hr]
    · exact fun _ _ leaf hleaf => .inr (hclosing leaf hleaf)
    · exact fun leaf hleaf _ _ => .inl (ho.passed leaf hleaf)

theorem Ran.cleansUp : CleansUp b es leaves := by
  obtain ⟨hrecorded, hothers⟩ := h.others
  exact {
    deletes := h.deletes
    deletesLast := fun token user => h.deletesLast
    parts := h.parts hb
    stops := h.stops hb
    recorded := hrecorded
    others := hothers
    conflicts := fun c hc htolerates => by
      obtain ⟨leaf, hleaf, hshown⟩ := tolerates_leaf htolerates
      exact ⟨leaf, hrecorded.subset (List.mem_filterMap.mpr ⟨c, hc, hleaf⟩), hleaf, hshown⟩
    plain := fun leaf hleaf hpassed => by
      rcases hothers leaf hleaf with hcalled | rfl
      · obtain ⟨c, hc, hcleaf⟩ := List.mem_filterMap.mp hcalled
        exact (plain_leaf hcleaf hpassed).imp_right fun htolerates => ⟨c, hc, htolerates, hcleaf⟩
      · cases hpassed
    adds := h.adds
    addsToFirst := fun token id userId => h.addsToFirst
    authorizes := fun userToken => h.authorizes }

end

theorem probe_ensures (hb : b.Settles) : (probe b.provider).run.Ensures fun es node =>
    ∃ leaves, node = Node.aggregate key name leaves ∧ Ran b es leaves := by
  refine (((script_ensures hb).node key name).mono fun es node h => ?_).shielded
  obtain ⟨log, hran, rfl⟩ := h
  exact ⟨log.leaves, rfl, hran⟩

/-- Whatever the replies are and whenever they come, a check ends, and a user that is known is deleted as
the last thing it does. -/
theorem probe_cleansUp (b : Behaviour) (hb : b.Settles) (tok : Token) :
    ∃ t tok' leaves, ((probe b.provider).run tok).ending =
      .returned t tok' (Node.aggregate key name leaves) ∧
        CleansUp b ((probe b.provider).run tok).called leaves := by
  obtain ⟨t, tok', node, hend, leaves, rfl, hran⟩ := probe_ensures hb tok
  exact ⟨t, tok', leaves, hend, hran.cleansUp hb⟩

/-- A user and a membership that were left over, two groups of the same name, and a provider that hands
out no code. -/
theorem probe_cleansUp_leftOver :
    let b : Behaviour :=
      { clientToken := .answers 3 (.ok "t")
        createUser := fun _ _ _ => .answers 2 (.ok .existed)
        findUser := fun _ user => .answers 0 (.ok ⟨"u-7", user⟩)
        listGroups := fun _ => .answers 1 (.ok [⟨"g-1", testGroup⟩, ⟨"g-2", testGroup⟩])
        addMember := fun _ group _ => .answers 5 (if group = "g-1" then .ok .existed else .ok (.created ()))
        passwordToken := fun _ _ => .answers 4 (.ok "p")
        codeToken := fun _ => .answers 30000 (.error (.message "no code"))
        deleteUser := fun _ _ => .answers 1 (.ok ()) }
    b.Settles ∧ ∃ t tok' leaves, ((probe b.provider).run (.due 7)).ending =
      .returned t tok' (Node.aggregate key name leaves) ∧
        CleansUp b ((probe b.provider).run (.due 7)).called leaves := by
  intro b
  have hb : b.Settles :=
    { clientToken := ⟨_, _, rfl⟩
      createUser := fun _ _ _ => ⟨_, _, rfl⟩
      findUser := fun _ _ => ⟨_, _, rfl⟩
      listGroups := fun _ => ⟨_, _, rfl⟩
      addMember := fun _ _ _ => ⟨_, _, rfl⟩
      passwordToken := fun _ _ => ⟨_, _, rfl⟩
      codeToken := fun _ => ⟨_, _, rfl⟩
      deleteUser := fun _ _ => ⟨_, _, rfl⟩ }
  exact ⟨hb, probe_cleansUp b hb (.due 7)⟩

end Checkup.Identity
