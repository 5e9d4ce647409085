import RoleGuard.Proofs.Indifference

/-!
# Requests that carry their user

The resolver provided for requests reads the request's user, whether that user is
authenticated, and the user's role.  A guard that calls it lets a request pass
where a table lists roles exactly if all of this can be read and the role is
listed, whatever the request and its user are.  A read that fails otherwise than
by absence fails the resolver, which the guard takes for having no identity.
-/

namespace RoleGuard

namespace World

/-- A request's user is authenticated and has a role of a given name, which
takes three reads. -/
structure ShowsUser (world : World) (request user mark : Value) (name : String) :
    Prop where
  readsUser : (world.look request).readAttribute "user" = .ok user
  present : world.look user ≠ .null
  readsMark : (world.look user).readAttribute "is_authenticated" = .ok mark
  authenticated : (world.look mark).truthy = true
  readsRole : (world.look user).readAttribute "role" = .ok (.text name)
  named : name ≠ ""

/-- A request's user is authenticated and has one of the roles listed. -/
def Grants (world : World) (request : Value) (items : List Value) : Prop :=
  ∃ user mark name, world.ShowsUser request user mark name ∧ .text name ∈ items

/-- Reading a request's user, its mark or its role fails, and not because what
is read is absent. -/
inductive FailsToShow (world : World) (request : Value) (fault : Fault) :
    Prop where
  | user : (world.look request).readAttribute "user" = .error fault →
      fault.meansAbsent = false → FailsToShow world request fault
  | mark {user : Value} :
      (world.look request).readAttribute "user" = .ok user →
      world.look user ≠ .null →
      (world.look user).readAttribute "is_authenticated" = .error fault →
      fault.meansAbsent = false → FailsToShow world request fault
  | role {user mark : Value} :
      (world.look request).readAttribute "user" = .ok user →
      world.look user ≠ .null →
      (world.look user).readAttribute "is_authenticated" = .ok mark →
      (world.look mark).truthy = true →
      (world.look user).readAttribute "role" = .error fault →
      fault.meansAbsent = false → FailsToShow world request fault

/-- The identity of a request's user, none where the reads fail. -/
def requester (world : World) (request : Value) : Value :=
  match ProvidedResolver.requestIdentity world.look request with
  | .ok who => who
  | .error _ => .null

end World

namespace Value

theorem readAttributeOr_of_ok {v w : Value} {name : String}
    (read : v.readAttribute name = .ok w) (default : Value) :
    v.readAttributeOr name default = .ok w := by
  rw [readAttributeOr, read]
  rfl

/-- What is read with a default and is not the default is the attribute. -/
theorem read_of_ne_default {v w default : Value} {name : String}
    (read : v.readAttributeOr name default = .ok w) (other : w ≠ default) :
    v.readAttribute name = .ok w := by
  unfold readAttributeOr orDefault at read
  cases reads : v.readAttribute name with
  | ok held =>
      rw [reads] at read
      exact read
  | error fault =>
      rw [reads] at read
      simp only at read
      split at read
      · cases read
        exact absurd rfl other
      · cases read

theorem readAttributeOr_of_error {v : Value} {name : String} {fault : Fault}
    (read : v.readAttribute name = .error fault)
    (present : fault.meansAbsent = false) (default : Value) :
    v.readAttributeOr name default = .error fault := by
  rw [readAttributeOr, read]
  simp [orDefault, present]

theorem eq_text_of_usableRole? {role : Value} {name : String}
    (usable : usableRole? role = some name) : role = .text name ∧ name ≠ "" := by
  unfold usableRole? at usable
  split at usable
  · split at usable
    · cases usable
    · rename_i named
      cases usable
      exact ⟨rfl, named⟩
  · cases usable

end Value

namespace World

variable {world : World} {request : Value}

/-- Of a user that is there the resolver reads the mark and then the role. -/
theorem requestIdentity_of_present {user : Value}
    (readsUser : (world.look request).readAttribute "user" = .ok user)
    (present : world.look user ≠ .null) :
    ProvidedResolver.requestIdentity world.look request = (do
      let mark ← (world.look user).readAttributeOr "is_authenticated"
        (.bool false)
      if (world.look mark).truthy then
        return .identity (← (world.look user).readAttributeOr "role" .null) user
      else return .null) := by
  unfold ProvidedResolver.requestIdentity
  rw [Value.readAttributeOr_of_ok readsUser]
  dsimp only [bind, Except.bind]
  split
  · rename_i absent
    exact absurd absent present
  · rfl

/-- The resolver reads the role of a user that is shown. -/
theorem ShowsUser.requestIdentity {user mark : Value} {name : String}
    (shows : world.ShowsUser request user mark name) :
    ProvidedResolver.requestIdentity world.look request =
      .ok (.identity (.text name) user) := by
  rw [requestIdentity_of_present shows.readsUser shows.present,
    Value.readAttributeOr_of_ok shows.readsMark,
    Value.readAttributeOr_of_ok shows.readsRole]
  exact if_pos shows.authenticated

/-- The resolver fails as the reads do. -/
theorem FailsToShow.requestIdentity {fault : Fault}
    (fails : world.FailsToShow request fault) :
    ProvidedResolver.requestIdentity world.look request = .error fault := by
  cases fails with
  | user fails present =>
      rw [ProvidedResolver.requestIdentity,
        Value.readAttributeOr_of_error fails present]
      rfl
  | mark readsUser isUser fails present =>
      rw [requestIdentity_of_present readsUser isUser,
        Value.readAttributeOr_of_error fails present]
      rfl
  | role readsUser isUser readsMark authenticated fails present =>
      rw [requestIdentity_of_present readsUser isUser,
        Value.readAttributeOr_of_ok readsMark,
        Value.readAttributeOr_of_error fails present]
      exact if_pos authenticated

/-- Where a read fails, no user is shown to have a role that is listed. -/
theorem FailsToShow.not_grants {fault : Fault}
    (fails : world.FailsToShow request fault) (items : List Value) :
    ¬ world.Grants request items := by
  rintro ⟨user, mark, name, shows, _⟩
  have resolved := shows.requestIdentity
  rw [fails.requestIdentity] at resolved
  cases resolved

/-- An identity with a role that the resolver gives is that of a user that is
shown. -/
theorem showsUser_of_requestIdentity {who : Value} {name : String}
    (resolved : ProvidedResolver.requestIdentity world.look request = .ok who)
    (held : who.role? = some name) :
    ∃ user mark, world.ShowsUser request user mark name := by
  unfold ProvidedResolver.requestIdentity at resolved
  obtain ⟨user, readUser, resolved⟩ := bind_eq_ok_iff.mp resolved
  split at resolved
  · cases resolved
    cases held
  · rename_i present
    obtain ⟨mark, readMark, resolved⟩ := bind_eq_ok_iff.mp resolved
    split at resolved
    · rename_i authenticated
      obtain ⟨role, readRole, resolved⟩ := bind_eq_ok_iff.mp resolved
      cases resolved
      obtain ⟨rfl, named⟩ := Value.eq_text_of_usableRole? held
      have isUser : user ≠ .null := by
        rintro rfl
        exact present rfl
      have isMark : mark ≠ .bool false := by
        rintro rfl
        cases authenticated
      exact ⟨user, mark, Value.read_of_ne_default readUser isUser, present,
        Value.read_of_ne_default readMark isMark, authenticated,
        Value.read_of_ne_default readRole (by simp), named⟩
    · cases resolved
      cases held

/-- The identity of a request's user has a role exactly if the user is shown
with it. -/
theorem role?_requester (world : World) (request : Value) (name : String) :
    (world.requester request).role? = some name ↔
      ∃ user mark, world.ShowsUser request user mark name := by
  constructor
  · intro held
    unfold requester at held
    split at held
    · rename_i resolved
      exact showsUser_of_requestIdentity resolved held
    · cases held
  · rintro ⟨user, mark, shows⟩
    rw [requester, shows.requestIdentity]
    exact if_neg shows.named

/-- The resolver gives no identity or one that it has made. -/
theorem requester_cases (world : World) (request : Value) :
    world.requester request = .null ∨
      ∃ role user, world.requester request = .identity role user := by
  unfold requester
  split
  · rename_i who resolved
    unfold ProvidedResolver.requestIdentity at resolved
    obtain ⟨user, _, resolved⟩ := bind_eq_ok_iff.mp resolved
    split at resolved
    · cases resolved
      exact .inl rfl
    · obtain ⟨mark, _, resolved⟩ := bind_eq_ok_iff.mp resolved
      split at resolved
      · obtain ⟨role, _, resolved⟩ := bind_eq_ok_iff.mp resolved
        cases resolved
        exact .inr ⟨role, user, rfl⟩
      · cases resolved
        exact .inl rfl
  · exact .inl rfl

/-- It looks the same in every world, it is there at once and its role can be
read. -/
theorem plain_requester (world : World) (request : Value) :
    (∀ other : World, other.look (world.requester request) =
      world.requester request) ∧
    (world.requester request).isPending = false ∧
    (world.requester request).roleEvents = [] := by
  rcases world.requester_cases request with isNull | ⟨role, user, isMade⟩
  · rw [isNull]
    exact ⟨fun _ => rfl, rfl, rfl⟩
  · rw [isMade]
    exact ⟨fun _ => rfl, rfl, rfl⟩

/-- What calling the resolver notes: the failure of a read. -/
def requesterEvents (world : World) (request : Value) : Journal :=
  match ProvidedResolver.requestIdentity world.look request with
  | .ok _ => []
  | .error fault => [.resolverFailed fault]

/-- Calling the resolver gives the requester and only notes a failure. -/
theorem runFrom_requestUser (world : World) (request : Value) :
    runFrom (withoutFailure
        (callValue (.provided .requestUser) request)) world =
      (.ok (world.requester request),
        world.noted (world.requesterEvents request)) := by
  have called : runFrom (callValue (.provided .requestUser) request) world =
      runFrom (Act.ofExcept
        (ProvidedResolver.requestIdentity world.look request)) world := rfl
  rw [Identity.runFrom_withoutFailure, called]
  unfold requester requesterEvents
  cases ProvidedResolver.requestIdentity world.look request with
  | ok who =>
      rw [World.noted_nil]
      rfl
  | error fault => rfl

end World

theorem Rule.holdsAny_roles (names : List String) (role : Option String) :
    holdsAny (names.map fun name => .role (.text name)) role = true ↔
      ∃ name ∈ names, role = some name := by
  induction names with
  | nil => simp [holdsAny]
  | cons name names ih =>
      rw [List.map_cons, holdsAny, Bool.or_eq_true, ih, holds,
        roleValue_same_text]
      simp

/-- The rule for listed roles holds for a request's user exactly if the request
shows a user with one of them. -/
theorem World.holds_requester_iff {names : List String} {items : List Value}
    (sameRoles : ∀ name, name ∈ names ↔ .text name ∈ items) (world : World)
    (request : Value) :
    (rolesRule names).holds (world.requester request).role? = true ↔
      world.Grants request items := by
  rw [rolesRule, Rule.holds, Rule.holdsAny_roles]
  constructor
  · rintro ⟨name, member, held⟩
    obtain ⟨user, mark, shows⟩ := (world.role?_requester request name).mp held
    exact ⟨user, mark, name, shows, (sameRoles name).mp member⟩
  · rintro ⟨user, mark, name, shows, member⟩
    exact ⟨name, (sameRoles name).mpr member,
      (world.role?_requester request name).mpr ⟨user, mark, shows⟩⟩

namespace Policy

/-- With the resolver provided for requests, a guard admits a request without a
memo to a field that the table guards exactly if the request shows an
authenticated user who has one of the roles listed, and denies it otherwise; a
read that fails is noted and denied.  This holds of any request on which the
memo can be looked up and which takes the memo or refuses it in a way that is
tolerated. -/
theorem mediates_requestUser {source : PolicySource} {policy : Policy}
    {before made world : World} {call : FieldCall} {items : List Value}
    {memo : Value}
    (makes : runFrom (make source) before = (.ok policy, made))
    (listed : (before.refresh source.schema).listed? call.type call.field =
      some items)
    (guarded : Guard.isIntrospection call.field = false)
    (reads : (world.look call.context).read (.text memoKey) .null = .ok memo)
    (bare : memo.recall (.provided .requestUser) call.operation = none)
    (tolerates : world.Tolerates call.context) :
    ∃ gate after,
      (policy.guard (.provided .requestUser)).Mediates call world gate after ∧
      (gate = .ok () ↔ world.Grants call.context items) ∧
      (¬ world.Grants call.context items → gate =
        .error ((policy.guard (.provided .requestUser)).denial after)) ∧
      ∀ fault, world.FailsToShow call.context fault →
        gate = .error ((policy.guard (.provided .requestUser)).denial after) ∧
        .resolverFailed fault ∈ after.journal := by
  have sound := sound_make makes
  have goes : Identity.course world call.context policy.contextKey
      (.provided .requestUser) call.operation =
      .invoking (.provided .requestUser) := by
    rw [Identity.course_of_callable rfl rfl, reads]
    simp only [bare]
  have answered := world.runFrom_requestUser call.context
  obtain ⟨looks, settled, readable⟩ := world.plain_requester call.context
  obtain ⟨known, identified, remembers⟩ :=
    (policy.guard (.provided .requestUser)).identityFor_settled goes answered
      (by rw [looks]; exact settled) (tolerates.of_objects rfl)
  obtain ⟨names, sameRoles, found⟩ := sound.rule?_listed listed known
  have governs : policy.governing known call.type call.field =
      (rolesRule names).node := by
    rw [governing, found]
    rfl
  have admits := sound.runFrom_admission_plain (.provided .requestUser)
    (Rule.plain_rolesRule names)
    ⟨by rw [governs]; exact hasRule_rolesRule known names,
      by rw [governs]; rfl⟩
    (by rw [looks]; exact readable) identified
  rw [looks] at admits
  have lets := world.holds_requester_iff sameRoles call.context
  have denies : ¬ world.Grants call.context items →
      (policy.guard (.provided .requestUser)).gateOf known
          (.ok ((rolesRule names).holds
            (world.requester call.context).role?)) =
        .error ((policy.guard (.provided .requestUser)).denial known) := by
    intro notGranted
    rw [Bool.eq_false_iff.mpr (mt lets.mp notGranted)]
    rfl
  refine ⟨_, _, Guard.mediates_admission _ guarded (sound.guarding world) admits,
    ?_, ?_, ?_⟩
  · rw [← lets]
    cases (rolesRule names).holds (world.requester call.context).role? with
    | true => simp [Guard.gateOf]
    | false => simp [Guard.gateOf]
  · intro notGranted
    rw [World.noted, Guard.denial_journal]
    exact denies notGranted
  · intro fault fails
    rw [World.noted, Guard.denial_journal]
    refine ⟨denies (fails.not_grants items), List.mem_append_left _ ?_⟩
    have sameJournal : known.journal =
        (world.noted (world.requesterEvents call.context)).journal :=
      remembers.part_eq fun _ _ => rfl
    rw [sameJournal, World.noted, World.requesterEvents, fails.requestIdentity]
    exact List.mem_append_right _ (List.mem_singleton_self _)

/-- A request from an administrator, and one whose user says so too but whose
mark cannot be read. -/
def adminRequests : List Value :=
  [.record [("user",
      .record [("is_authenticated", .bool true), ("role", .text "ADMIN")])],
    .record [("user", .failing
      [⟨"is_authenticated", false, "session store is down", by decide⟩]
      [("role", .text "ADMIN")])]]

def adminWorld : World :=
  { World.initial .bare false with objects := adminRequests }

def adminCall (request : Nat) : FieldCall where
  type := "Query"
  field := "users"
  context := .object request .null
  operation := none
  root := .null
  arguments := []

theorem mediates_adminCall :
    ∃ policy made,
      runFrom (make (fallbackSource .deny)) (World.initial .bare false) =
        (.ok policy, made) ∧
      ((World.initial .bare false).refresh (fallbackSource .deny).schema).listed?
        "Query" "users" = some [.text "ADMIN"] ∧
      adminWorld.Grants (adminCall 0).context [.text "ADMIN"] ∧
      adminWorld.FailsToShow (adminCall 1).context
        (.application .general "session store is down") ∧
      (∃ after,
        (policy.guard (.provided .requestUser)).Mediates (adminCall 0)
          adminWorld (.ok ()) after) ∧
      ∃ after,
        (policy.guard (.provided .requestUser)).Mediates (adminCall 1)
          adminWorld
          (.error ((policy.guard (.provided .requestUser)).denial after))
          after ∧
        .resolverFailed (.application .general "session store is down") ∈
          after.journal := by
  obtain ⟨policy, made, makes, _⟩ := made_fallbackSource .deny
  have guarded : Guard.isIntrospection "users" = false := by
    simp [Guard.isIntrospection]
  have tolerates (request : Nat) (isRequest : request = 0 ∨ request = 1) :
      adminWorld.Tolerates (adminCall request).context := by
    intro memo fault refused
    rcases isRequest with rfl | rfl <;> cases refused
  have listed (request : Nat) :
      ((World.initial .bare false).refresh
        (fallbackSource .deny).schema).listed? (adminCall request).type
          (adminCall request).field = some [.text "ADMIN"] := rfl
  have grants : adminWorld.Grants (adminCall 0).context [.text "ADMIN"] :=
    ⟨_, _, "ADMIN", ⟨rfl, by simp [World.look], rfl, rfl, rfl, by decide⟩,
      List.mem_singleton_self _⟩
  have fails : adminWorld.FailsToShow (adminCall 1).context
      (.application .general "session store is down") :=
    .mark rfl (by simp [World.look]) rfl rfl
  refine ⟨policy, made, makes, rfl, grants, fails, ?_, ?_⟩
  · obtain ⟨gate, after, mediates, admits, _⟩ :=
      mediates_requestUser makes (listed 0) guarded rfl rfl
        (tolerates 0 (.inl rfl))
    exact ⟨after, admits.mpr grants ▸ mediates⟩
  · obtain ⟨gate, after, mediates, _, _, denies⟩ :=
      mediates_requestUser makes (listed 1) guarded rfl rfl
        (tolerates 1 (.inr rfl))
    obtain ⟨denied, noted⟩ := denies _ fails
    exact ⟨after, denied ▸ mediates, noted⟩

end Policy

end RoleGuard
