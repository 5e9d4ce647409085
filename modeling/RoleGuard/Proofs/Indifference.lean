import RoleGuard.Proofs.Enforcement

/-!
# Decisions depend on the role alone

A plain rule is made of the rules that allow and deny everyone and of rules for
roles.  What it answers for an identity whose role can be read is settled by
that role, and asking it notes nothing.  A policy with a plain fallback rule is
therefore indifferent to all else that an identity holds: it treats identities
of one role alike, and so does its guard.
-/

namespace RoleGuard

namespace Rule

/-- A rule made of those that allow and deny everyone and of rules for roles,
nested in disjunctions. -/
inductive Plain : Rule → Prop where
  | allow : Plain .allow
  | deny : Plain .deny
  | role (name : Value) : Plain (.role name)
  | anyOf {rules : List Rule} :
      (∀ rule ∈ rules, Plain rule) → Plain (.anyOf rules)

mutual

/-- Whether a plain rule holds for a role. -/
def holds : Rule → Option String → Bool
  | .constant said, _ => said.truthy
  | .role name, held => (roleValue held).same name
  | .anyOf rules, held => holdsAny rules held
  | _, _ => false

def holdsAny : List Rule → Option String → Bool
  | [], _ => false
  | rule :: rest, held => rule.holds held || holdsAny rest held

end

mutual

/-- A plain rule answers by the role, and notes nothing about an identity whose
role can be read. -/
theorem Plain.runFrom_evaluate {rule : Rule} (plain : rule.Plain)
    {identity : Value} (readable : identity.roleEvents = [])
    (journal : Journal) :
    runFrom (rule.evaluate identity) journal =
      (.ok (.bool (rule.holds identity.role?)), journal) := by
  cases rule with
  | constant said => cases plain <;> rfl
  | role name =>
      rw [evaluate, runFrom_bind_ok (runFrom_roleOf identity journal),
        readable, List.append_nil]
      rfl
  | anyOf rules =>
      have members : ∀ rule ∈ rules, rule.Plain := by
        cases plain with
        | anyOf members => exact members
      rw [evaluate, runFrom_bind_ok
        (runFrom_evaluateAny_plain members readable journal)]
      rfl
  | unimplemented => cases plain
  | explode message => cases plain
  | answer v => cases plain

theorem runFrom_evaluateAny_plain {rules : List Rule}
    (plain : ∀ rule ∈ rules, rule.Plain) {identity : Value}
    (readable : identity.roleEvents = []) (journal : Journal) :
    runFrom (evaluateAny rules identity) journal =
      (.ok (holdsAny rules identity.role?), journal) := by
  cases rules with
  | nil => rfl
  | cons rule rules =>
      obtain ⟨first, rest⟩ := List.forall_mem_cons.mp plain
      rw [evaluateAny, holdsAny,
        runFrom_bind_ok (first.runFrom_evaluate readable journal)]
      cases rule.holds identity.role? with
      | true => rfl
      | false => exact runFrom_evaluateAny_plain rest readable journal

end

theorem plain_rolesRule (names : List String) : (rolesRule names).Plain := by
  refine .anyOf fun rule member => ?_
  obtain ⟨name, _, rfl⟩ := List.mem_map.mp member
  exact .role _

/-- A plain rule that is shown answers by the role of the identity as it
stands. -/
theorem Plain.runFrom_callValue {r : Rule} (plain : r.Plain)
    {rule identity : Value} {world : World} (isRule : rule.isRule = true)
    (shown : (world.refresh rule).HasRule r)
    (readable : (world.look identity).roleEvents = []) :
    runFrom (callValue rule identity) world =
      (.ok (.bool (r.holds (world.look identity).role?)), world) := by
  rw [runFrom_callValue_rule isRule shown, Act.runFrom_ofLogged,
    plain.runFrom_evaluate readable]

end Rule

namespace Guard

variable {rule identity : Value} {known : World}

/-- How a guard ends whose rule has said whether it allows, or has failed. -/
def gateOf (guard : Guard) (known : World) :
    Except Fault Bool → Except Stop Unit
  | .ok true => .ok ()
  | .ok false => .error (guard.denial known)
  | .error fault =>
      .error (if (known.look guard.debug).truthy then .fault fault
        else guard.denial known)

/-- What a guard notes about a role that its rule allows or does not allow. -/
def eventsOf (type field : String) (role : Option String) (allowed : Bool) :
    Journal :=
  if allowed then [] else [.accessDenied type field role]

/-- A guard that asks a plain rule lets pass, denies and notes by the role. -/
theorem runFrom_authorize_plain (guard : Guard) {r : Rule} (plain : r.Plain)
    (isRule : rule.isRule = true) (shown : (known.refresh rule).HasRule r)
    (readable : (known.look identity).roleEvents = []) (call : FieldCall) :
    runFrom (guard.authorize rule identity call) known =
      (guard.gateOf known (.ok (r.holds (known.look identity).role?)),
        known.noted (eventsOf call.type call.field (known.look identity).role?
          (r.holds (known.look identity).role?))) := by
  rw [authorize, runFrom_bind, runFrom_allows,
    plain.runFrom_callValue isRule shown readable]
  cases r.holds (known.look identity).role? with
  | true =>
      change (Except.ok (), known) = (Except.ok (), known.noted [])
      rw [World.noted_nil]
  | false =>
      -- of an identity whose role can be read, a denial notes the role alone
      have denied := guard.runFrom_deny identity call known
      rw [readable, List.append_nil] at denied
      exact denied

end Guard

/-- Two worlds that show the same fallback rule, the same message of denials and
the same debug flag of a policy. -/
structure Policy.LooksAlike (policy : Policy) (r : Rule) (world other : World) :
    Prop where
  rule : (world.refresh policy.fallbackRule).HasRule r
  ruleToo : (other.refresh policy.fallbackRule).HasRule r
  message : other.refresh policy.fallbackError =
    world.refresh policy.fallbackError
  debug : (other.look policy.debug).truthy = (world.look policy.debug).truthy

/-- How a policy treats two identities alike, each in a world of its own. -/
structure Policy.Indifferent (policy : Policy) (resolver : Value)
    (type field : String) (who whoToo : Value) (known knownToo : World) :
    Prop where
  /-- The tree has one answer for both, and nothing is noted. -/
  checks : ∃ allowed : Bool,
    runFrom (Act.ofLogged (policy.permissions.check (.text type) (.text field)
      (known.look who))) known = (.ok (.bool allowed), known) ∧
    runFrom (Act.ofLogged (policy.permissions.check (.text type) (.text field)
      (knownToo.look whoToo))) knownToo = (.ok (.bool allowed), knownToo)
  /-- The policy has one answer for both, and nothing is noted. -/
  answers : ∃ allowed : Bool,
    runFrom (policy.isAllowedNow (.text type) (.text field) who) known =
      (.ok (.bool allowed), known) ∧
    runFrom (policy.isAllowedNow (.text type) (.text field) whoToo) knownToo =
      (.ok (.bool allowed), knownToo)
  /-- A guard that resolves the two identities for two calls of the field admits
  both calls or stops both in the same way, and notes the same: nothing on an
  admission and the access denied on a denial. -/
  mediates : Guard.isIntrospection field = false →
    ∀ (call callToo : FieldCall) (start startToo : World),
    call.type = type → call.field = field →
    callToo.type = type → callToo.field = field →
    runFrom ((policy.guard resolver).identityFor call) start =
      (.ok who, known) →
    runFrom ((policy.guard resolver).identityFor callToo) startToo =
      (.ok whoToo, knownToo) →
    ∃ gate events,
      (policy.guard resolver).Mediates call start gate (known.noted events) ∧
      (policy.guard resolver).Mediates callToo startToo gate
        (knownToo.noted events) ∧
      ((gate = .ok () ∧ events = []) ∨
        (gate = .error ((policy.guard resolver).denial known) ∧
          events = [.accessDenied type field (known.look who).role?]))
  /-- Introspection is let through for both, and nothing is noted. -/
  introspection : Guard.isIntrospection field = true →
    ∀ (call : FieldCall) (start : World), call.field = field →
    (policy.guard resolver).Mediates call start (.ok ()) start

namespace Policy

variable {policy : Policy} {table : Value} {r : Rule}

/-- A policy with a plain fallback rule asks a plain rule for a field, in all
worlds that show the fallback rule the same one. -/
theorem Sound.governs_plainly (sound : policy.Sound table) (plain : r.Plain)
    (type field : String) (world : World) :
    ∃ now : Rule, now.Plain ∧
      ∀ other : World, (other.refresh policy.fallbackRule).HasRule r →
        (other.refresh (policy.governing other type field)).HasRule now ∧
        (policy.governing other type field).isRule = true := by
  rcases sound.rule?_eq world type field with ⟨_, found⟩ | ⟨names, _, found⟩
  · have governs (other : World) :
        policy.governing other type field = policy.fallbackRule := by
      rw [sound.governing_congr world other, governing, found]
      rfl
    refine ⟨r, plain, fun other shown => ?_⟩
    rw [governs other]
    exact ⟨shown, sound.fallback⟩
  · have governs (other : World) :
        policy.governing other type field = (rolesRule names).node := by
      rw [sound.governing_congr world other, governing, found]
      rfl
    refine ⟨rolesRule names, Rule.plain_rolesRule names, fun other _ => ?_⟩
    rw [governs other]
    exact ⟨hasRule_rolesRule other names, rfl⟩

/-- The tree of a policy checks by the role. -/
theorem Sound.checks_role (sound : policy.Sound table) (type field : String)
    (world : World) :
    ∃ answer : Option String → Bool, ∀ identity : Value,
      identity.roleEvents = [] → ∀ journal,
      runFrom (policy.permissions.check (.text type) (.text field) identity)
        journal = (.ok (.bool (answer identity.role?)), journal) := by
  rcases sound.rule?_eq world type field with ⟨_, found⟩ | ⟨names, _, found⟩
  · exact ⟨fun _ => true, fun identity _ =>
      sound.runFrom_check_unruled found identity⟩
  · refine ⟨(rolesRule names).holds, fun identity readable journal => ?_⟩
    rw [sound.runFrom_check_ruled found,
      (Rule.plain_rolesRule names).runFrom_evaluate readable]

/-- What a policy's guard does before it resolves a field for an identity, where
the rule of the field is plain. -/
theorem Sound.runFrom_admission_plain (sound : policy.Sound table)
    (resolver : Value) {now : Rule} (plain : now.Plain) {call : FieldCall}
    {start known : World} {who : Value}
    (asks : (known.refresh
        (policy.governing known call.type call.field)).HasRule now ∧
      (policy.governing known call.type call.field).isRule = true)
    (readable : (known.look who).roleEvents = [])
    (identified : runFrom ((policy.guard resolver).identityFor call) start =
      (.ok who, known)) :
    runFrom ((policy.guard resolver).admission call) start =
      ((policy.guard resolver).gateOf known
          (.ok (now.holds (known.look who).role?)),
        known.noted (Guard.eventsOf call.type call.field (known.look who).role?
          (now.holds (known.look who).role?))) := by
  have guarding : start.GuardingTree (policy.guard resolver).tree :=
    sound.guarding start
  rw [Guard.admission, runFrom_bind_ok (Guard.runFrom_ruleFor guarding call),
    runFrom_bind_ok identified, sound.governing_guard,
    sound.governing_congr known start]
  exact (policy.guard resolver).runFrom_authorize_plain plain asks.2 asks.1
    readable call

theorem LooksAlike.gateOf_eq {known knownToo : World}
    (alike : policy.LooksAlike r known knownToo) (resolver : Value)
    (said : Except Fault Bool) :
    (policy.guard resolver).gateOf knownToo said =
      (policy.guard resolver).gateOf known said := by
  have denials : (policy.guard resolver).denial knownToo =
      (policy.guard resolver).denial known :=
    congrArg (fun message => Stop.fault (.denied (.ofMessage message)))
      alike.message
  have debugs : (knownToo.look (policy.guard resolver).debug).truthy =
      (known.look (policy.guard resolver).debug).truthy := alike.debug
  unfold Guard.gateOf
  rw [denials, debugs]

/-- A policy with a plain fallback rule is indifferent to all but the role of
identities whose role can be read. -/
theorem indifferent_of_role {source : PolicySource} {before made : World}
    (makes : runFrom (make source) before = (.ok policy, made))
    (plain : r.Plain) {known knownToo : World}
    (alike : policy.LooksAlike r known knownToo) {who whoToo : Value}
    (readable : (known.look who).roleEvents = [])
    (readableToo : (knownToo.look whoToo).roleEvents = [])
    (same : (knownToo.look whoToo).role? = (known.look who).role?)
    (resolver : Value) (type field : String) :
    policy.Indifferent resolver type field who whoToo known knownToo := by
  have sound := sound_make makes
  obtain ⟨now, isPlain, governs⟩ :=
    sound.governs_plainly plain type field known
  obtain ⟨shown, isRule⟩ := governs known alike.rule
  obtain ⟨shownToo, isRuleToo⟩ := governs knownToo alike.ruleToo
  refine ⟨?_, ?_, ?_, ?_⟩
  · obtain ⟨answer, checks⟩ := sound.checks_role type field known
    refine ⟨answer (known.look who).role?, ?_, ?_⟩
    · rw [Act.runFrom_ofLogged, checks _ readable]
    · rw [Act.runFrom_ofLogged, checks _ readableToo, same]
  · refine ⟨now.holds (known.look who).role?, ?_, ?_⟩
    · rw [sound.runFrom_isAllowedNow,
        isPlain.runFrom_callValue isRule shown readable]
    · rw [sound.runFrom_isAllowedNow,
        isPlain.runFrom_callValue isRuleToo shownToo readableToo, same]
  · intro guarded call callToo start startToo isType isField isTypeToo
      isFieldToo identified identifiedToo
    subst isType isField
    have admits := sound.runFrom_admission_plain resolver isPlain
      ⟨shown, isRule⟩ readable identified
    have asksToo : (knownToo.refresh (policy.governing knownToo callToo.type
          callToo.field)).HasRule now ∧
        (policy.governing knownToo callToo.type callToo.field).isRule =
          true := by
      rw [isTypeToo, isFieldToo]
      exact ⟨shownToo, isRuleToo⟩
    have admitsToo := sound.runFrom_admission_plain resolver isPlain asksToo
      readableToo identifiedToo
    rw [alike.gateOf_eq, same, isTypeToo, isFieldToo] at admitsToo
    have guardedToo : Guard.isIntrospection callToo.field = false := by
      rw [isFieldToo]
      exact guarded
    refine ⟨_, _,
      Guard.mediates_admission _ guarded (sound.guarding start) admits,
      Guard.mediates_admission _ guardedToo (sound.guarding startToo) admitsToo,
      ?_⟩
    cases now.holds (known.look who).role? with
    | true => exact .inl ⟨rfl, rfl⟩
    | false => exact .inr ⟨rfl, rfl⟩
  · intro unguarded call start isField
    exact Guard.mediates_introspection _ (by rw [isField]; exact unguarded)
      start

/-- A policy that lets administrators read one field, and its fallback rule
wherever nothing is listed. -/
def fallbackSource (r : Rule) : PolicySource where
  roles := .texts ["ADMIN", "DEVELOPER"]
  schema := .map [(.text "Query", .map [(.text "users", .texts ["ADMIN"])])]
  getUser := .provided .alwaysAdmin
  fallbackRule := .rule r

theorem made_fallbackSource (r : Rule) :
    ∃ policy made,
      runFrom (make (fallbackSource r)) (World.initial .bare false) =
        (.ok policy, made) ∧
      policy.fallbackRule = .rule r ∧
      policy.fallbackError = .text Denial.defaultMessage ∧
      policy.debug = .bool false :=
  ⟨_, _, rfl, rfl, rfl, rfl⟩

def developersOnly : Rule :=
  .anyOf [.deny, .anyOf [.role (.text "DEVELOPER")]]

/-- A mapping and an object with attributes, which have the same role and
nothing else in common. -/
def developers : Value × Value :=
  (.map [(.text "role", .text "DEVELOPER"), (.text "name", .text "Ann")],
    .record [("salary", .int 9), ("role", .text "DEVELOPER")])

theorem indifferent_developers :
    ∃ policy made,
      runFrom (make (fallbackSource developersOnly))
        (World.initial .bare false) = (.ok policy, made) ∧
      developersOnly.Plain ∧
      policy.LooksAlike developersOnly made (World.initial .bare true) ∧
      (made.look developers.1).roleEvents = [] ∧
      ((World.initial .bare true).look developers.2).roleEvents = [] ∧
      ((World.initial .bare true).look developers.2).role? =
        (made.look developers.1).role? ∧
      policy.Indifferent .null "Query" "posts" developers.1 developers.2 made
        (World.initial .bare true) := by
  obtain ⟨policy, made, makes, fallback, message, debug⟩ :=
    made_fallbackSource developersOnly
  have closed : developersOnly.Closed := fun _ => rfl
  have plain : developersOnly.Plain := by
    refine .anyOf fun rule member => ?_
    simp only [List.mem_cons, List.not_mem_nil, or_false] at member
    rcases member with rfl | rfl
    · exact .deny
    · exact .anyOf (List.forall_mem_singleton.mpr (.role _))
  have shown (world : World) :
      (world.refresh policy.fallbackRule).HasRule developersOnly := by
    rw [fallback]
    exact closed.hasRule rfl
  have alike : policy.LooksAlike developersOnly made (World.initial .bare true) := by
    refine ⟨shown made, shown _, ?_, ?_⟩
    · rw [message]
      rfl
    · rw [debug]
      rfl
  exact ⟨policy, made, makes, plain, alike, rfl, rfl, rfl,
    indifferent_of_role makes plain alike rfl rfl rfl .null "Query" "posts"⟩

end Policy

end RoleGuard
