import RoleGuard.Execution
import RoleGuard.Proofs.Lookup
import RoleGuard.Proofs.Role
import RoleGuard.Proofs.Surroundings

/-!
# Complete mediation

A guard lets a field be resolved only after a rule has allowed the identity of
this very call.  `Guard.admission` is all that happens before the field is
resolved; it does not know what resolves the field, and the field is resolved
exactly when the admission ends without a stop.
-/

namespace RoleGuard

namespace World

/-- A node that guards fields as things stand: a rule, or a mapping to rules
whose look-ups do not fail. -/
inductive GuardingNode (world : World) (node : Value) : Prop where
  | rule : (world.look node).isRule = true → GuardingNode world node
  | mapping {entries : List (Value × Value)} :
      (world.look node).entries? = some entries →
      (∀ missing message,
        (world.look node).content ≠ .brokenMap missing message) →
      (∀ entry ∈ entries, (world.look entry.2).isRule = true) →
      GuardingNode world node

def GuardingTree (world : World) (tree : PermissionTree) : Prop :=
  ∀ entry ∈ tree.nodes, world.GuardingNode entry.2

end World

/-- The rule that a node has for a field as things stand: a node that is a rule
guards every field, any other one those that it names. -/
def World.nodeRule? (world : World) (node : Value) (field : String) :
    Option Value :=
  if (world.look node).isRule then some (world.look node)
  else Value.find? ((world.look node).entries?.getD []) (.text field)

/-- The rule that a tree has for a field as things stand. -/
def PermissionTree.rule? (tree : PermissionTree) (world : World)
    (type field : String) : Option Value :=
  (Value.find? tree.nodes (.text type)).bind fun node =>
    world.nodeRule? node field

namespace Guard

/-- The rule of a field as things stand: the tree's, or else the fallback
rule. -/
def governing (guard : Guard) (world : World) (call : FieldCall) : Value :=
  match guard.tree.rule? world call.type call.field with
  | some rule => world.look rule
  | none => guard.fallbackRule

/-- The identity that this call resolves, awaited if it has to be. -/
def identityFor (guard : Guard) (call : FieldCall) : Act Value := do
  let identity ← Identity.resolve call.context guard.contextKey
    guard.identityResolver call.operation
  if identity.isPending then identity.await else return identity

/-- What a guard does before a field that it guards is resolved. -/
def admission (guard : Guard) (call : FieldCall) : Act Unit := do
  let rule ← guard.ruleFor call
  let identity ← guard.identityFor call
  guard.authorize rule identity call

end Guard

theorem Value.truthy_of_isRule {v : Value} (isRule : v.isRule = true) :
    v.truthy = true := by
  unfold Value.isRule at isRule
  unfold Value.truthy
  generalize v.content = w at isRule ⊢
  cases w <;> simp_all [Value.items?, Value.content, Value.entries?]

theorem World.look_look (world : World) (v : Value) :
    world.look (world.look v) = world.look v := by
  cases v with
  | object number last =>
      cases held : world.objects[number]? <;>
        simp [World.look, List.getD_eq_getElem?_getD, held]
  | _ => rfl

namespace World.GuardingNode

variable {world : World} {node : Value}

theorem nodeAnswer_eq (guarding : world.GuardingNode node) (field : String) :
    PermissionTree.nodeAnswer (world.look node) (.text field) =
      .ok (.rule ((world.nodeRule? node field).getD .null)) := by
  unfold World.nodeRule?
  by_cases isRule : (world.look node).isRule = true
  · rw [PermissionTree.nodeAnswer_of_isRule isRule, if_pos isRule]
    rfl
  · cases guarding with
    | rule isRule' => exact absurd isRule' isRule
    | @mapping entries isMapping sound rules =>
        have found : (world.look node).get (.text field) .null =
            .ok ((Value.find? entries (.text field)).getD .null) := by
          unfold Value.get
          split
          · rename_i missing message broken
            exact absurd broken (sound missing message)
          · rw [isMapping, Option.getD_some, Value.lookUp_text]
            rfl
        unfold PermissionTree.nodeAnswer
        split
        · rename_i isNull
          simp [Value.entries?, isNull] at isMapping
        · simp only [isRule, Value.isMapping, isMapping, found]
          rfl

theorem isRule_of_nodeRule? (guarding : world.GuardingNode node)
    {field : String} {rule : Value}
    (found : world.nodeRule? node field = some rule) :
    (world.look rule).isRule = true := by
  unfold World.nodeRule? at found
  split at found
  · rename_i isRule
    cases found
    rw [World.look_look]
    exact isRule
  · rename_i notRule
    cases guarding with
    | rule isRule => exact absurd isRule notRule
    | mapping isMapping _ rules =>
        rw [isMapping] at found
        obtain ⟨key, member⟩ := Value.mem_of_find? found
        exact rules _ member

end World.GuardingNode

namespace Guard

theorem runFrom_ruleFor {guard : Guard} {world : World}
    (guarding : world.GuardingTree guard.tree) (call : FieldCall) :
    runFrom (guard.ruleFor call) world =
      (.ok (guard.governing world call), world) := by
  have lookedUp : runFrom (Act.ofExcept (guard.tree.get? (.text call.type)))
      world = (.ok (Value.find? guard.tree.nodes (.text call.type)), world) :=
    rfl
  rw [ruleFor, runFrom_bind_ok lookedUp]
  unfold governing PermissionTree.rule?
  cases found : Value.find? guard.tree.nodes (.text call.type) with
  | none => rfl
  | some node =>
      obtain ⟨key, member⟩ := Value.mem_of_find? found
      have guardingNode := guarding _ member
      simp only [Option.bind_some]
      rw [runFrom_bind_ok (Act.runFrom_look node world),
        guardingNode.nodeAnswer_eq,
        runFrom_bind_ok (Act.runFrom_ofExcept_ok _ world)]
      cases ruled : world.nodeRule? node call.field with
      | none => rfl
      | some rule =>
          have isTrue := Value.truthy_of_isRule
            (guardingNode.isRule_of_nodeRule? ruled)
          change (Except.ok ((world.look rule).orElse guard.fallbackRule),
            world) = _
          rw [Value.orElse, if_pos isTrue]

theorem resolve_introspection (guard : Guard) {call : FieldCall}
    (unguarded : isIntrospection call.field = true) (next : FieldResolver) :
    guard.resolve call next = (next call >>= Value.await) := by
  unfold resolve start
  rw [if_pos unguarded]
  simp only [bind_assoc, pure_bind]
  rfl

/-- A guarded field is resolved after its admission, whether the identity was
there at once or had to be awaited. -/
theorem resolve_guarded (guard : Guard) {call : FieldCall}
    (guarded : isIntrospection call.field = false) (next : FieldResolver) :
    guard.resolve call next =
      (do guard.admission call; next call >>= Value.await) := by
  unfold resolve start admission identityFor
  rw [if_neg (by simp [guarded])]
  simp only [bind_assoc]
  congr 1
  funext rule
  congr 1
  funext identity
  -- the same steps follow, before the guard is suspended or after
  by_cases waits : identity.isPending = true
  · rw [if_pos waits, if_pos waits, pure_bind]
    rfl
  · rw [if_neg waits, if_neg waits]
    simp only [bind_assoc, pure_bind]
    rfl

/-- A rule lets an identity through: it answers, and the answer is true. -/
def Permits (rule identity : Value) (known after : World) : Prop :=
  ∃ answer, runFrom (callValue rule identity) known = (.ok answer, after) ∧
    (after.look answer).truthy = true

def denial (guard : Guard) (world : World) : Stop :=
  .fault (.denied (.ofMessage (world.refresh guard.fallbackError)))

theorem denial_journal (guard : Guard) (world : World) (journal : Journal) :
    guard.denial { world with journal } = guard.denial world := by
  rw [denial, denial, World.refresh_journal]

/-- How a guard stops an identity that a rule does not let through, and the
world afterwards: with its denial, unless the rule fails and the guard passes
failures on, or the rule aborts. -/
inductive Refuses (guard : Guard) (rule identity : Value) (known : World) :
    Stop → World → Prop where
  | untrue {answer : Value} {asked : World} (journal : Journal) :
      runFrom (callValue rule identity) known = (.ok answer, asked) →
      (asked.look answer).truthy = false →
      Refuses guard rule identity known (guard.denial asked)
        { asked with journal }
  | failed {fault : Fault} {asked : World} (journal : Journal) :
      runFrom (callValue rule identity) known = (.error (.fault fault), asked) →
      (asked.look guard.debug).truthy = false →
      Refuses guard rule identity known (guard.denial asked)
        { asked with journal }
  | passedOn {fault : Fault} {asked : World} :
      runFrom (callValue rule identity) known = (.error (.fault fault), asked) →
      (asked.look guard.debug).truthy = true →
      Refuses guard rule identity known (.fault fault) asked
  | aborted {message : String} {asked : World} :
      runFrom (callValue rule identity) known =
        (.error (.abort message), asked) →
      Refuses guard rule identity known (.abort message) asked

theorem runFrom_allows (guard : Guard) (rule identity : Value)
    (call : FieldCall) (known : World) :
    runFrom (guard.allows rule identity call) known =
      match runFrom (callValue rule identity) known with
      | (.ok answer, asked) => (.ok (asked.look answer).truthy, asked)
      | (.error (.abort message), asked) => (.error (.abort message), asked)
      | (.error (.fault fault), asked) =>
          if (asked.look guard.debug).truthy then (.error (.fault fault), asked)
          else
            (.ok false,
              { asked with
                journal := asked.journal ++
                  [.ruleFailed call.type call.field fault] }) := by
  rw [allows, Act.runFrom_tolerate, runFrom_bind]
  obtain ⟨ending, asked⟩ := runFrom (callValue rule identity) known
  cases ending with
  | ok answer => rfl
  | error stop =>
      cases stop with
      | abort message => rfl
      | fault fault =>
          change runFrom (do
            if (← Act.look guard.debug).truthy then Act.fail fault
            else
              Act.note (.ruleFailed call.type call.field fault)
              return false) asked = _
          rw [runFrom_bind_ok (Act.runFrom_look guard.debug asked)]
          by_cases passes : (asked.look guard.debug).truthy = true
          · simp only [passes, if_true]
            rfl
          · simp only [passes]
            rfl

/-- A denial notes a role that cannot be read, and the access denied. -/
theorem runFrom_deny (guard : Guard) (identity : Value) (call : FieldCall)
    (asked : World) :
    runFrom (do
        let role ← Act.ofLogged (roleOf (← Act.look identity))
        Act.note (.accessDenied call.type call.field role)
        (Act.fail (.denied
          (Denial.ofMessage (← Act.refresh guard.fallbackError))) : Act Unit))
        asked =
      (.error (guard.denial asked),
        { asked with
          journal := asked.journal ++ (asked.look identity).roleEvents ++
            [.accessDenied call.type call.field
              (asked.look identity).role?] }) := by
  let read := { asked with
    journal := asked.journal ++ (asked.look identity).roleEvents }
  have readRole : runFrom (Act.ofLogged (roleOf (asked.look identity))) asked =
      (.ok (asked.look identity).role?, read) := by
    rw [Act.runFrom_ofLogged, runFrom_roleOf]
  rw [runFrom_bind_ok (Act.runFrom_look identity asked),
    runFrom_bind_ok readRole, runFrom_bind_ok (Act.runFrom_note _ _),
    runFrom_bind_ok (Act.runFrom_refresh _ _), World.refresh_journal,
    World.refresh_journal]
  rfl

/-- How a guard ends that asked a rule about an identity. -/
def Answers (guard : Guard) (rule identity : Value) (known : World) :
    Except Stop Unit × World → Prop
  | (.ok (), after) => Permits rule identity known after
  | (.error stop, after) => Refuses guard rule identity known stop after

/-- An identity that a rule lets through passes, and any other is refused. -/
theorem answers_authorize (guard : Guard) (rule identity : Value)
    (call : FieldCall) (known : World) :
    guard.Answers rule identity known
      (runFrom (guard.authorize rule identity call) known) := by
  rw [authorize, runFrom_bind, runFrom_allows]
  cases ended : runFrom (callValue rule identity) known with
  | mk ending asked =>
      cases ending with
      | ok answer =>
          by_cases isTrue : (asked.look answer).truthy = true
          · simp only [isTrue, if_true]
            exact ⟨answer, ended, isTrue⟩
          · simp only [isTrue, Bool.false_eq_true, if_false,
              guard.runFrom_deny identity call asked]
            exact .untrue _ ended (by simpa using isTrue)
      | error stop =>
          cases stop with
          | abort message => exact .aborted ended
          | fault fault =>
              by_cases passes : (asked.look guard.debug).truthy = true
              · simp only [passes, if_true]
                exact .passedOn ended passes
              · let noted := { asked with
                  journal := asked.journal ++
                    [Event.ruleFailed call.type call.field fault] }
                simp only [passes, Bool.false_eq_true, if_false]
                rw [guard.runFrom_deny identity call noted,
                  guard.denial_journal asked]
                exact .failed _ ended (by simpa using passes)

theorem Refuses.not_permits {guard : Guard} {rule identity : Value}
    {known after asked : World} {stop : Stop}
    (refuses : Refuses guard rule identity known stop after) :
    ¬ Permits rule identity known asked := by
  rintro ⟨answer, ended, isTrue⟩
  cases refuses with
  | untrue _ ended' isFalse =>
      cases ended.symm.trans ended'
      rw [isTrue] at isFalse
      cases isFalse
  | failed _ ended' _ => cases ended.symm.trans ended'
  | passedOn ended' _ => cases ended.symm.trans ended'
  | aborted ended' => cases ended.symm.trans ended'

/-- Up to the resolution of a field, a guard resolves no field. -/
theorem keeps_visits_admission (guard : Guard) {call : FieldCall}
    {world after : World} {ending : Except Stop Unit}
    (guarding : world.GuardingTree guard.tree)
    (ended : runFrom (guard.admission call) world = (ending, after)) :
    after.visits = world.visits := by
  have identified : Keeps World.visits (guard.identityFor call) := by
    apply (Identity.keeps_resolve fixed_visits _ _ _ _).bind
    intro identity
    split
    · exact identity.keeps_await fixed_visits.toStill
    · exact .pure identity
  have authorized (rule identity : Value) :
      Keeps World.visits (guard.authorize rule identity call) := by
    have allowed : Keeps World.visits (guard.allows rule identity call) := by
      apply Keeps.tolerate
      · apply (keeps_callValue fixed_visits rule identity).bind
        intro answer
        exact (Keeps.look answer).bind fun _ => .pure _
      · intro fault
        apply (Keeps.look guard.debug).bind
        intro debug
        split
        · exact .fail fault
        · apply (Act.keeps_note fixed_visits.noting _).bind
          exact fun _ => .pure false
    apply allowed.bind
    intro isAllowed
    split
    · exact .pure ()
    · apply (Keeps.look identity).bind
      intro now
      apply (Keeps.ofLogged (roleOf now) fixed_visits.noting).bind
      intro role
      apply (Act.keeps_note fixed_visits.noting _).bind
      intro _
      exact (Keeps.refresh guard.fallbackError).bind fun _ => .fail _
  have kept := (identified.bind fun identity =>
    authorized (guard.governing world call) identity) world
  rw [admission, runFrom_bind_ok (runFrom_ruleFor guarding call)] at ended
  rw [ended] at kept
  exact kept

end Guard

/-- The note of a field that is resolved as things stand. -/
def ScriptedField.visit (field : ScriptedField) (world : World)
    (call : FieldCall) : Visit where
  ticket := field.ticket
  root := world.refresh call.root
  arguments := call.arguments.map fun argument =>
    (argument.1, world.refresh argument.2)

/-- Resolving a scripted field notes one visit, also when its result is
awaited. -/
theorem ScriptedField.visits_resolve (field : ScriptedField) (call : FieldCall)
    (world : World) :
    (runFrom (field.resolve call >>= Value.await) world).2.visits =
      world.visits ++ [field.visit world call] := by
  let visited := { world with
    visits := world.visits ++ [field.visit world call] }
  have rest : Keeps World.visits ((do
      if field.deferred then return .pending (.ready field.outcome)
      else field.outcome.run .null : Act Value) >>= Value.await) := by
    apply Keeps.bind
    · split
      · exact .pure _
      · exact field.outcome.keeps_run .null
    · exact Value.keeps_await fixed_visits.toStill
  have resolved : runFrom (field.resolve call >>= Value.await) world =
      runFrom ((do
        if field.deferred then return .pending (.ready field.outcome)
        else field.outcome.run .null : Act Value) >>= Value.await) visited := by
    rw [ScriptedField.resolve, bind_assoc]
    exact runFrom_bind_ok (runFrom_modify _ world)
  rw [resolved, rest visited]

namespace Guard

/-- How a guard mediates a call in a world: `gate` is how its admission ends and
`after` the world that it leaves. -/
structure Mediates (guard : Guard) (call : FieldCall) (world : World)
    (gate : Except Stop Unit) (after : World) : Prop where
  /-- Whatever resolves the field is called with this very call, and what it
  gives is the outcome, or it is not called at all. -/
  outcome : ∀ next, runFrom (guard.resolve call next) world =
    match gate with
    | .ok () => runFrom (next call >>= Value.await) after
    | .error stop => (.error stop, after)
  /-- The field is resolved once or not at all. -/
  visits : ∀ field : ScriptedField,
    (runFrom (guard.resolve call field.resolve) world).2.visits =
      world.visits ++ if gate.isOk then [field.visit after call] else []
  /-- Introspection is let through with nothing done. -/
  introspection : isIntrospection call.field = true →
    gate = .ok () ∧ after = world
  /-- A guarded field is let through exactly when this call resolves an identity
  and the rule of the field lets it through. -/
  admits : isIntrospection call.field = false →
    (gate = .ok () ↔ ∃ identity known asked,
      runFrom (guard.identityFor call) world = (.ok identity, known) ∧
        Permits (guard.governing world call) identity known asked)
  /-- An identity that is resolved is let through or refused. -/
  answers : isIntrospection call.field = false → ∀ identity known,
    runFrom (guard.identityFor call) world = (.ok identity, known) →
      guard.Answers (guard.governing world call) identity known (gate, after)
  /-- What stops the resolution of the identity is the outcome. -/
  unidentified : isIntrospection call.field = false → ∀ stop known,
    runFrom (guard.identityFor call) world = (.error stop, known) →
      gate = .error stop ∧ after = known

theorem mediates_introspection (guard : Guard) {call : FieldCall}
    (unguarded : isIntrospection call.field = true) (world : World) :
    guard.Mediates call world (.ok ()) world where
  outcome next := by rw [guard.resolve_introspection unguarded]
  visits field := by
    rw [guard.resolve_introspection unguarded]
    exact field.visits_resolve call world
  introspection _ := ⟨rfl, rfl⟩
  admits guarded := by simp [unguarded] at guarded
  answers guarded := by simp [unguarded] at guarded
  unidentified guarded := by simp [unguarded] at guarded

/-- What a guarded field's admission says settles how the guard mediates. -/
theorem mediates_admission (guard : Guard) {call : FieldCall}
    {world after : World} {gate : Except Stop Unit}
    (guarded : isIntrospection call.field = false)
    (guarding : world.GuardingTree guard.tree)
    (ended : runFrom (guard.admission call) world = (gate, after)) :
    guard.Mediates call world gate after := by
  have ruled := runFrom_ruleFor guarding call
  have unvisited := guard.keeps_visits_admission guarding ended
  have answers (identity : Value) (known : World)
      (identified : runFrom (guard.identityFor call) world =
        (.ok identity, known)) :
      guard.Answers (guard.governing world call) identity known
        (gate, after) := by
    rw [admission, runFrom_bind_ok ruled, runFrom_bind_ok identified] at ended
    rw [← ended]
    exact guard.answers_authorize _ identity call known
  have unidentified (stop : Stop) (known : World)
      (stopped : runFrom (guard.identityFor call) world =
        (.error stop, known)) : gate = .error stop ∧ after = known := by
    rw [admission, runFrom_bind_ok ruled, runFrom_bind_error stopped] at ended
    cases ended
    exact ⟨rfl, rfl⟩
  refine ⟨?_, ?_, ?_, fun _ => ?_, fun _ => answers, fun _ => unidentified⟩
  · intro next
    rw [guard.resolve_guarded guarded, runFrom_bind, ended]
    cases gate <;> rfl
  · intro field
    rw [guard.resolve_guarded guarded, runFrom_bind, ended]
    cases gate with
    | ok _ =>
        have resolved := field.visits_resolve call after
        rw [unvisited] at resolved
        exact resolved
    | error stop => simpa [Except.isOk, Except.toBool] using unvisited
  · intro unguarded
    simp [unguarded] at guarded
  · cases identified : runFrom (guard.identityFor call) world with
    | mk ending known =>
        cases ending with
        | error stop =>
            obtain ⟨rfl, _⟩ := unidentified stop known identified
            simp
        | ok identity =>
            have answered := answers identity known identified
            cases gate with
            | ok _ => exact ⟨fun _ => ⟨identity, known, after, rfl, answered⟩,
                fun _ => rfl⟩
            | error stop =>
                constructor
                · intro passed
                  cases passed
                · rintro ⟨_, _, asked, same, permits⟩
                  cases same
                  exact absurd permits answered.not_permits

def sampleCall : FieldCall where
  type := "Query"
  field := "users"
  context := .map [(.text "user", .text "someone")]
  operation := none
  root := .null
  arguments := []

end Guard

end RoleGuard
