import RoleGuard.Proofs.Compilation
import RoleGuard.Proofs.History
import RoleGuard.Proofs.Identification
import RoleGuard.Proofs.Noting
import RoleGuard.Proofs.Retention

/-!
# A policy and the guard that enforces it

A policy answers for identities that have been resolved already, its tree checks
them by itself, and its guard resolves them through the context that the policy
has prepared.  `Policy.Agrees` says how the three go together.
-/

namespace RoleGuard

namespace PermissionTree

/-- The nodes of a compiled tree are no objects. -/
theorem plain_ofEntries (world : World) (entries : List (String × Entry)) :
    ∀ node ∈ (ofEntries entries).nodes, world.look node.2 = node.2 := by
  intro node member
  obtain ⟨⟨type, entry⟩, _, rfl⟩ := List.mem_map.mp member
  cases entry <;> rfl

/-- A compiled tree guards in every world. -/
theorem guarding_ofEntries (world : World) (entries : List (String × Entry)) :
    world.GuardingTree (ofEntries entries) := by
  intro node member
  obtain ⟨⟨type, entry⟩, _, rfl⟩ := List.mem_map.mp member
  cases entry with
  | wholeType roles => exact .rule rfl
  | fields listed =>
      refine .mapping rfl (fun _ _ broken => nomatch broken) ?_
      intro field fieldMember
      obtain ⟨_, _, rfl⟩ := List.mem_map.mp fieldMember
      rfl

/-- A tree whose nodes are met as they are has the rule that it has as things
stand. -/
theorem runFrom_ruleFor_eq {tree : PermissionTree} {world : World}
    (guarding : world.GuardingTree tree)
    (plain : ∀ node ∈ tree.nodes, world.look node.2 = node.2)
    (type field : String) (journal : Journal) :
    runFrom (tree.ruleFor (.text type) (.text field)) journal =
      (.ok ((tree.rule? world type field).getD .null), journal) := by
  unfold rule?
  cases found : Value.find? tree.nodes (.text type) with
  | none => exact runFrom_ruleFor_absent found (.text field) journal
  | some node =>
      obtain ⟨key, member⟩ := Value.mem_of_find? found
      have answered := (guarding _ member).nodeAnswer_eq field
      rw [plain _ member] at answered
      exact runFrom_ruleFor_node found answered journal

theorem isRule_of_rule? {tree : PermissionTree} {world : World}
    (guarding : world.GuardingTree tree) {type field : String} {rule : Value}
    (found : tree.rule? world type field = some rule) :
    (world.look rule).isRule = true := by
  obtain ⟨node, foundNode, ruled⟩ := Option.bind_eq_some_iff.mp found
  obtain ⟨key, member⟩ := Value.mem_of_find? foundNode
  exact (guarding _ member).isRule_of_nodeRule? ruled

/-- What a compiled tree has for a field, in every world: no rule where the
table lists nothing, and else one for the roles listed. -/
theorem rule?_ofEntries {table : Value} {entries : List (String × Entry)}
    (related : List.Forall₂ (ReadAs Entry.Means) (table.entries?.getD [])
      entries) (world : World) (type field : String) :
    (table.listed? type field = none ∧
      (ofEntries entries).rule? world type field = none) ∨
    ∃ items names, table.listed? type field = some items ∧
      (∀ name, name ∈ names ↔ .text name ∈ items) ∧
      (ofEntries entries).rule? world type field =
        some (rolesRule names).node := by
  have guarding := guarding_ofEntries world entries
  have ruled := runFrom_ruleFor_eq guarding (plain_ofEntries world entries)
    type field []
  rcases runFrom_ruleFor_ofEntries related type field [] with
    ⟨unlisted, found⟩ | ⟨items, names, listed, sameRoles, found⟩
  · rw [found] at ruled
    cases isRule : (ofEntries entries).rule? world type field with
    | none => exact .inl ⟨unlisted, rfl⟩
    | some rule =>
        rw [isRule] at ruled
        cases ruled
        cases isRule_of_rule? guarding isRule
  · rw [found] at ruled
    cases isRule : (ofEntries entries).rule? world type field with
    | none =>
        rw [isRule] at ruled
        cases ruled
    | some rule =>
        rw [isRule] at ruled
        cases ruled
        exact .inr ⟨items, names, listed, sameRoles, rfl⟩

end PermissionTree

/-- What every policy has that is made from a table. -/
structure Policy.Sound (policy : Policy) (table : Value) : Prop where
  compiled : ∃ entries,
    List.Forall₂ (ReadAs Entry.Means) (table.entries?.getD []) entries ∧
    policy.permissions = PermissionTree.ofEntries entries
  callable : policy.getUser.isCallable = true
  fallback : policy.fallbackRule.isRule = true

/-- What making a policy goes through. -/
theorem Policy.compiled_of_make {source : PolicySource} {policy : Policy}
    {before made : World}
    (makes : runFrom (make source) before = (.ok policy, made)) :
    source.getUser.isCallable = true ∧ source.fallbackRule.isRule = true ∧
    ∃ tree journal,
      runFrom (PermissionTree.compile (before.refresh source.roles)
        (before.refresh source.schema)) before.journal = (.ok tree, journal) ∧
      policy = {
        permissions := tree
        roles := .sequence .tuple
          ((before.refresh source.roles).roleItems?.getD [])
        schema := source.schema
        getUser := source.getUser
        contextKey := source.contextKey
        fallbackRule := source.fallbackRule
        fallbackError := source.fallbackError
        debug := source.debug } := by
  unfold make at makes
  rw [runFrom_bind_ok (Act.runFrom_refresh _ before),
    runFrom_bind_ok (Act.runFrom_refresh _ before)] at makes
  obtain ⟨compiled, between, compiles, returns⟩ := runFrom_bind_eq_ok makes
  cases returns
  rw [Act.runFrom_ofLogged] at compiles
  generalize run : runFrom (compile _) before.journal = ended at compiles
  obtain ⟨ending, journal⟩ := ended
  cases ending with
  | error fault => cases compiles
  | ok policy =>
      cases compiles
      unfold compile at run
      split at run
      · cases run
      · rename_i callable
        split at run
        · cases run
        · rename_i fallback
          obtain ⟨tree, _, treeCompiled, returns⟩ := runFrom_bind_eq_ok run
          cases returns
          exact ⟨by simpa using callable, by simpa using fallback, tree, _,
            treeCompiled, rfl⟩

theorem Policy.sound_make {source : PolicySource} {policy : Policy}
    {before made : World}
    (makes : runFrom (make source) before = (.ok policy, made)) :
    policy.Sound (before.refresh source.schema) := by
  obtain ⟨callable, fallback, tree, journal, compiled, rfl⟩ :=
    compiled_of_make makes
  exact ⟨compile_related compiled, callable, fallback⟩

namespace Policy

/-- The rule that a policy has for a field: its tree's, or else the fallback
rule. -/
def governing (policy : Policy) (world : World) (type field : String) : Value :=
  (policy.permissions.rule? world type field).getD policy.fallbackRule

variable {policy : Policy} {table : Value}

theorem Sound.guarding (sound : policy.Sound table) (world : World) :
    world.GuardingTree policy.permissions := by
  obtain ⟨entries, _, isCompiled⟩ := sound.compiled
  rw [isCompiled]
  exact PermissionTree.guarding_ofEntries world entries

/-- Where the table lists roles the tree has the rule for them. -/
theorem Sound.rule?_listed (sound : policy.Sound table) {type field : String}
    {items : List Value} (listed : table.listed? type field = some items)
    (world : World) :
    ∃ names, (∀ name, name ∈ names ↔ .text name ∈ items) ∧
      policy.permissions.rule? world type field =
        some (rolesRule names).node := by
  obtain ⟨entries, related, isCompiled⟩ := sound.compiled
  rw [isCompiled]
  rcases PermissionTree.rule?_ofEntries related world type field with
    ⟨unlisted, _⟩ | ⟨_, names, listed', sameRoles, found⟩
  · cases listed.symm.trans unlisted
  · cases listed.symm.trans listed'
    exact ⟨names, sameRoles, found⟩

/-- Where the table lists nothing the tree has no rule, and else it has one for
the roles listed. -/
theorem Sound.rule?_eq (sound : policy.Sound table) (world : World)
    (type field : String) :
    (table.listed? type field = none ∧
      policy.permissions.rule? world type field = none) ∨
    ∃ names, table.listed? type field ≠ none ∧
      policy.permissions.rule? world type field =
        some (rolesRule names).node := by
  obtain ⟨entries, related, isCompiled⟩ := sound.compiled
  rw [isCompiled]
  rcases PermissionTree.rule?_ofEntries related world type field with
    unlisted | ⟨_, names, listed, _, found⟩
  · exact .inl unlisted
  · exact .inr ⟨names, by simp [listed], found⟩

/-- The rules of a policy do not change with the world. -/
theorem Sound.governing_congr (sound : policy.Sound table)
    (world other : World) (type field : String) :
    policy.governing other type field = policy.governing world type field := by
  obtain ⟨entries, _, isCompiled⟩ := sound.compiled
  have same : policy.permissions.rule? other type field =
      policy.permissions.rule? world type field := by
    rw [isCompiled]
    unfold PermissionTree.rule?
    cases found : Value.find? (PermissionTree.ofEntries entries).nodes
        (.text type) with
    | none => rfl
    | some node =>
        obtain ⟨key, member⟩ := Value.mem_of_find? found
        have plain (here : World) : here.look node = node :=
          PermissionTree.plain_ofEntries here entries _ member
        simp only [Option.bind_some, World.nodeRule?, plain]
  rw [governing, governing, same]

/-- The guard of a policy asks the rule that the policy has. -/
theorem Sound.governing_guard (sound : policy.Sound table)
    (resolver : Value) (world : World) (call : FieldCall) :
    (policy.guard resolver).governing world call =
      policy.governing world call.type call.field := by
  unfold Guard.governing governing guard
  rcases sound.rule?_eq world call.type call.field with
    ⟨_, found⟩ | ⟨names, _, found⟩
  · simp only [found, Option.getD_none]
  · simp only [found, Option.getD_some]
    rfl

theorem Sound.runFrom_treeRule (sound : policy.Sound table) (world : World)
    (type field : String) (journal : Journal) :
    runFrom (policy.permissions.ruleFor (.text type) (.text field)) journal =
      (.ok ((policy.permissions.rule? world type field).getD .null),
        journal) := by
  obtain ⟨entries, _, isCompiled⟩ := sound.compiled
  rw [isCompiled]
  exact PermissionTree.runFrom_ruleFor_eq
    (PermissionTree.guarding_ofEntries world entries)
    (PermissionTree.plain_ofEntries world entries) type field journal

/-- Where the tree has no rule, it lets everyone pass. -/
theorem Sound.runFrom_check_unruled (sound : policy.Sound table)
    {world : World} {type field : String}
    (found : policy.permissions.rule? world type field = none)
    (identity : Value) (journal : Journal) :
    runFrom (policy.permissions.check (.text type) (.text field) identity)
      journal = (.ok (.bool true), journal) := by
  rw [PermissionTree.check,
    runFrom_bind_ok (sound.runFrom_treeRule world type field journal), found]
  rfl

theorem Sound.runFrom_check_ruled (sound : policy.Sound table) {world : World}
    {type field : String} {names : List String}
    (found : policy.permissions.rule? world type field =
      some (rolesRule names).node) (identity : Value) (journal : Journal) :
    runFrom (policy.permissions.check (.text type) (.text field) identity)
      journal = runFrom ((rolesRule names).evaluate identity) journal := by
  rw [PermissionTree.check,
    runFrom_bind_ok (sound.runFrom_treeRule world type field journal), found]
  change runFrom ((rolesRule names).node.ask identity) journal = _
  simp only [Value.ask, Rule.node, Value.callBy, Logged.caller]

/-- A policy asks the rule that it has for a field. -/
theorem Sound.runFrom_isAllowedNow (sound : policy.Sound table)
    (type field : String) (identity : Value) (world : World) :
    runFrom (policy.isAllowedNow (.text type) (.text field) identity) world =
      runFrom (callValue (policy.governing world type field) identity)
        world := by
  have ruled : runFrom (policy.ruleFor (.text type) (.text field))
      world.journal = (.ok (policy.governing world type field),
        world.journal) := by
    rw [ruleFor,
      runFrom_bind_ok (sound.runFrom_treeRule world type field _), governing]
    rcases sound.rule?_eq world type field with
      ⟨_, found⟩ | ⟨names, _, found⟩
    · rw [found]
      rfl
    · rw [found]
      rfl
  have asked : runFrom
      (Act.ofLogged (policy.ruleFor (.text type) (.text field))) world =
      (.ok (policy.governing world type field), world) := by
    rw [Act.runFrom_ofLogged, ruled]
  exact runFrom_bind_ok asked

theorem replaceObjects_rolesRule (object : Nat → Value → Value)
    (names : List String) :
    (rolesRule names).replaceObjects object = rolesRule names := by
  have unchanged : replaceRules object
      (names.map fun name => Rule.role (.text name)) =
      names.map fun name => Rule.role (.text name) := by
    induction names with
    | nil => rfl
    | cons name names ih =>
        simp only [List.map_cons, replaceRules, Rule.replaceObjects,
          Value.replaceObjects, ih]
  exact congrArg Rule.anyOf unchanged

theorem closed_rolesRule (names : List String) : (rolesRule names).Closed :=
  fun object => replaceObjects_rolesRule object names

theorem hasRule_rolesRule (world : World) (names : List String) :
    (world.refresh (rolesRule names).node).HasRule (rolesRule names) :=
  (closed_rolesRule names).hasRule rfl

/-- Where the table lists roles, a policy answers as its tree does. -/
theorem Sound.isAllowedNow_listed (sound : policy.Sound table)
    {type field : String} (listed : table.listed? type field ≠ none)
    (identity : Value) (world : World) :
    runFrom (policy.isAllowedNow (.text type) (.text field) identity) world =
      runFrom (Act.ofLogged (policy.permissions.check (.text type)
        (.text field) (world.look identity))) world := by
  rcases sound.rule?_eq world type field with
    ⟨unlisted, _⟩ | ⟨names, _, found⟩
  · exact absurd unlisted listed
  · rw [sound.runFrom_isAllowedNow, governing, found]
    change runFrom (callValue (rolesRule names).node identity) world = _
    rw [runFrom_callValue_rule rfl (hasRule_rolesRule world names),
      Act.runFrom_ofLogged, Act.runFrom_ofLogged,
      sound.runFrom_check_ruled found]

/-- A policy that has prepared a context has cleared it and published its
resolver in it. -/
theorem applied_context {context target : Value} {start ready : World}
    (key : Value.checkHashable policy.contextKey = .ok ())
    (applies : runFrom (policy.applyContext context) start =
      (.ok target, ready)) :
    ∃ mid forgotten written,
      forgotten.ownMemos = [] ∧
      ((World.replace mid target forgotten).held target).write
        policy.contextKey policy.getUser = .ok written ∧
      ready = (World.replace mid target forgotten).replace target written := by
  cases prepares : prepared start context with
  | mk given mid =>
      obtain ⟨forgotten, forgets, _, own⟩ := Context.runFrom_forget given mid
      rw [policy.applyContext_prepared prepares, runFrom_bind_ok forgets,
        publish_eq key, runFrom_bind, Identity.runFrom_write] at applies
      cases writes : ((mid.replace given forgotten).held given).write
          policy.contextKey policy.getUser with
      | error fault =>
          rw [writes] at applies
          cases applies
      | ok written =>
          rw [writes] at applies
          cases applies
          exact ⟨mid, forgotten, written, own, writes, rfl⟩

end Policy

namespace Policy

variable {policy : Policy} {table : Value}

/-- A guard that has an identity decides by the policy's answer for it. -/
theorem Sound.enforces (sound : policy.Sound table) {call : FieldCall}
    (guarded : Guard.isIntrospection call.field = false) {ready known : World}
    {who : Value}
    (identified : runFrom ((policy.guard .null).identityFor call) ready =
      (.ok who, known)) :
    ∃ gate after, (policy.guard .null).Mediates call ready gate after ∧
      (gate = .ok () ↔ ∃ answer asked,
        runFrom (policy.isAllowedNow (.text call.type) (.text call.field) who)
            known = (.ok answer, asked) ∧
          (asked.look answer).truthy = true) ∧
      ∀ fault asked,
        runFrom (policy.isAllowedNow (.text call.type) (.text call.field) who)
            known = (.error (.fault fault), asked) →
        gate = .error (if (asked.look policy.debug).truthy then .fault fault
          else (policy.guard .null).denial asked) := by
  obtain ⟨gate, after, mediates⟩ :
      ∃ gate after, (policy.guard .null).Mediates call ready gate after :=
    ⟨_, _, Guard.mediates_admission _ guarded (sound.guarding ready) rfl⟩
  have answers := mediates.answers guarded who known identified
  have asks : runFrom (policy.isAllowedNow (.text call.type) (.text call.field)
      who) known =
      runFrom (callValue ((policy.guard .null).governing ready call) who)
        known := by
    rw [sound.runFrom_isAllowedNow, sound.governing_guard,
      sound.governing_congr ready known]
  refine ⟨gate, after, mediates, ?_, ?_⟩
  · rw [asks]
    cases gate with
    | ok _ =>
        obtain ⟨answer, ended, isTrue⟩ := answers
        exact ⟨fun _ => ⟨answer, after, ended, isTrue⟩, fun _ => rfl⟩
    | error stop =>
        constructor
        · intro admitted
          cases admitted
        · rintro ⟨answer, asked, ended, isTrue⟩
          exact absurd ⟨answer, ended, isTrue⟩ answers.not_permits
  · intro fault asked failed
    rw [asks] at failed
    cases gate with
    | ok _ =>
        obtain ⟨answer, ended, _⟩ := answers
        cases failed.symm.trans ended
    | error stop =>
        cases answers with
        | untrue _ ended _ => cases failed.symm.trans ended
        | aborted ended => cases failed.symm.trans ended
        | failed journal ended silent =>
            obtain ⟨_, sameWorld⟩ := Prod.mk.inj (failed.symm.trans ended)
            subst sameWorld
            have isSilent : (asked.look policy.debug).truthy = false := silent
            rw [isSilent, if_neg Bool.false_ne_true]
        | passedOn ended passes =>
            obtain ⟨sameFault, sameWorld⟩ :=
              Prod.mk.inj (failed.symm.trans ended)
            cases sameFault
            subst sameWorld
            have isDebug : (asked.look policy.debug).truthy = true := passes
            rw [isDebug, if_pos rfl]

/-- A policy that lets administrators read one field. -/
def sampleSource : PolicySource where
  roles := .texts ["ADMIN"]
  schema := .map [(.text "Query", .map [(.text "users", .texts ["ADMIN"])])]
  getUser := .resolver 0 none

def sampleResolver : Resolver :=
  ⟨"who", true, [.value (.identity (.text "ADMIN") .null)], 0⟩

def sampleStart : World :=
  { World.initial .bare true with resolvers := [sampleResolver] }

/-- The world with a context that the policy has prepared. -/
def sampleReady : World :=
  { sampleStart with objects := [.map [(.text "user", .resolver 0 none)]] }

def sampleCall : FieldCall where
  type := "Query"
  field := "users"
  context := .object 0 (.map [])
  operation := some "query"
  root := .null
  arguments := []

theorem made_sampleSource :
    ∃ policy made, runFrom (make sampleSource) sampleStart = (.ok policy, made) ∧
      policy.contextKey = .text "user" ∧
      policy.getUser = .resolver 0 none ∧ policy.fallbackRule = .rule .allow :=
  ⟨_, _, rfl, rfl, rfl, rfl⟩

end Policy

end RoleGuard
