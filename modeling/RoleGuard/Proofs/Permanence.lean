import RoleGuard.Proofs.Sealing

/-!
# A policy that has been made cannot be changed

Attempts to change the tree of a policy are refused, and what becomes of the
objects that the policy was made from does not show in it.  Only what a question
is about can change an answer: the identity and, where the table lists nothing,
the fallback rule.
-/

namespace RoleGuard

/-- A world whose objects hold what they hold in another, except those with
certain numbers. -/
structure World.ChangedAt (changed : Nat → Prop) (world later : World) :
    Prop where
  length : later.objects.length = world.objects.length
  same : ∀ number, ¬ changed number →
    later.objects[number]? = world.objects[number]?

/-- Of the objects a value refers only to some, whatever they hold. -/
def Value.Confined (inside : Nat → Prop) (v : Value) : Prop :=
  ∀ object object' : Nat → Value → Value,
    (∀ number last, inside number →
      object number last = object' number last) →
    v.replaceObjects object = v.replaceObjects object'

/-- Some objects of the store that refer only to each other. -/
def World.Encloses (world : World) (inside : Nat → Prop) : Prop :=
  ∀ number, inside number → ∃ now,
    world.objects[number]? = some now ∧ now.Confined inside

namespace World.ChangedAt

variable {changed inside : Nat → Prop} {world between later : World}

theorem refl (changed : Nat → Prop) (world : World) :
    ChangedAt changed world world := by
  constructor
  · rfl
  · intro number _
    rfl

theorem trans (first : ChangedAt changed world between)
    (second : ChangedAt changed between later) :
    ChangedAt changed world later := by
  constructor
  · exact second.length.trans first.length
  · intro number unchanged
    exact (second.same number unchanged).trans (first.same number unchanged)

theorem replace (target v : Value)
    (isChanged : ∀ number, target.number? = some number → changed number) :
    ChangedAt changed world (world.replace target v) := by
  cases target with
  | object number last =>
      constructor
      · simp only [World.replace, List.length_set]
      · intro other unchanged
        have apart : number ≠ other := by
          intro same
          subst same
          exact unchanged (isChanged number rfl)
        simp only [World.replace, List.getElem?_set_ne apart]
  | _ => exact refl changed world

/-- What is no changed object looks as it did. -/
theorem look_eq (changes : ChangedAt changed world later) {v : Value}
    (unchanged : ∀ number, v.number? = some number → ¬ changed number) :
    later.look v = world.look v := by
  cases v with
  | object number last =>
      have same := changes.same number (unchanged number rfl)
      simp only [World.look, List.getD_eq_getElem?_getD, same]
  | _ => rfl

/-- So does, with all that it refers to, what refers to no changed object,
neither itself nor by way of others. -/
theorem refresh_eq (changes : ChangedAt changed world later)
    (encloses : world.Encloses inside)
    (unchanged : ∀ number, inside number → ¬ changed number) {v : Value}
    (confined : v.Confined inside) : later.refresh v = world.refresh v := by
  have within (depth : Nat) : ∀ outer v, Value.Confined inside v →
      later.refreshWithin depth outer v =
        world.refreshWithin depth outer v := by
    induction depth with
    | zero => exact fun _ _ _ => rfl
    | succ depth ih =>
        intro outer v confined
        -- objects inside lead only to objects inside, so `ih` applies to them
        apply confined
        intro number last isInside
        obtain ⟨now, stored, nowConfined⟩ := encloses number isInside
        have storedLater := changes.same number (unchanged number isInside)
        simp only [List.getD_eq_getElem?_getD, storedLater, stored,
          Option.getD_some, ih _ now nowConfined]
  unfold World.refresh
  rw [changes.length]
  exact within _ [] v confined

end World.ChangedAt

/-- Two operations that end in the same way, each in a world of its own, and
only note, the same events. -/
def Act.Alike (first : Act α) (world : World) (second : Act α)
    (other : World) : Prop :=
  ∃ ending events, runFrom first world = (ending, world.noted events) ∧
    runFrom second other = (ending, other.noted events)

theorem alike_callValue_rule {rule identity : Value} {r : Rule}
    {world other : World} (isRule : rule.isRule = true)
    (shown : (world.refresh rule).HasRule r)
    (shownToo : (other.refresh rule).HasRule r)
    (same : (world.look identity).SameRole (other.look identity)) :
    Act.Alike (callValue rule identity) world (callValue rule identity)
      other := by
  have notes : Notes (fun here there => here = world ∧ there = other)
      (callValue rule identity) := by
    apply Notes.callValue_rule isRule
    · rintro _ _ ⟨rfl, rfl⟩
      exact ⟨r, shown, shownToo⟩
    · rintro _ _ ⟨rfl, rfl⟩
      exact same
  exact notes world other ⟨rfl, rfl⟩

/-- A rule whose answers are no objects. -/
def Rule.answersPlainly : Rule → Bool
  | .constant said => said.number?.isNone
  | .answer v => v.number?.isNone
  | _ => true

/-- The items of a sequence or a set, or of an object that holds one. -/
inductive Value.HasItems (items : List Value) : Value → Prop where
  | sequence (kind : SequenceKind) : HasItems items (.sequence kind items)
  | set : HasItems items (.set items)
  | object (number : Nat) {v : Value} :
      HasItems items v → HasItems items (.object number v)

/-- Calling a value asks rules only, whose answers are no objects. -/
inductive Value.AsksRules : Value → Prop where
  | rule {r : Rule} : r.answersPlainly = true → AsksRules (.rule r)
  | disjunction {source : Value} {items : List Value} :
      source.HasItems items → (∀ item ∈ items, AsksRules item) →
      AsksRules (.disjunction source)
  | object (number : Nat) {v : Value} :
      AsksRules v → AsksRules (.object number v)
  /-- A rule with attributes, none of which is how it is evaluated. -/
  | extended {v : Value} {attributes : List (String × Value)} :
      AsksRules v → findAttribute? attributes evaluateName = none →
      AsksRules (.extended v attributes)
  /-- A rule that is evaluated as another one is. -/
  | evaluated {v given : Value} {attributes : List (String × Value)} :
      v.isRule = true → findAttribute? attributes evaluateName = some given →
      AsksRules given → AsksRules (.extended v attributes)

/-- A computation that only notes, alike wherever an identity has the same role,
and gives no object. -/
def AnswersByRole (identity : Value) (computation : Act Value) : Prop :=
  ∀ world other : World, (world.look identity).SameRole (other.look identity) →
    ∃ ending events, runFrom computation world = (ending, world.noted events) ∧
      runFrom computation other = (ending, other.noted events) ∧
      ∀ answer, ending = .ok answer → answer.number? = none

theorem World.look_of_number? {v : Value} (plain : v.number? = none)
    (world : World) : world.look v = v := by
  cases v with
  | object number last => cases plain
  | _ => rfl

theorem Rule.number?_answer {r : Rule} (plain : r.answersPlainly = true)
    {identity answer : Value} {journal after : Journal}
    (answers : runFrom (r.evaluate identity) journal = (.ok answer, after)) :
    answer.number? = none := by
  cases r with
  | constant said =>
      cases answers
      exact Option.isNone_iff_eq_none.mp plain
  | answer v =>
      cases answers
      exact Option.isNone_iff_eq_none.mp plain
  | role name =>
      rw [evaluate] at answers
      obtain ⟨role, between, _, returns⟩ := runFrom_bind_eq_ok answers
      cases returns
      rfl
  | anyOf rules =>
      rw [evaluate] at answers
      obtain ⟨holds, between, _, returns⟩ := runFrom_bind_eq_ok answers
      cases returns
      rfl
  | unimplemented => cases answers
  | explode message => cases answers

namespace AnswersByRole

variable {identity : Value}

theorem rule {r : Rule} (plain : r.answersPlainly = true) :
    AnswersByRole identity (Act.caller.leaf (.rule r) identity) := by
  intro world other same
  obtain ⟨ending, events, ended⟩ := r.agree_evaluate same
  have asked (here : World)
      (ran : runFrom (r.evaluate (here.look identity)) here.journal =
        (ending, here.journal ++ events)) :
      runFrom (Act.caller.leaf (.rule r) identity) here =
        (ending.mapError .fault, here.noted events) := by
    have asks : runFrom (Act.caller.leaf (.rule r) identity) here =
        runFrom (Act.ofLogged (r.evaluate (here.look identity))) here :=
      runFrom_bind_ok (Act.runFrom_look identity here)
    rw [asks, Act.runFrom_ofLogged, ran]
    cases ending <;> rfl
  refine ⟨ending.mapError .fault, events, asked world (ended world.journal).1,
    asked other (ended other.journal).2, ?_⟩
  intro answer answers
  cases ending with
  | error fault => cases answers
  | ok given =>
      cases answers
      exact Rule.number?_answer plain (ended world.journal).1

theorem callEach {items : List Value}
    (each : ∀ item ∈ items,
      AnswersByRole identity (item.callBy Act.caller identity)) :
    AnswersByRole identity (Value.callEach Act.caller items identity) := by
  induction items with
  | nil =>
      intro world other _
      refine ⟨.ok (.bool false), [], ?_, ?_, ?_⟩
      · rw [World.noted_nil]; rfl
      · rw [World.noted_nil]; rfl
      · rintro answer ⟨⟩
        rfl
  | cons item items ih =>
      intro world other same
      obtain ⟨first, rest⟩ := List.forall_mem_cons.mp each
      obtain ⟨ending, events, asked, askedToo, plain⟩ := first world other same
      cases ending with
      | error stop =>
          refine ⟨.error stop, events, ?_, ?_, nofun⟩
          · rw [Value.callEach, runFrom_bind_error asked]
          · rw [Value.callEach, runFrom_bind_error askedToo]
      | ok answer =>
          have holds (here : World) :
              runFrom (Act.caller.holds answer) here =
                (.ok answer.truthy, here) := by
            have looked : runFrom (Act.caller.holds answer) here =
                (.ok (here.look answer).truthy, here) := rfl
            rw [looked, World.look_of_number? (plain answer rfl)]
          cases isTrue : answer.truthy with
          | true =>
              refine ⟨.ok (.bool true), events, ?_, ?_, ?_⟩
              · rw [Value.callEach, runFrom_bind_ok asked,
                  runFrom_bind_ok (holds _), isTrue]
                rfl
              · rw [Value.callEach, runFrom_bind_ok askedToo,
                  runFrom_bind_ok (holds _), isTrue]
                rfl
              · rintro answer ⟨⟩
                rfl
          | false =>
              obtain ⟨ending, more, ran, ranToo, plainToo⟩ :=
                ih rest (world.noted events) (other.noted events) same
              refine ⟨ending, events ++ more, ?_, ?_, plainToo⟩
              · rw [Value.callEach, runFrom_bind_ok asked,
                  runFrom_bind_ok (holds _), isTrue, ← World.noted_noted]
                exact ran
              · rw [Value.callEach, runFrom_bind_ok askedToo,
                  runFrom_bind_ok (holds _), isTrue, ← World.noted_noted]
                exact ranToo

theorem callItems {source : Value} {items : List Value}
    (isSource : source.HasItems items)
    (each : ∀ item ∈ items,
      AnswersByRole identity (item.callBy Act.caller identity)) :
    AnswersByRole identity (source.callItems Act.caller identity) := by
  induction isSource with
  | sequence kind =>
      rw [Value.callItems]
      exact callEach each
  | set =>
      rw [Value.callItems]
      exact callEach each
  | object number _ ih =>
      rw [Value.callItems]
      exact ih

theorem callNamed {given : Value} {attributes : List (String × Value)}
    {typeName : String}
    (found : Value.findAttribute? attributes evaluateName = some given)
    (answers : AnswersByRole identity (given.callBy Act.caller identity)) :
    AnswersByRole identity (Value.callNamed Act.caller attributes evaluateName
      false typeName identity) := by
  induction attributes with
  | nil => cases found
  | cons entry attributes ih =>
      obtain ⟨name, v⟩ := entry
      by_cases isName : name = evaluateName
      · subst isName
        cases found
        simpa [Value.callNamed] using answers
      · have foundLater :
            Value.findAttribute? attributes evaluateName = some given := by
          simpa [Value.findAttribute?, isName] using found
        simpa [Value.callNamed, isName] using ih foundLater

end AnswersByRole

theorem Value.AsksRules.answersByRole {v : Value} (asks : v.AsksRules)
    (identity : Value) :
    AnswersByRole identity (v.callBy Act.caller identity) := by
  induction asks with
  | @rule r plain =>
      have leaf : (Value.rule r).callBy Act.caller identity =
          Act.caller.leaf (.rule r) identity := by
        simp only [callBy]
      rw [leaf]
      exact .rule plain
  | disjunction hasItems _ ih =>
      rw [callBy]
      exact .callItems hasItems ih
  | object number _ ih =>
      rw [callBy]
      exact ih
  | extended _ absent ih =>
      rw [callBy, absent]
      simpa using ih
  | evaluated isRule found _ ih =>
      rw [callBy, isRule, found]
      exact .callNamed found ih

/-- What calling a rule that asks only rules comes to is the same wherever the
rule shows the same and the identity has the same role. -/
theorem Value.AsksRules.alike {rule identity : Value} {world other : World}
    (isRule : rule.isRule = true) (asks : (world.refresh rule).AsksRules)
    (shows : other.refresh rule = world.refresh rule)
    (same : (world.look identity).SameRole (other.look identity)) :
    Act.Alike (callValue rule identity) world (callValue rule identity)
      other := by
  obtain ⟨ending, events, asked, askedToo, _⟩ :=
    asks.answersByRole identity world other same
  rw [callValue_of_isRule isRule]
  refine ⟨ending, events, ?_, ?_⟩
  · rw [callSimply, runFrom_bind_ok (Act.runFrom_refresh rule world), asked]
  · rw [callSimply, runFrom_bind_ok (Act.runFrom_refresh rule other), shows,
      askedToo]

/-- What can happen to a policy: somebody attempts to change its tree, or puts
something else into an object. -/
inductive Tampering where
  | attempt (change : PermissionTree.Attempt)
  | mutate (target v : Value)

namespace Tampering

/-- What becomes of a policy and the world. -/
def after (now : Policy × World) : Tampering → Policy × World
  | .attempt change =>
      match change.on (now.1.permissions.asOf now.2) with
      | .ok permissions => ({ now.1 with permissions }, now.2)
      | .error _ => now
  | .mutate target v => (now.1, now.2.replace target v)

def afterAll (steps : List Tampering) (now : Policy × World) :
    Policy × World :=
  steps.foldl (fun now step => step.after now) now

/-- The object with a number comes to hold something else. -/
def Mutates (number : Nat) : Tampering → Prop
  | .attempt _ => False
  | .mutate target _ => target.number? = some number

end Tampering

/-- Role names that have been accepted are texts. -/
theorem eq_texts_of_distinctRoleNames {seen names : List String}
    {items : List Value} (read : distinctRoleNames seen items = .ok names) :
    items = names.map .text := by
  induction items generalizing seen names with
  | nil =>
      cases read
      rfl
  | cons item items ih =>
      cases item with
      | text name =>
          rw [distinctRoleNames] at read
          split at read
          · cases read
          · split at read
            · cases read
            · obtain ⟨rest, readRest, returns⟩ := bind_eq_ok_iff.mp read
              cases returns
              rw [ih readRest]
              rfl
      | _ => cases read

/-- Declared roles are a list of such names. -/
theorem roleItems?_of_declaredRoles {roles : Value} {names : List String}
    (read : declaredRoles roles = .ok names) :
    roles.roleItems? = some (names.map .text) := by
  unfold declaredRoles at read
  split at read
  · rename_i items isList
    rw [isList, eq_texts_of_distinctRoleNames read]
  · cases read

namespace Policy

/-- A policy in which nothing that was compiled can be written to or refers to
an object. -/
structure Sealed (policy : Policy) : Prop where
  tree : policy.permissions.Sealed
  roles : policy.roles.Detached

theorem sealed_of_make {source : PolicySource} {policy : Policy}
    {before made : World}
    (makes : runFrom (make source) before = (.ok policy, made)) :
    policy.Sealed := by
  obtain ⟨_, _, tree, journal, compiled, rfl⟩ := compiled_of_make makes
  constructor
  · obtain ⟨entries, _, rfl⟩ := compile_related compiled
    exact PermissionTree.sealed_ofEntries entries
  · -- compiling has read the roles
    have built := PermissionTree.runFrom_compile_eq_ok.mp compiled
    obtain ⟨names, _, read, _⟩ := runFrom_bind_eq_ok built
    rw [roleItems?_of_declaredRoles (congrArg Prod.fst read)]
    exact Value.detached_texts .tuple names

variable {policy : Policy} {type field : Value}

theorem runFrom_isAllowedNow_found {rule : Value}
    (found : ∀ journal, runFrom (policy.permissions.ruleFor type field)
      journal = (.ok rule, journal)) (identity : Value) (world : World) :
    runFrom (policy.isAllowedNow type field identity) world =
      runFrom (callValue (rule.orElse policy.fallbackRule) identity)
        world := by
  have ruled : runFrom (Act.ofLogged (policy.ruleFor type field)) world =
      (.ok (rule.orElse policy.fallbackRule), world) := by
    rw [Act.runFrom_ofLogged, ruleFor, runFrom_bind_ok (found _)]
    rfl
  exact runFrom_bind_ok ruled

theorem runFrom_isAllowedNow_fails {fault : Fault}
    (fails : ∀ journal, runFrom (policy.permissions.ruleFor type field)
      journal = (.error fault, journal)) (identity : Value) (world : World) :
    runFrom (policy.isAllowedNow type field identity) world =
      (.error (.fault fault), world) := by
  have unruled : runFrom (Act.ofLogged (policy.ruleFor type field)) world =
      (.error (.fault fault), world) := by
    rw [Act.runFrom_ofLogged, ruleFor, runFrom_bind_error (fails _)]
  exact runFrom_bind_error unruled

/-- Where a policy has a rule for a field, of an identity only the role
matters. -/
theorem Sealed.alike_ruled (isSealed : policy.Sealed)
    (ruled : ¬ policy.permissions.Unruled type field) {identity : Value}
    {world other : World}
    (same : (world.look identity).SameRole (other.look identity)) :
    Act.Alike (policy.isAllowedNow type field identity) world
      (policy.isAllowedNow type field identity) other := by
  rcases isSealed.tree.ruleFor_cases type field with
    ⟨fault, fails⟩ | unruled | ⟨r, closed, found⟩
  · refine ⟨.error (.fault fault), [], ?_, ?_⟩
    · rw [runFrom_isAllowedNow_fails fails, World.noted_nil]
    · rw [runFrom_isAllowedNow_fails fails, World.noted_nil]
  · exact absurd unruled ruled
  · rw [Act.Alike, runFrom_isAllowedNow_found found,
      runFrom_isAllowedNow_found found]
    exact alike_callValue_rule rfl (closed.hasRule rfl) (closed.hasRule rfl)
      same

/-- Where it has none, it asks its fallback rule. -/
theorem alike_unruled (unruled : policy.permissions.Unruled type field)
    (isRule : policy.fallbackRule.isRule = true) {identity : Value} {r : Rule}
    {world other : World} (holds : world.held policy.fallbackRule = .rule r)
    (shows : other.refresh policy.fallbackRule =
      world.refresh policy.fallbackRule)
    (same : (world.look identity).SameRole (other.look identity)) :
    Act.Alike (policy.isAllowedNow type field identity) world
      (policy.isAllowedNow type field identity) other := by
  obtain ⟨now, shown, _⟩ := World.hasRule_refresh holds
  rw [Act.Alike, runFrom_isAllowedNow_found unruled,
    runFrom_isAllowedNow_found unruled]
  apply alike_callValue_rule isRule shown _ same
  rw [shows]
  exact shown

/-- The tree has no rule exactly where the table lists nothing. -/
theorem Sound.unruled_iff {table : Value} (sound : policy.Sound table)
    (type field : String) :
    policy.permissions.Unruled (.text type) (.text field) ↔
      table.listed? type field = none := by
  let world := World.initial .bare false
  have found := sound.runFrom_treeRule world type field
  rcases sound.rule?_eq world type field with
    ⟨unlisted, absent⟩ | ⟨names, listed, ruled⟩
  · rw [absent] at found
    exact iff_of_true found unlisted
  · rw [ruled] at found
    refine iff_of_false ?_ listed
    intro unruled
    cases (unruled []).symm.trans (found [])

end Policy

namespace Tampering

variable {policy : Policy} {changed : Nat → Prop}

/-- One step leaves the policy as it is, and all objects that it does not
mutate. -/
theorem after_eq (isSealed : policy.Sealed) (world : World) {step : Tampering}
    (mutates : ∀ number, step.Mutates number → changed number) :
    ∃ later, step.after (policy, world) = (policy, later) ∧
      world.ChangedAt changed later := by
  cases step with
  | attempt change =>
      obtain ⟨fault, refused, _⟩ := isSealed.tree.refuses change
      refine ⟨world, ?_, .refl changed world⟩
      simp only [after, isSealed.tree.asOf_eq, refused]
  | mutate target v => exact ⟨_, rfl, .replace target v mutates⟩

/-- So do any steps: the policy that a step leaves is the one it began with, and
as sealed. -/
theorem afterAll_eq (isSealed : policy.Sealed) (world : World)
    {steps : List Tampering}
    (mutate : ∀ step ∈ steps, ∀ number, step.Mutates number →
      changed number) :
    ∃ later, afterAll steps (policy, world) = (policy, later) ∧
      world.ChangedAt changed later := by
  induction steps generalizing world with
  | nil => exact ⟨world, rfl, .refl changed world⟩
  | cons step steps ih =>
      obtain ⟨head, rest⟩ := List.forall_mem_cons.mp mutate
      obtain ⟨between, stepped, first⟩ := after_eq isSealed world head
      obtain ⟨later, ran, second⟩ := ih between rest
      refine ⟨later, ?_, first.trans second⟩
      rw [afterAll, List.foldl_cons, stepped]
      exact ran

end Tampering

/-- What a policy made from a table, in a world in which it had just been made,
keeps in a later world, in which only some objects may have been changed. -/
structure Policy.Withstands (policy : Policy) (table : Value) (made : World)
    (changed : Nat → Prop) (now : Policy) (later : World) : Prop where
  /-- Every attempt to change the tree is refused. -/
  refuses : ∀ attempt : PermissionTree.Attempt, ∃ fault,
    attempt.on (now.permissions.asOf later) = .error fault ∧
      fault.kind = attempt.refusal (policy.permissions.asOf made)
  /-- The tree has nodes for the same types, in the same order. -/
  keys : (now.permissions.asOf later).keys =
    (policy.permissions.asOf made).keys
  /-- It has the same rules. -/
  rules : ∀ type field,
    (now.permissions.asOf later).ruleFor type field =
      (policy.permissions.asOf made).ruleFor type field
  /-- It checks an identity whose role is what it was as before. -/
  checks : ∀ type field identity,
    (made.look identity).SameRole (later.look identity) →
    Logged.Agree
      ((policy.permissions.asOf made).check type field (made.look identity))
      ((now.permissions.asOf later).check type field (later.look identity))
  /-- Where the tree has no rule, it lets everyone pass. -/
  passes : ∀ type field identity journal,
    (policy.permissions.asOf made).Unruled type field →
    runFrom ((now.permissions.asOf later).check type field identity) journal =
      (.ok (.bool true), journal)
  /-- The declared roles are the same. -/
  roles : later.refresh now.roles = made.refresh policy.roles
  /-- The tree has no rule exactly where the table lists nothing. -/
  listed : ∀ type field : String,
    (policy.permissions.asOf made).Unruled (.text type) (.text field) ↔
      table.listed? type field = none
  /-- Where the tree has a rule, the policy answers as before for an identity
  whose role is what it was. -/
  ruled : ∀ type field identity,
    ¬ (policy.permissions.asOf made).Unruled type field →
    (made.look identity).SameRole (later.look identity) →
    Act.Alike (policy.isAllowedNow type field identity) made
      (now.isAllowedNow type field identity) later
  /-- Everywhere else it answers as its fallback rule does. -/
  unruled : ∀ type field identity world,
    (policy.permissions.asOf made).Unruled type field →
    runFrom (now.isAllowedNow type field identity) world =
      runFrom (callValue policy.fallbackRule identity) world
  /-- This is as before too, if the fallback rule and all in it hold what they
  held. -/
  fallback : ∀ type field identity r,
    (policy.permissions.asOf made).Unruled type field →
    made.held policy.fallbackRule = .rule r →
    later.refresh policy.fallbackRule = made.refresh policy.fallbackRule →
    (made.look identity).SameRole (later.look identity) →
    Act.Alike (policy.isAllowedNow type field identity) made
      (now.isAllowedNow type field identity) later
  /-- So it is for a disjunction and for a rule with attributes, if they ask
  rules only. -/
  asking : ∀ type field identity,
    (policy.permissions.asOf made).Unruled type field →
    (made.refresh policy.fallbackRule).AsksRules →
    later.refresh policy.fallbackRule = made.refresh policy.fallbackRule →
    (made.look identity).SameRole (later.look identity) →
    Act.Alike (policy.isAllowedNow type field identity) made
      (now.isAllowedNow type field identity) later
  /-- The role of an identity is what it was, unless the identity itself has
  been changed. -/
  identities : ∀ identity : Value,
    (∀ number, identity.number? = some number → ¬ changed number) →
    (made.look identity).SameRole (later.look identity)
  /-- A value and all in it hold what they held, unless an object that it
  refers to has been changed. -/
  holds : ∀ inside v, made.Encloses inside → Value.Confined inside v →
    (∀ number, inside number → ¬ changed number) →
    later.refresh v = made.refresh v

namespace Policy

variable {policy : Policy} {table : Value} {made later : World}
  {changed : Nat → Prop}

theorem Sealed.withstands (isSealed : policy.Sealed)
    (sound : policy.Sound table) (changes : made.ChangedAt changed later) :
    policy.Withstands table made changed policy later := by
  have current (world : World) :
      policy.permissions.asOf world = policy.permissions :=
    isSealed.tree.asOf_eq world
  constructor
  case refuses =>
    intro attempt
    rw [current, current]
    exact isSealed.tree.refuses attempt
  case keys => rw [current, current]
  case rules =>
    intro type field
    rw [current, current]
  case checks =>
    intro type field identity same
    rw [current, current]
    exact isSealed.tree.agree_check same type field
  case passes =>
    intro type field identity journal unruled
    rw [current] at unruled ⊢
    exact unruled.runFrom_check identity journal
  case roles => rw [isSealed.roles.refresh_eq, isSealed.roles.refresh_eq]
  case listed =>
    intro type field
    rw [current]
    exact sound.unruled_iff type field
  case ruled =>
    intro type field identity ruled same
    rw [current] at ruled
    exact isSealed.alike_ruled ruled same
  case unruled =>
    intro type field identity world unruled
    rw [current] at unruled
    exact runFrom_isAllowedNow_found unruled identity world
  case fallback =>
    intro type field identity r unruled holds shows same
    rw [current] at unruled
    exact alike_unruled unruled sound.fallback holds shows same
  case asking =>
    intro type field identity unruled asks shows same
    rw [current] at unruled
    rw [Act.Alike, runFrom_isAllowedNow_found unruled,
      runFrom_isAllowedNow_found unruled]
    exact asks.alike sound.fallback shows same
  case identities =>
    intro identity unchanged
    rw [changes.look_eq unchanged]
    exact .refl _
  case holds =>
    intro inside v encloses confined unchanged
    exact changes.refresh_eq encloses unchanged confined

/-- Whatever somebody does to the tree of a policy or to the objects around it,
the policy is what it was when it had been made. -/
theorem withstands_tampering {source : PolicySource} {before : World}
    (makes : runFrom (make source) before = (.ok policy, made))
    (steps : List Tampering) :
    policy.Withstands (before.refresh source.schema) made
      (fun number => ∃ step ∈ steps, step.Mutates number)
      (Tampering.afterAll steps (policy, made)).1
      (Tampering.afterAll steps (policy, made)).2 := by
  have isSealed := sealed_of_make makes
  have mutate : ∀ step ∈ steps, ∀ number, step.Mutates number →
      ∃ step ∈ steps, step.Mutates number :=
    fun step member number mutates => ⟨step, member, mutates⟩
  obtain ⟨later, ran, changes⟩ := Tampering.afterAll_eq isSealed made mutate
  rw [ran]
  exact isSealed.withstands (sound_make makes) changes

/-- A policy whose roles and table, with all that it lists, are objects. -/
def sharedSource : PolicySource where
  roles := .object 0 .null
  schema := .object 3 .null
  getUser := .provided .alwaysAdmin

def sharedWorld : World :=
  { World.initial .bare false with
    objects := [.texts ["ADMIN", "GUEST"], .texts ["ADMIN"],
      .map [(.text "users", .object 1 .null)],
      .map [(.text "Query", .object 2 .null),
        (.text "Invoice", .object 1 .null)]] }

/-- Every object of the policy is emptied, between attempts on its tree. -/
def sharedTampering : List Tampering :=
  [.attempt (.setField (.text "Query") (.text "users") .allow),
    .mutate (.object 1 .null) (.texts []),
    .attempt (.eraseField (.text "Query") (.text "users")),
    .mutate (.object 2 .null) (.map []),
    .attempt (.setNode (.text "Query")),
    .mutate (.object 3 .null) (.map []),
    .attempt (.eraseNode (.text "Invoice")),
    .mutate (.object 0 .null) (.texts [])]

theorem withstands_sharedTampering :
    ∃ policy made,
      runFrom (make sharedSource) sharedWorld = (.ok policy, made) ∧
      (Tampering.afterAll sharedTampering (policy, made)).2.objects =
        [.texts [], .texts [], .map [], .map []] ∧
      policy.Withstands (sharedWorld.refresh sharedSource.schema) made
        (fun number => ∃ step ∈ sharedTampering, step.Mutates number)
        (Tampering.afterAll sharedTampering (policy, made)).1
        (Tampering.afterAll sharedTampering (policy, made)).2 :=
  ⟨_, _, rfl, rfl, withstands_tampering rfl sharedTampering⟩

/-- What the table refers to, by way of its entries, is two objects. -/
example : sharedWorld.Encloses fun number =>
    number = 1 ∨ number = 2 ∨ number = 3 := by
  rintro _ (rfl | rfl | rfl)
  · exact ⟨_, rfl, fun _ _ _ => rfl⟩
  · refine ⟨_, rfl, fun object object' same => ?_⟩
    simp only [Value.replaceObjects, replaceEntries, same 1 .null (.inl rfl)]
  · refine ⟨_, rfl, fun object object' same => ?_⟩
    simp only [Value.replaceObjects, replaceEntries, same 1 .null (.inl rfl),
      same 2 .null (.inr (.inl rfl))]

/-- A policy whose table is an object, to which the fallback rule refers. -/
def referringSource : PolicySource where
  roles := .texts ["ADMIN"]
  schema := .object 0 .null
  getUser := .provided .alwaysAdmin
  fallbackRule := .rule (.anyOf [.answer (.object 0 .null)])

/-- A world whose one object is a table. -/
def tableWorld (entries : List (Value × Value)) : World :=
  { World.initial .bare false with objects := [.map entries] }

/-- The answer of a policy for an identity, in a world and after the one object
in it has been changed. -/
def answersAround (policy : Policy) (made : World) (type : String)
    (identity : Value) (entries : List (Value × Value)) :
    Except Stop Value × Except Stop Value :=
  let answer := fun world =>
    (runFrom (policy.isAllowedNow (.text type) (.text "posts") identity)
      world).1
  let changed :=
    Tampering.after (policy, made) (.mutate (.object 0 .null) (.map entries))
  (answer made, answer changed.2)

/-- Some of what happens does show.  A number too large for a position is
refused as such.  The fallback rule can refer to the table, which then decides
where it lists nothing.  The table can be the identity that a question is
about. -/
theorem tampering_shows :
    (∃ policy made,
      runFrom (make sharedSource) sharedWorld = (.ok policy, made) ∧
      ∃ fault,
        (PermissionTree.Attempt.setNode (.int (Int.pow 2 70))).on
          policy.permissions = .error fault ∧
        fault.kind ≠ .wrongType ∧ fault.kind ≠ .absentKey) ∧
    (∃ policy made,
      runFrom (make referringSource) (tableWorld []) = (.ok policy, made) ∧
      answersAround policy made "Query" .null
          [(.text "Invoice", .texts ["ADMIN"])] =
        (.ok (.bool false), .ok (.bool true))) ∧
    ∃ policy made,
      runFrom (make referringSource)
          (tableWorld [(.text "role", .texts ["ADMIN"])]) =
        (.ok policy, made) ∧
      answersAround policy made "role" (.object 0 .null)
          [(.text "role", .text "ADMIN")] =
        (.ok (.bool false), .ok (.bool true)) := by
  refine ⟨?_, ?_, ?_⟩
  · exact ⟨_, _, rfl, _, rfl, by decide, by decide⟩
  · exact ⟨_, _, rfl, rfl⟩
  · exact ⟨_, _, rfl, rfl⟩

end Policy

end RoleGuard
