import RoleGuard.Proofs.Enforcement

/-!
# The key of a policy over a whole operation

A policy publishes its resolver in a context, and its guard leaves a memo there
when the first field is resolved.  Under any key but the memo's the two stand
side by side, and every field of the operation is decided on the identity that
the resolver yields.  A policy with the key of the memo loses its resolver to
the first memo: all later fields are decided on the memo itself.

`Stage` says what a context has before and after the first guarded field; one
field keeps it, and so does a run of fields.
-/

namespace RoleGuard

/-- Nothing that is found under some keys of a dictionary is disturbed. -/
structure World.Spares (context : Value) (keys : List String)
    (world other : World) : Prop where
  stored : world.objects.length ≤ other.objects.length
  entries : ∀ entries, world.held context = .map entries →
    ∃ entries', other.held context = .map entries' ∧
      ∀ key ∈ keys, Value.find? entries' (.text key) =
        Value.find? entries (.text key)

theorem World.Spares.of_objects {context : Value} {keys : List String}
    {world other : World} (same : other.objects = world.objects) :
    world.Spares context keys other := by
  refine ⟨Nat.le_of_eq (congrArg List.length same.symm), fun entries isDict =>
    ⟨entries, ?_, fun _ _ => rfl⟩⟩
  rw [World.held_of_objects same, isDict]

/-- An identity is given, or recalled. -/
def Identity.AtHand (world : World) (context key resolver : Value)
    (operation : Option String) (who : Value) : Prop :=
  course world context key resolver operation = .given who ∨
    ∃ source, course world context key resolver operation =
      .recalled source who

/-- A field and what resolves it. -/
abbrev GuardedField := FieldCall × FieldResolver

namespace Guard

/-- The world that a guarded field leaves. -/
def after (guard : Guard) (field : GuardedField) (world : World) : World :=
  (runFrom (guard.resolve field.1 field.2) world).2

/-- The world in which the identity for a call has been resolved. -/
def knowing (guard : Guard) (call : FieldCall) (world : World) : World :=
  (runFrom (guard.identityFor call) world).2

theorem identityFor_atHand (guard : Guard) {call : FieldCall} {world : World}
    {who : Value}
    (atHand : Identity.AtHand world call.context guard.contextKey
      guard.identityResolver call.operation who)
    (settled : who.isPending = false) :
    runFrom (guard.identityFor call) world = (.ok who, world) := by
  have resolved : runFrom (Identity.resolve call.context guard.contextKey
      guard.identityResolver call.operation) world = (.ok who, world) := by
    rw [Identity.resolve, Identity.runFrom_resolveBy]
    obtain goes | ⟨source, goes⟩ := atHand
    all_goals rw [goes]
  rw [identityFor_of_resolve resolved, settled]
  rfl

/-- A guarded call is let through. -/
def Admits (guard : Guard) (call : FieldCall) (world : World) : Prop :=
  ∃ after, guard.Mediates call world (.ok ()) after

/-- Something holds of every guarded field of a run and of the world in which it
is resolved; `used` tells whether a guarded field came before. -/
def Throughout (guard : Guard) (holds : Bool → World → FieldCall → Prop) :
    Bool → List GuardedField → World → Prop
  | _, [], _ => True
  | used, field :: rest, world =>
      (isIntrospection field.1.field = false → holds used world field.1) ∧
        guard.Throughout holds (used || !isIntrospection field.1.field) rest
          (guard.after field world)

section

variable {guard : Guard} {used : Bool} {fields : List GuardedField}
  {world : World} {known first second : Bool → World → FieldCall → Prop}

theorem Throughout.imp (all : guard.Throughout known used fields world)
    (given : guard.Throughout first used fields world)
    (pointwise : ∀ used world call, known used world call →
      first used world call → second used world call) :
    guard.Throughout second used fields world := by
  induction fields generalizing used world with
  | nil => trivial
  | cons field fields ih =>
      obtain ⟨here, rest⟩ := all
      obtain ⟨givenHere, givenRest⟩ := given
      refine ⟨fun guarded => ?_, ih rest givenRest⟩
      exact pointwise _ _ _ (here guarded) (givenHere guarded)

theorem Throughout.iff_of (all : guard.Throughout known used fields world)
    (pointwise : ∀ used world call, known used world call →
      (first used world call ↔ second used world call)) :
    guard.Throughout first used fields world ↔
      guard.Throughout second used fields world :=
  ⟨fun given => all.imp given fun _ _ _ here => (pointwise _ _ _ here).mp,
    fun given => all.imp given fun _ _ _ here => (pointwise _ _ _ here).mpr⟩

end

end Guard

namespace Policy

section

variable (policy : Policy) (name : String) (context : Value)
  (operation : Option String) (v : Value)

/-- The memo that is kept of an identity for an operation. -/
def memoOf : Value := .memo policy.getUser operation v

/-- What a context has under the key of a policy, and under that of the memo,
before and after its guard has resolved an identity. -/
structure Stage (used : Bool) (world : World) : Prop where
  stored : ∃ number carried,
    context = .object number carried ∧ number < world.objects.length
  entries : ∃ entries, world.held context = .map entries ∧
    Value.find? entries (.text name) =
      some (if used && name == memoKey then policy.memoOf operation v
        else policy.getUser) ∧
    if used then
      Value.find? entries (.text memoKey) = some (policy.memoOf operation v)
    else ∀ memo, Value.find? entries (.text memoKey) = some memo →
      memo.recall policy.getUser operation = none

/-- On whom a field is decided. -/
def subject (used : Bool) : Value :=
  if used && name == memoKey then policy.memoOf operation v else v

/-- A run of fields of one operation on a context.  The resolver of the policy
yields one identity whenever a guarded field is resolved, at once, and nobody
but the guard disturbs what the context has under the key of the policy and
under that of the memo. -/
inductive Serves : List GuardedField → World → Prop where
  | done (world : World) : Serves [] world
  | introspection {field : GuardedField} {rest : List GuardedField}
      {world : World} :
      Guard.isIntrospection field.1.field = true →
      world.Spares context [name, memoKey]
        ((policy.guard .null).after field world) →
      Serves rest ((policy.guard .null).after field world) →
      Serves (field :: rest) world
  | guarded {field : GuardedField} {rest : List GuardedField}
      {world called : World} :
      Guard.isIntrospection field.1.field = false →
      field.1.context = context → field.1.operation = operation →
      runFrom (callValue policy.getUser context) world = (.ok v, called) →
      (called.look v).isPending = false →
      world.Spares context [name, memoKey] called →
      ((policy.guard .null).knowing field.1 world).Spares context
        [name, memoKey] ((policy.guard .null).after field world) →
      Serves rest ((policy.guard .null).after field world) →
      Serves (field :: rest) world

end

/-- A policy allows an identity a field, as things stand. -/
def Allows (policy : Policy) (call : FieldCall) (who : Value) (world : World) :
    Prop :=
  ∃ answer asked,
    runFrom (policy.isAllowedNow (.text call.type) (.text call.field) who)
        world = (.ok answer, asked) ∧
      (asked.look answer).truthy = true

section

variable {policy : Policy} {name : String} {context : Value}
  {operation : Option String} {v : Value} {used : Bool} {world other : World}

theorem Stage.spared
    (stage : policy.Stage name context operation v used world)
    (spares : world.Spares context [name, memoKey] other) :
    policy.Stage name context operation v used other := by
  obtain ⟨⟨number, carried, isObject, stored⟩, entries, isDict, published,
    memo⟩ := stage
  obtain ⟨entries', isDictToo, same⟩ := spares.entries entries isDict
  have sameName := same name List.mem_cons_self
  have sameMemo := same memoKey (List.mem_cons_of_mem _ List.mem_cons_self)
  refine ⟨⟨number, carried, isObject,
    Nat.lt_of_lt_of_le stored spares.stored⟩, entries', isDictToo, ?_, ?_⟩
  · rw [sameName, published]
  · rw [sameMemo]
    exact memo

/-- A context takes the memo beside the resolver, unless both have one key. -/
theorem Stage.remembered
    (stage : policy.Stage name context operation v used world)
    (remembers : world.Remembers context (policy.memoOf operation v) other) :
    policy.Stage name context operation v true other := by
  obtain ⟨⟨number, carried, isObject, stored⟩, entries, isDict, published, _⟩ :=
    stage
  have writes : (world.held context).write (.text memoKey)
      (policy.memoOf operation v) = .ok (.map
        (Value.insert entries (.text memoKey) (policy.memoOf operation v))) := by
    rw [isDict]
    rfl
  have itself : (Value.text memoKey).same (.text memoKey) = true :=
    Value.same_text_iff.mpr rfl
  cases remembers with
  | refused refused _ => cases writes.symm.trans refused
  | taken taken =>
      cases writes.symm.trans taken
      have holds : (world.replace context (.map (Value.insert entries
          (.text memoKey) (policy.memoOf operation v)))).held context =
          .map (Value.insert entries (.text memoKey)
            (policy.memoOf operation v)) := by
        rw [isObject]
        exact World.held_replace_stored stored carried _
      refine ⟨⟨number, carried, isObject, by simpa using stored⟩, _, holds, ?_,
        Value.find?_insert itself entries _⟩
      by_cases isMemo : name = memoKey
      · subst isMemo
        rw [Value.find?_insert itself]
        simp
      · have apart : Value.Apart (.text memoKey) (.text name) :=
          Value.apart_text isMemo
        rw [Value.find?_insert_other itself apart, published]
        simp [isMemo]

theorem Stage.reads
    (stage : policy.Stage name context operation v used world) :
    ∃ entries, world.held context = .map entries ∧ ∀ key,
      (world.look context).read (.text key) .null =
        .ok ((Value.find? entries (.text key)).getD .null) := by
  obtain ⟨⟨number, carried, isObject, _⟩, entries, isDict, _⟩ := stage
  refine ⟨entries, isDict, fun key => ?_⟩
  have looks : world.look context = .object number (.map entries) := by
    rw [isObject] at isDict ⊢
    exact congrArg (Value.object number) isDict
  rw [looks]
  rfl

/-- What can be called is recalled by no memo. -/
theorem recall_of_isCallable {memo : Value} (callable : memo.isCallable = true)
    (source : Value) (operation : Option String) :
    memo.recall source operation = none := by
  unfold Value.recall
  split
  · cases callable
  · rfl

/-- The context gives the resolver of the policy, or the memo if it has taken
its place. -/
theorem Stage.read_key
    (stage : policy.Stage name context operation v used world) :
    (world.look context).read (.text name) .null =
      .ok (if used && name == memoKey then policy.memoOf operation v
        else policy.getUser) := by
  obtain ⟨entries, isDict, reads⟩ := stage.reads
  obtain ⟨_, others, isDictToo, published, _⟩ := stage
  cases isDict.symm.trans isDictToo
  rw [reads, published]
  rfl

theorem subject_lost (isMemo : name = memoKey) :
    policy.subject name operation v true = policy.memoOf operation v := by
  subst isMemo
  simp [subject]

theorem subject_kept (kept : ¬ (used = true ∧ name = memoKey)) :
    policy.subject name operation v used = v := by
  have notMemo : (used && name == memoKey) = false := by simpa using kept
  rw [subject, notMemo, if_neg Bool.false_ne_true]

theorem isPending_subject (settled : v.isPending = false) :
    (policy.subject name operation v used).isPending = false := by
  unfold subject
  split
  · rfl
  · exact settled

/-- Once a guarded field has been resolved, a guard may have the subject at
hand: it is given the memo where this has taken the place of the resolver, and
it may recall the identity.  Else it invokes the resolver. -/
theorem Stage.course (callable : policy.getUser.isCallable = true)
    (stage : policy.Stage name context operation v used world) :
    (used = true ∧ Identity.AtHand world context (.text name) .null operation
      (policy.subject name operation v used)) ∨
    (policy.subject name operation v used = v ∧
      Identity.course world context (.text name) .null operation =
        .invoking policy.getUser) := by
  have asks : Identity.sourceIn world context (.text name) .null = _ :=
    stage.read_key
  by_cases lost : used = true ∧ name = memoKey
  · obtain ⟨rfl, isMemo⟩ := lost
    refine .inl ⟨rfl, .inl ?_⟩
    rw [subject_lost isMemo]
    subst isMemo
    unfold Identity.course
    rw [asks]
    rfl
  · have kept : (used && name == memoKey) = false := by
      simpa using lost
    rw [kept, if_neg Bool.false_ne_true] at asks
    rw [Identity.AtHand, subject_kept lost,
      Identity.course_of_callable asks callable]
    obtain ⟨entries, isDict, reads⟩ := stage.reads
    obtain ⟨_, others, isDictToo, _, remembered⟩ := stage
    cases isDict.symm.trans isDictToo
    rw [reads]
    cases used with
    | true =>
        rw [if_pos rfl] at remembered
        rw [remembered]
        dsimp only [Option.getD_some]
        cases recalls : (policy.memoOf operation v).recall policy.getUser
            operation with
        | none => exact .inr ⟨rfl, rfl⟩
        | some who =>
            obtain ⟨known, isMemo, _⟩ := Identity.eq_memo_of_recall recalls
            cases isMemo
            exact .inl ⟨rfl, .inr ⟨_, rfl⟩⟩
    | false =>
        rw [if_neg Bool.false_ne_true] at remembered
        refine .inr ⟨rfl, ?_⟩
        cases found : Value.find? entries (.text memoKey) with
        | none => rfl
        | some memo =>
            dsimp only [Option.getD_some]
            rw [remembered memo found]

/-- Invoking the resolver gives the identity that it yields, and the context
takes the memo. -/
theorem Stage.invoked {call : FieldCall} {called : World}
    (stage : policy.Stage name call.context call.operation v used world)
    (keyed : policy.contextKey = .text name)
    (goes : Identity.course world call.context (.text name) .null
      call.operation = .invoking policy.getUser)
    (yields : runFrom (callValue policy.getUser call.context) world =
      (.ok v, called))
    (settledThen : (called.look v).isPending = false)
    (spares : world.Spares call.context [name, memoKey] called) :
    ∃ known, runFrom ((policy.guard .null).identityFor call) world =
        (.ok v, known) ∧
      policy.Stage name call.context call.operation v true known := by
  have answered : runFrom (withoutFailure
      (callValue policy.getUser call.context)) world = (.ok v, called) := by
    rw [Identity.runFrom_withoutFailure, yields]
  have stageCalled := stage.spared spares
  -- a dictionary takes every entry
  have tolerates : called.Tolerates call.context := by
    intro memo fault refused
    obtain ⟨_, entries, isDict, _⟩ := stageCalled
    rw [isDict] at refused
    cases refused
  rw [← keyed] at goes
  obtain ⟨known, ended, remembers⟩ := (policy.guard .null).identityFor_settled
    goes answered settledThen tolerates
  exact ⟨known, ended, stageCalled.remembered remembers⟩

/-- The field at hand is decided on the subject, and from then on the context
has the memo. -/
theorem Stage.identified {call : FieldCall} {called : World}
    (callable : policy.getUser.isCallable = true)
    (keyed : policy.contextKey = .text name) (settled : v.isPending = false)
    (stage : policy.Stage name context operation v used world)
    (isContext : call.context = context)
    (isOperation : call.operation = operation)
    (yields : runFrom (callValue policy.getUser context) world =
      (.ok v, called))
    (settledThen : (called.look v).isPending = false)
    (spares : world.Spares context [name, memoKey] called) :
    runFrom ((policy.guard .null).identityFor call) world =
        (.ok (policy.subject name operation v used),
          (policy.guard .null).knowing call world) ∧
      policy.Stage name context operation v true
        ((policy.guard .null).knowing call world) := by
  subst isContext isOperation
  have resolved : ∃ known,
      runFrom ((policy.guard .null).identityFor call) world =
          (.ok (policy.subject name call.operation v used), known) ∧
        policy.Stage name call.context call.operation v true known := by
    rcases stage.course callable with ⟨rfl, atHand⟩ | ⟨isIdentity, goes⟩
    · rw [← keyed] at atHand
      have ended := (policy.guard .null).identityFor_atHand atHand
        (isPending_subject settled)
      exact ⟨world, ended, stage⟩
    · rw [isIdentity]
      exact stage.invoked keyed goes yields settledThen spares
  obtain ⟨known, ended, stageKnown⟩ := resolved
  have isKnown : (policy.guard .null).knowing call world = known :=
    congrArg Prod.snd ended
  rw [isKnown]
  exact ⟨ended, stageKnown⟩

/-- A guarded field is let through exactly when the policy allows it to the
subject. -/
theorem Sound.admits_iff {table : Value} (sound : policy.Sound table)
    {call : FieldCall} {who : Value} {known : World}
    (guarded : Guard.isIntrospection call.field = false)
    (identified : runFrom ((policy.guard .null).identityFor call) world =
      (.ok who, known)) :
    (policy.guard .null).Admits call world ↔ policy.Allows call who known := by
  obtain ⟨gate, after, mediates, decides, _⟩ :=
    sound.enforces guarded identified
  unfold Allows
  rw [← decides]
  constructor
  · rintro ⟨_, admitted⟩
    exact (mediates.admits guarded).mpr ((admitted.admits guarded).mp rfl)
  · rintro rfl
    exact ⟨after, mediates⟩

/-- What is so of a guarded field and the world in which it is resolved: the
context is at its stage, and the field is decided on the subject. -/
structure Decided (policy : Policy) (name : String) (context : Value)
    (operation : Option String) (v : Value) (used : Bool) (world : World)
    (call : FieldCall) : Prop where
  stage : policy.Stage name context operation v used world
  identified : runFrom ((policy.guard .null).identityFor call) world =
    (.ok (policy.subject name operation v used),
      (policy.guard .null).knowing call world)
  admits : (policy.guard .null).Admits call world ↔
    policy.Allows call (policy.subject name operation v used)
      ((policy.guard .null).knowing call world)

/-- One field after another is decided on the subject. -/
theorem Stage.decided {table : Value} (sound : policy.Sound table)
    (keyed : policy.contextKey = .text name) (settled : v.isPending = false)
    {fields : List GuardedField}
    (stage : policy.Stage name context operation v used world)
    (serves : policy.Serves name context operation v fields world) :
    (policy.guard .null).Throughout
      (policy.Decided name context operation v) used fields world := by
  induction serves generalizing used with
  | done world => trivial
  | introspection unguarded spares _ ih =>
      rename_i field rest world
      have still := ih (stage.spared spares)
      refine ⟨fun guarded => ?_, ?_⟩
      · rw [unguarded] at guarded
        cases guarded
      · rw [unguarded, Bool.not_true, Bool.or_false]
        exact still
  | guarded guarded isContext isOperation yields settledThen spares sparesAfter
      _ ih =>
      rename_i field rest world called
      obtain ⟨identified, stageKnown⟩ := stage.identified sound.callable keyed
        settled isContext isOperation yields settledThen spares
      refine ⟨fun _ => ⟨stage, identified,
        sound.admits_iff guarded identified⟩, ?_⟩
      rw [guarded, Bool.not_false, Bool.or_true]
      exact ih (stageKnown.spared sparesAfter)

/-- A dictionary that a policy has prepared has its resolver and no memo. -/
theorem stage_applied {given carried : Value} {start ready : World}
    {number : Nat} {entries : List (Value × Value)}
    (callable : policy.getUser.isCallable = true)
    (keyed : policy.contextKey = .text name)
    (applies : runFrom (policy.applyContext given) start = (.ok context, ready))
    (isObject : context = .object number carried)
    (stored : number < ready.objects.length)
    (isDict : ready.held context = .map entries) :
    policy.Stage name context operation v false ready := by
  obtain ⟨mid, forgotten, written, cleared, writes, isReady⟩ :=
    applied_context (by rw [keyed]; rfl) applies
  have storedMid : number < mid.objects.length := by
    simpa [isReady] using stored
  have storedThen :
      number < (mid.replace (.object number carried) forgotten).objects.length := by
    simpa using storedMid
  have isWritten : written = .map entries := by
    rw [isReady, isObject, World.held_replace_stored storedThen] at isDict
    exact isDict
  rw [isObject, World.held_replace_stored storedMid, keyed, isWritten] at writes
  obtain ⟨old, rfl, rfl⟩ : ∃ old, forgotten = .map old ∧
      entries = Value.insert old (.text name) policy.getUser := by
    generalize isNow : Value.map entries = now at writes
    cases Value.writes_of_write writes with
    | map old => exact ⟨old, rfl, Value.map.inj isNow⟩
    | part isPart =>
        subst isNow
        unfold Value.writeRulePart at isPart
        split at isPart <;> cases isPart
    | _ => cases isNow
  have itself : (Value.text name).same (.text name) = true :=
    Value.same_text_iff.mpr rfl
  refine ⟨⟨number, carried, isObject, stored⟩, _, isDict,
    Value.find?_insert itself old _, ?_⟩
  intro memo found
  by_cases isMemo : memoKey = name
  · rw [isMemo, Value.find?_insert itself] at found
    cases found
    exact recall_of_isCallable callable _ _
  · rw [Value.find?_insert_other itself (Value.apart_text isMemo)] at found
    -- what could be recalled would have been there after the clearing
    have left := Value.mem_memoEntries_of_find? found
    have none : Value.memoEntries old = [] := cleared
    rw [none] at left
    cases left

theorem role?_memo (known who : Value) (operation : Option String) :
    (Value.memo known operation who).role? = none :=
  rfl

/-- A memo has no role, so it is allowed nothing for which roles are listed. -/
theorem Sound.not_allows_memo {table : Value} (sound : policy.Sound table)
    {call : FieldCall} (listed : table.listed? call.type call.field ≠ none)
    (known who : Value) : ¬ policy.Allows call (.memo known operation who)
      world := by
  rintro ⟨answer, asked, ended, isTrue⟩
  rcases sound.rule?_eq world call.type call.field with
    ⟨unlisted, _⟩ | ⟨names, _, found⟩
  · exact listed unlisted
  · have isLeaf (identity : Value) : (rolesRule names).node.ask identity =
        (rolesRule names).evaluate identity := by
      simp [Rule.node, Value.ask, Value.callBy, Logged.caller]
    obtain ⟨journal, answers⟩ := runFrom_ask_rolesRule names
      (.memo known operation who) world.journal
    have noRole : (names.any fun name =>
        (Value.memo known operation who).role? == some name) = false := by
      simp [role?_memo]
    rw [isLeaf, noRole] at answers
    have looks : world.look (.memo known operation who) =
        .memo known operation who := rfl
    rw [sound.isAllowedNow_listed listed, Act.runFrom_ofLogged, looks,
      sound.runFrom_check_ruled found, answers] at ended
    cases ended
    cases isTrue

variable {call : FieldCall}

/-- Being decided on the subject is being decided on the identity, unless the
subject is a memo of it. -/
theorem Decided.works_iff
    (decided : policy.Decided name context operation v used world call) :
    ((policy.guard .null).Admits call world ↔
        policy.Allows call v ((policy.guard .null).knowing call world)) ↔
      (name = memoKey → used = true →
        (policy.Allows call (policy.memoOf operation v)
            ((policy.guard .null).knowing call world) ↔
          policy.Allows call v ((policy.guard .null).knowing call world))) := by
  rw [decided.admits]
  by_cases lost : used = true ∧ name = memoKey
  · obtain ⟨rfl, isMemo⟩ := lost
    rw [subject_lost isMemo]
    simp [isMemo]
  · rw [subject_kept lost]
    exact iff_of_true Iff.rfl fun isMemo isUsed => absurd ⟨isUsed, isMemo⟩ lost

theorem Decided.readable_iff (callable : policy.getUser.isCallable = true)
    (keyed : policy.contextKey = .text name)
    (decided : policy.Decided name context operation v used world call) :
    (world.look context).read policy.contextKey .null = .ok policy.getUser ↔
      (name = memoKey → used = false) := by
  rw [keyed, decided.stage.read_key]
  by_cases lost : used = true ∧ name = memoKey
  · have notMemo : policy.memoOf operation v ≠ policy.getUser := by
      intro same
      rw [← same] at callable
      cases callable
    simp [lost.1, lost.2, notMemo]
  · have kept : (used && name == memoKey) = false := by simpa using lost
    rw [kept, if_neg Bool.false_ne_true]
    refine iff_of_true rfl fun isMemo => ?_
    rw [← Bool.not_eq_true]
    exact fun isUsed => lost ⟨isUsed, isMemo⟩

end

/-- How far the key of a policy serves a run of fields of an operation. -/
structure KeyServes (policy : Policy) (table : Value) (name : String)
    (context : Value) (operation : Option String) (v : Value)
    (fields : List GuardedField) (ready : World) : Prop where
  /-- Every guarded field is let through exactly when the policy allows it to
  the identity that the resolver yields, if the key is not that of the memo; and
  else if the policy allows the memo itself what it allows this identity,
  whenever a guarded field came before. -/
  works :
    (policy.guard .null).Throughout (fun _ world call =>
        (policy.guard .null).Admits call world ↔
          policy.Allows call v ((policy.guard .null).knowing call world))
      false fields ready ↔
    name ≠ memoKey ∨ (policy.guard .null).Throughout (fun used world call =>
        used = true →
          (policy.Allows call (policy.memoOf operation v)
              ((policy.guard .null).knowing call world) ↔
            policy.Allows call v ((policy.guard .null).knowing call world)))
      false fields ready
  /-- The resolver can be read under the key whenever a guarded field is
  resolved, if the key is not that of the memo or no guarded field came
  before. -/
  readable :
    (policy.guard .null).Throughout (fun _ world _ =>
        (world.look context).read policy.contextKey .null = .ok policy.getUser)
      false fields ready ↔
    name ≠ memoKey ∨ (policy.guard .null).Throughout (fun used _ _ =>
        used = false)
      false fields ready
  /-- Under the key of the memo nobody is let through to a field for which roles
  are listed, once a guarded field has been resolved. -/
  lost : name = memoKey →
    (policy.guard .null).Throughout (fun used world call =>
        used = true → table.listed? call.type call.field ≠ none →
          ¬ (policy.guard .null).Admits call world)
      false fields ready

/-- A policy that has prepared a dictionary serves a whole operation by its key
unless this is the key of the memo. -/
theorem keyServes_applied {policy : Policy} {source : PolicySource}
    {before made start ready : World} {name : String}
    {given context carried v : Value} {number : Nat}
    {entries : List (Value × Value)} {operation : Option String}
    {fields : List GuardedField}
    (makes : runFrom (make source) before = (.ok policy, made))
    (keyed : policy.contextKey = .text name)
    (applies : runFrom (policy.applyContext given) start = (.ok context, ready))
    (isObject : context = .object number carried)
    (stored : number < ready.objects.length)
    (isDict : ready.held context = .map entries)
    (settled : v.isPending = false)
    (serves : policy.Serves name context operation v fields ready) :
    policy.KeyServes (before.refresh source.schema) name context operation v
      fields ready := by
  have sound := sound_make makes
  have stage : policy.Stage name context operation v false ready :=
    stage_applied sound.callable keyed applies isObject stored isDict
  have decided := stage.decided sound keyed settled serves
  have works := decided.iff_of fun _ _ _ here => here.works_iff
  have readable := decided.iff_of fun _ _ _ here =>
    here.readable_iff sound.callable keyed
  by_cases isMemo : name = memoKey
  · refine ⟨?_, ?_, fun _ => ?_⟩
    · rw [works]
      simp only [isMemo, ne_eq, not_true_eq_false, false_or, forall_const]
    · rw [readable]
      simp only [isMemo, ne_eq, not_true_eq_false, false_or, forall_const]
    · refine decided.imp decided fun used world call here _ isUsed listed => ?_
      rw [here.admits, isUsed, subject_lost isMemo]
      exact sound.not_allows_memo listed _ _
  · refine ⟨?_, ?_, fun isMemoKey => absurd isMemoKey isMemo⟩
    · rw [works]
      refine iff_of_true ?_ (.inl isMemo)
      exact decided.imp decided fun _ _ _ _ _ isMemoKey =>
        absurd isMemoKey isMemo
    · rw [readable]
      refine iff_of_true ?_ (.inl isMemo)
      exact decided.imp decided fun _ _ _ _ _ isMemoKey =>
        absurd isMemoKey isMemo

/-- A policy that lets administrators read one field and publishes its resolver
under a given key. -/
def keyedSource (name : String) : PolicySource :=
  { sampleSource with contextKey := .text name }

def keyedPolicy (name : String) : Policy where
  permissions := ⟨[(.text "Query",
    .proxy [(.text "users", (rolesRule ["ADMIN"]).node)])]⟩
  roles := .sequence .tuple [.text "ADMIN"]
  schema := (keyedSource name).schema
  getUser := .resolver 0 none
  contextKey := .text name
  fallbackRule := .rule .allow
  fallbackError := .text Denial.defaultMessage
  debug := .bool false

def administrator : Value := .identity (.text "ADMIN") .null

/-- A world with a resolver that yields an administrator at once, whenever it is
called. -/
def promptStart : World :=
  { World.initial .bare false with
    resolvers := [⟨"who", false, [.value administrator], 0⟩] }

/-- The world after so many calls of the resolver, with a context that has the
given entries. -/
def promptWorld (calls : Nat) (entries : List (Value × Value)) : World :=
  { promptStart with
    resolvers := [⟨"who", false, [.value administrator], calls⟩]
    objects := [.map entries] }

def promptField : GuardedField := (sampleCall, fun _ => return .null)

theorem makes_keyedSource (name : String) :
    runFrom (make (keyedSource name)) promptStart =
      (.ok (keyedPolicy name), { promptStart with journal := [.compiled 1 1] }) :=
  rfl

theorem applies_keyedPolicy (name : String) :
    runFrom ((keyedPolicy name).applyContext .null) promptStart =
      (.ok sampleCall.context,
        promptWorld 0 [(.text name, .resolver 0 none)]) :=
  rfl

theorem guarded_sampleCall :
    Guard.isIntrospection sampleCall.field = false := by
  simp [sampleCall, Guard.isIntrospection]

/-- A field that is resolved with nothing leaves the world of its admission. -/
theorem after_promptField (guard : Guard) (world : World) :
    guard.after promptField world =
      (runFrom (guard.admission sampleCall) world).2 := by
  have resolved : runFrom (guard.resolve promptField.1 promptField.2) world =
      runFrom (do guard.admission sampleCall; return .null) world :=
    congrArg (runFrom · world)
      (guard.resolve_guarded guarded_sampleCall promptField.2)
  rw [Guard.after, resolved, runFrom_bind]
  rcases runFrom (guard.admission sampleCall) world with ⟨_ | _, _⟩ <;> rfl

/-- The entries of the context once a field has been resolved, where the
resolver is published under some key. -/
def laterEntries (name : String) : List (Value × Value) :=
  Value.insert [(.text name, .resolver 0 none)] (.text memoKey)
    ((keyedPolicy name).memoOf sampleCall.operation administrator)

theorem serves_promptFields {name : String}
    (first : ((keyedPolicy name).guard .null).after promptField
      (promptWorld 0 [(.text name, .resolver 0 none)]) =
        promptWorld 1 (laterEntries name))
    (known : (((keyedPolicy name).guard .null).knowing sampleCall
      (promptWorld 0 [(.text name, .resolver 0 none)])).objects =
        [.map (laterEntries name)])
    (second : (((keyedPolicy name).guard .null).after promptField
        (promptWorld 1 (laterEntries name))).objects =
      (((keyedPolicy name).guard .null).knowing sampleCall
        (promptWorld 1 (laterEntries name))).objects) :
    (keyedPolicy name).Serves name sampleCall.context sampleCall.operation
      administrator [promptField, promptField]
      (promptWorld 0 [(.text name, .resolver 0 none)]) := by
  refine .guarded guarded_sampleCall rfl rfl rfl rfl (.of_objects rfl)
    (.of_objects ?_) ?_
  · rw [first]
    exact known.symm
  · rw [first]
    exact .guarded guarded_sampleCall rfl rfl rfl rfl (.of_objects rfl)
      (.of_objects second) (.done _)

theorem keyServes_promptFields :
    runFrom (make (keyedSource "user")) promptStart =
        (.ok (keyedPolicy "user"),
          { promptStart with journal := [.compiled 1 1] }) ∧
      runFrom ((keyedPolicy "user").applyContext .null) promptStart =
        (.ok sampleCall.context,
          promptWorld 0 [(.text "user", .resolver 0 none)]) ∧
      (keyedPolicy "user").KeyServes
        (promptStart.refresh (keyedSource "user").schema) "user"
        sampleCall.context sampleCall.operation administrator
        [promptField, promptField]
        (promptWorld 0 [(.text "user", .resolver 0 none)]) := by
  refine ⟨rfl, rfl, keyServes_applied (makes_keyedSource "user") rfl
    (applies_keyedPolicy "user") rfl Nat.zero_lt_one rfl rfl
    (serves_promptFields ?_ rfl ?_)⟩
  · rw [after_promptField]
    rfl
  · rw [after_promptField]
    rfl

/-- A policy with the key of the memo lets an administrator through to a field
once, and the second time it does not, though it allows him the field. -/
theorem memoKey_forgets :
    runFrom (make (keyedSource memoKey)) promptStart =
        (.ok (keyedPolicy memoKey),
          { promptStart with journal := [.compiled 1 1] }) ∧
      runFrom ((keyedPolicy memoKey).applyContext .null) promptStart =
        (.ok sampleCall.context,
          promptWorld 0 [(.text memoKey, .resolver 0 none)]) ∧
      (keyedPolicy memoKey).Serves memoKey sampleCall.context
        sampleCall.operation administrator [promptField, promptField]
        (promptWorld 0 [(.text memoKey, .resolver 0 none)]) ∧
      ¬ ((keyedPolicy memoKey).guard .null).Throughout (fun _ world call =>
          ((keyedPolicy memoKey).guard .null).Admits call world ↔
            (keyedPolicy memoKey).Allows call administrator
              (((keyedPolicy memoKey).guard .null).knowing call world))
        false [promptField, promptField]
        (promptWorld 0 [(.text memoKey, .resolver 0 none)]) := by
  have first : ((keyedPolicy memoKey).guard .null).after promptField
      (promptWorld 0 [(.text memoKey, .resolver 0 none)]) =
        promptWorld 1 (laterEntries memoKey) := by
    rw [after_promptField]
    rfl
  refine ⟨rfl, rfl, serves_promptFields first rfl ?_, ?_⟩
  · rw [after_promptField]
    rfl
  · rintro ⟨_, again, _⟩
    rw [first] at again
    have allowed : (keyedPolicy memoKey).Allows sampleCall administrator
        (((keyedPolicy memoKey).guard .null).knowing sampleCall
          (promptWorld 1 (laterEntries memoKey))) := ⟨_, _, rfl, rfl⟩
    obtain ⟨after, mediates⟩ := (again guarded_sampleCall).mpr allowed
    have outcome := congrArg Prod.fst (mediates.outcome promptField.2)
    have resolved := congrArg (fun resolution => (runFrom resolution
        (promptWorld 1 (laterEntries memoKey))).1)
      (((keyedPolicy memoKey).guard .null).resolve_guarded guarded_sampleCall
        promptField.2)
    cases resolved.symm.trans outcome

end Policy

end RoleGuard
