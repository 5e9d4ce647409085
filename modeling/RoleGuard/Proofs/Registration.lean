import RoleGuard.Proofs.Identification

/-!
# What registered resolvers answer

A call of a registered resolver takes the next outcome of its script.  What is
made of it depends on the objects of the world alone, at the call as well as
when the answer has to be awaited.
-/

namespace RoleGuard

/-- How an outcome ends for a context as things stand. -/
def Outcome.ending (outcome : Outcome) (context : Value) (world : World) :
    Except Stop Value :=
  (runFrom (outcome.run context) world).1

namespace Outcome

variable (outcome : Outcome) (context : Value)

theorem runFrom_run (world : World) :
    runFrom (outcome.run context) world =
      (outcome.ending context world, world) := by
  cases outcome with
  | lookUp key =>
      unfold ending run
      rw [runFrom_bind_ok (Act.runFrom_look context world)]
      generalize (if (world.look context).isMapping = true then _ else _) =
        found
      cases found <;> rfl
  | _ => rfl

theorem ending_of_look {world other : World}
    (same : other.look context = world.look context) :
    outcome.ending context other = outcome.ending context world := by
  cases outcome with
  | lookUp key =>
      unfold ending run
      rw [runFrom_bind_ok (Act.runFrom_look context other),
        runFrom_bind_ok (Act.runFrom_look context world), same]
      generalize (if (world.look context).isMapping = true then _ else _) =
        found
      cases found <;> rfl
  | _ => rfl

theorem ending_of_objects {world other : World}
    (same : other.objects = world.objects) :
    outcome.ending context other = outcome.ending context world :=
  outcome.ending_of_look context (World.look_of_objects same context)

theorem ending_null (world other : World) :
    outcome.ending .null other = outcome.ending .null world :=
  outcome.ending_of_look .null rfl

theorem ending_ne_abort {outcome : Outcome}
    (contained : ∀ message, outcome ≠ .abort message) (world : World)
    (message : String) :
    outcome.ending context world ≠ .error (.abort message) := by
  cases outcome with
  | abort reason => exact absurd rfl (contained reason)
  | lookUp key =>
      unfold ending run
      rw [runFrom_bind_ok (Act.runFrom_look context world)]
      generalize (if (world.look context).isMapping = true then _ else _) =
        found
      cases found <;> nofun
  | _ => nofun

end Outcome

/-- What identity there is after a source has ended in some way, and what is
noted: a failure is noted and gives none. -/
def Identity.tolerated : Except Stop Value → Except Stop Value × Journal
  | .error (.fault fault) => (.ok .null, [.resolverFailed fault])
  | ending => (ending, [])

@[simp] theorem Identity.tolerated_ok (who : Value) :
    tolerated (.ok who) = (.ok who, []) :=
  rfl

theorem Identity.tolerated_contained {ending : Except Stop Value}
    (contained : ∀ message, ending ≠ .error (.abort message)) :
    ∃ who, (tolerated ending).1 = .ok who := by
  match ending with
  | .ok who => exact ⟨who, rfl⟩
  | .error (.fault _) => exact ⟨.null, rfl⟩
  | .error (.abort message) => exact absurd rfl (contained message)

theorem Identity.withoutFailure_of_run {operation : Act Value}
    {world after : World} {ending : Except Stop Value}
    (ended : runFrom operation world = (ending, after)) :
    runFrom (withoutFailure operation) world =
      ((tolerated ending).1, after.noted (tolerated ending).2) := by
  rw [runFrom_withoutFailure, ended]
  match ending with
  | .ok who => simp [tolerated]
  | .error (.fault fault) => rfl
  | .error (.abort message) => simp [tolerated]

namespace Pending

/-- An awaitable that neither aborts nor waits for a task. -/
def Contained : Pending → Prop
  | .ready outcome | .call _ outcome => ∀ message, outcome ≠ .abort message
  | .guarded inner => inner.Contained
  | .refused _ => True
  | .task _ => False

/-- An awaitable ends in one way, and does not abort, as long as objects stay as
they are. -/
def Settles (awaitable : Pending) (world : World) (ending : Except Stop Value) :
    Prop :=
  (∀ message, ending ≠ .error (.abort message)) ∧
    ∀ other : World, other.objects = world.objects →
      (runFrom awaitable.settle other).1 = ending

/-- With failures counting as no identity, it gives one. -/
theorem Settles.guarded {awaitable : Pending} {world : World}
    {ending : Except Stop Value} (settles : awaitable.Settles world ending) :
    ∃ who, (Pending.guarded awaitable).Settles world (.ok who) := by
  obtain ⟨who, isWho⟩ := Identity.tolerated_contained settles.1
  refine ⟨who, nofun, fun other same => ?_⟩
  have ended : runFrom awaitable.settle other =
      (ending, (runFrom awaitable.settle other).2) := by
    rw [← settles.2 other same]
  rw [settle, Identity.withoutFailure_of_run ended]
  exact isWho

theorem Contained.settles {awaitable : Pending}
    (contained : awaitable.Contained) (world : World) :
    ∃ ending, awaitable.Settles world ending := by
  induction awaitable using Pending.settle.induct with
  | case1 outcome =>
      exact ⟨_, outcome.ending_ne_abort .null contained world,
        fun other same => outcome.ending_of_objects .null same⟩
  | case2 context outcome =>
      exact ⟨_, outcome.ending_ne_abort context contained world,
        fun other same => outcome.ending_of_objects context same⟩
  | case3 inner ih =>
      obtain ⟨ending, settles⟩ := ih contained
      obtain ⟨who, identifies⟩ := settles.guarded
      exact ⟨.ok who, identifies⟩
  | case4 typeName =>
      refine ⟨(runFrom (refused typeName).settle world).1, ?_, fun _ _ => rfl⟩
      intro message aborts
      cases aborts
  | case5 index => exact contained.elim

end Pending

/-- A value stands for the registered resolver of an index, also as things
stand. -/
def World.Registered (world : World) (source : Value) (index : Nat) : Prop :=
  ∃ likeness, source.content = .resolver index likeness ∧
    world.held source = .resolver index likeness

namespace World.Registered

variable {world other : World} {source : Value} {index : Nat}

theorem of_objects (registered : world.Registered source index)
    (same : other.objects = world.objects) :
    other.Registered source index := by
  obtain ⟨likeness, isResolver, holds⟩ := registered
  exact ⟨likeness, isResolver, (World.held_of_objects same source).trans holds⟩

theorem isCallable (registered : world.Registered source index) :
    source.isCallable = true := by
  obtain ⟨likeness, isResolver, _⟩ := registered
  simp [Value.isCallable, isResolver]

theorem same_self (registered : world.Registered source index) :
    source.same source = true := by
  obtain ⟨likeness, _, holds⟩ := registered
  cases source with
  | object number last => simp [Value.same, Value.number?]
  | resolver other given =>
      cases given <;> simp [Value.same, Value.sameLeaf, Value.content]
  | _ => cases holds

theorem runFrom_callValue (registered : world.Registered source index)
    (context : Value) :
    runFrom (callValue source context) world =
      runFrom (callRegistered index context) world := by
  obtain ⟨likeness, isResolver, holds⟩ := registered
  have simply : callValue source context = callSimply source context := by
    unfold callValue
    rw [isResolver]
  have leaf : (world.refresh source).callBy Act.caller context =
      callRegistered index context := by
    cases source with
    | object number last =>
        have refreshed : world.refresh (.object number last) =
            .object number (world.refreshWithin world.objects.length [number]
              (.resolver index likeness)) :=
          congrArg (fun now => Value.object number
            (world.refreshWithin world.objects.length [number] now)) holds
        rw [refreshed]
        cases world.objects.length <;> rfl
    | resolver other given =>
        cases holds
        rfl
    | _ => cases holds
  rw [simply, callSimply, runFrom_bind_ok (Act.runFrom_refresh source world),
    leaf]

end World.Registered

/-- A context holds no memo. -/
def World.Unremembered (world : World) (context : Value) : Prop :=
  ∃ v, (world.look context).read (.text memoKey) .null = .ok v ∧
    ∀ source operation who, v ≠ .memo source operation who

/-- Without a memo, a source that is asked for is invoked. -/
theorem World.Unremembered.course_eq {world : World}
    {context key resolver source : Value}
    (unremembered : world.Unremembered context)
    (asks : Identity.sourceIn world context key resolver = .ok source)
    (callable : source.isCallable = true) (operation : Option String) :
    Identity.course world context key resolver operation =
      .invoking source := by
  obtain ⟨v, reads, notMemo⟩ := unremembered
  rw [Identity.course_of_callable asks callable, reads]
  cases recalls : v.recall source operation with
  | none => simp only [recalls]
  | some who =>
      obtain ⟨known, isMemo, _⟩ := Identity.eq_memo_of_recall recalls
      exact absurd isMemo (notMemo known operation who)

/-- The world after a registered resolver has been called. -/
def World.counted (world : World) (index : Nat) (resolver : Resolver) :
    World :=
  { world with
    resolvers := world.resolvers.set index
      { resolver with calls := resolver.calls + 1 } }

/-- How a call of a resolver ends that takes an outcome of its script. -/
def Resolver.ending (resolver : Resolver) (outcome : Outcome) (context : Value)
    (world : World) : Except Stop Value :=
  if resolver.deferred then .ok (.pending (.call context outcome))
  else outcome.ending context world

theorem Resolver.ending_of_objects (resolver : Resolver) (outcome : Outcome)
    (context : Value) {world other : World}
    (same : other.objects = world.objects) :
    resolver.ending outcome context other =
      resolver.ending outcome context world := by
  unfold ending
  rw [outcome.ending_of_objects context same]

theorem runFrom_callRegistered {world : World} {index : Nat}
    {resolver : Resolver} {outcome : Outcome}
    (found : world.resolvers[index]? = some resolver)
    (scripted : resolver.outcome? resolver.calls = some outcome)
    (context : Value) :
    runFrom (callRegistered index context) world =
      (resolver.ending outcome context world,
        world.counted index resolver) := by
  rw [callRegistered, runFrom_bind_ok (runFrom_get world), found]
  simp only [scripted]
  rw [runFrom_bind_ok (runFrom_modify _ world)]
  unfold Resolver.ending
  split
  · rfl
  · rw [outcome.runFrom_run]
    exact congrArg (·, _) (outcome.ending_of_objects context rfl)

/-- What invoking a registered resolver gives. -/
theorem World.Registered.runFrom_withoutFailure {world : World}
    {source : Value} {index : Nat} {resolver : Resolver} {outcome : Outcome}
    (registered : world.Registered source index)
    (found : world.resolvers[index]? = some resolver)
    (scripted : resolver.outcome? resolver.calls = some outcome)
    (context : Value) :
    runFrom (withoutFailure (callValue source context)) world =
      ((Identity.tolerated (resolver.ending outcome context world)).1,
        (world.counted index resolver).noted
          (Identity.tolerated (resolver.ending outcome context world)).2) := by
  apply Identity.withoutFailure_of_run
  rw [registered.runFrom_callValue context]
  exact runFrom_callRegistered found scripted context

end RoleGuard
