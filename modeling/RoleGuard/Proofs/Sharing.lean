import RoleGuard.Proofs.Registration

/-!
# One identity for an operation

The first resolution for an operation invokes the source and leaves a memo: the
identity itself, or a task of it.  `World.Promises` says that awaiting what a
memo holds gives a certain identity, however many have awaited it before.
-/

namespace RoleGuard

/-- Awaiting a value gives an identity: it is the identity itself, or a task
that has ended with it or will do so. -/
inductive World.Promises (world : World) (who : Value) : Value → Prop where
  | settled : (world.look who).isPending = false → Promises world who who
  | ended {index : Nat} {body : Pending} :
      world.tasks[index]? = some ⟨body, some (.ok who)⟩ →
      Promises world who (.pending (.task index))
  | waiting {index : Nat} {body : Pending} :
      world.tasks[index]? = some ⟨body, none⟩ →
      body.Settles world (.ok who) →
      Promises world who (.pending (.task index))

theorem Pending.Settles.of_objects {awaitable : Pending} {world other : World}
    {ending : Except Stop Value} (settles : awaitable.Settles world ending)
    (same : other.objects = world.objects) : awaitable.Settles other ending :=
  ⟨settles.1, fun later isLater => settles.2 later (isLater.trans same)⟩

namespace World.Promises

variable {world after : World} {who given : Value}

/-- A promise is kept when further tasks are scheduled. -/
theorem of_prefix (promises : world.Promises who given)
    (same : after.objects = world.objects)
    (grows : world.tasks <+: after.tasks) : after.Promises who given := by
  obtain ⟨more, isAfter⟩ := grows
  have stays {index : Nat} {task : Task}
      (held : world.tasks[index]? = some task) :
      after.tasks[index]? = some task := by
    have inRange := (List.getElem?_eq_some_iff.mp held).1
    rw [← isAfter, List.getElem?_append_left inRange]
    exact held
  cases promises with
  | settled settled => exact .settled (by rwa [World.look_of_objects same])
  | ended ended => exact .ended (stays ended)
  | waiting waits settles =>
      exact .waiting (stays waits) (settles.of_objects same)

/-- A promise is kept while tasks run. -/
theorem of_advances (promises : world.Promises who given)
    (advances : world.Advances after) : after.Promises who given := by
  have sameObjects := World.objects_of_backdrop advances.backdrop
  cases promises with
  | settled settled =>
      exact .settled (by rwa [World.look_of_objects sameObjects])
  | ended ended => exact .ended (advances.ended _ _ _ ended)
  | waiting waits settles =>
      rcases advances.waiting _ _ waits with still | ⟨between, same, ended⟩
      · exact .waiting still (settles.of_objects sameObjects)
      · rw [settles.2 between (World.objects_of_backdrop same)] at ended
        exact .ended ended

theorem runFrom_await (promises : world.Promises who given) :
    ∃ after, runFrom given.await world = (.ok who, after) ∧
      world.Advances after := by
  cases promises with
  | settled settled =>
      exact ⟨world, Value.runFrom_await_settled settled, .refl world⟩
  | ended ended =>
      exact ⟨world, Task.runFrom_await_ended ended, .refl world⟩
  | waiting waits settles =>
      obtain ⟨result, after, between, awaits, advances, _, same, gives, _⟩ :=
        Task.runFrom_await_waiting waits
      rw [settles.2 between (World.objects_of_backdrop same)] at gives
      subst gives
      exact ⟨after, awaits, advances⟩

end World.Promises

/-- What a world has in common with one from which it came without an identity
being resolved. -/
structure World.Rests (world after : World) : Prop where
  objects : after.objects = world.objects
  resolvers : after.resolvers = world.resolvers
  loopRunning : after.loopRunning = world.loopRunning
  tasks : after.tasks.length = world.tasks.length
  promises : ∀ who given,
    world.Promises who given → after.Promises who given

namespace World.Rests

variable {world between after : World}

theorem refl (world : World) : world.Rests world :=
  ⟨rfl, rfl, rfl, rfl, fun _ _ => id⟩

theorem trans (first : world.Rests between) (second : between.Rests after) :
    world.Rests after where
  objects := second.objects.trans first.objects
  resolvers := second.resolvers.trans first.resolvers
  loopRunning := second.loopRunning.trans first.loopRunning
  tasks := second.tasks.trans first.tasks
  promises who given promised :=
    second.promises who given (first.promises who given promised)

theorem of_advances (advances : world.Advances after) : world.Rests after where
  objects := World.objects_of_backdrop advances.backdrop
  resolvers := by
    have resolvers := congrArg World.resolvers advances.backdrop
    exact resolvers
  loopRunning := by
    have loopRunning := congrArg World.loopRunning advances.backdrop
    exact loopRunning
  tasks := advances.length
  promises _ _ promised := promised.of_advances advances

theorem noted (world : World) (events : Journal) :
    world.Rests (world.noted events) :=
  ⟨rfl, rfl, rfl, rfl, fun _ _ promised => promised.of_prefix rfl (List.prefix_refl _)⟩

theorem visited (world : World) (visits : List Visit) :
    world.Rests { world with visits } :=
  ⟨rfl, rfl, rfl, rfl, fun _ _ promised => promised.of_prefix rfl (List.prefix_refl _)⟩

end World.Rests

theorem Resolver.exists_outcome {resolver : Resolver}
    (scripted : resolver.script ≠ []) (call : Nat) :
    ∃ outcome ∈ resolver.script, resolver.outcome? call = some outcome := by
  unfold outcome?
  cases found : resolver.script[call]? with
  | some outcome =>
      exact ⟨outcome, List.mem_of_getElem? found, rfl⟩
  | none =>
      exact ⟨resolver.script.getLast scripted, List.getLast_mem scripted,
        List.getLast?_eq_some_getLast scripted⟩

/-- A resolver that does not abort, and gives awaitables only if an event loop
runs. -/
structure Resolver.Orderly (resolver : Resolver) (world : World)
    (context : Value) : Prop where
  scripted : resolver.script ≠ []
  contained : ∀ outcome ∈ resolver.script, ∀ message,
    outcome ≠ .abort message
  awaited : ∀ outcome ∈ resolver.script, ∀ answer awaitable,
    resolver.ending outcome context world = .ok answer →
    (world.look answer).content = .pending awaitable →
    awaitable.Contained ∧ world.loopRunning = true

theorem Resolver.Orderly.ending_ne_abort {resolver : Resolver} {world : World}
    {context : Value} (orderly : resolver.Orderly world context)
    {outcome : Outcome} (member : outcome ∈ resolver.script)
    (message : String) :
    resolver.ending outcome context world ≠ .error (.abort message) := by
  unfold ending
  split
  · exact nofun
  · exact outcome.ending_ne_abort context (orderly.contained outcome member)
      world message

theorem World.Tolerates.remembers {world : World} {context : Value}
    (tolerates : world.Tolerates context) (memo : Value) :
    ∃ known, world.Remembers context memo known := by
  obtain ⟨known, _, remembers⟩ :=
    Identity.runFrom_rememberAs_tolerated tolerates memo memo
  exact ⟨known, remembers⟩

/-- What objects are after a memo has been given depends on what they were
before. -/
theorem World.Remembers.objects_eq {world called mid known : World}
    {context memo : Value} (same : called.objects = world.objects)
    (remembers : world.Remembers context memo mid)
    (remembersToo : called.Remembers context memo known) :
    known.objects = mid.objects := by
  have replaced (written : Value) : (called.replace context written).objects =
      (world.replace context written).objects := by
    unfold World.replace
    split
    · simp only [same]
    · exact same
  have held := World.held_of_objects same context
  cases remembers with
  | taken writes =>
      cases remembersToo with
      | taken writesToo =>
          rw [held] at writesToo
          cases writes.symm.trans writesToo
          exact replaced _
      | refused refuses _ =>
          rw [held] at refuses
          cases writes.symm.trans refuses
  | refused refuses _ =>
      cases remembersToo with
      | taken writesToo =>
          rw [held] at writesToo
          cases refuses.symm.trans writesToo
      | refused _ _ => exact same

/-- A world as far as the next resolution of an identity sees it. -/
structure World.Alike (world other : World) : Prop where
  objects : other.objects = world.objects
  resolvers : other.resolvers = world.resolvers
  loopRunning : other.loopRunning = world.loopRunning
  tasks : other.tasks.length = world.tasks.length

theorem World.Alike.refl (world : World) : world.Alike world :=
  ⟨rfl, rfl, rfl, rfl⟩

/-- A guard resolves identities for an operation on a context without a memo,
where a registered resolver gives them. -/
structure Guard.Shares (guard : Guard) (world : World) (context source : Value)
    (index : Nat) (resolver : Resolver) : Prop where
  asks : Identity.sourceIn world context guard.contextKey
    guard.identityResolver = .ok source
  registered : world.Registered source index
  found : world.resolvers[index]? = some resolver
  orderly : resolver.Orderly world context
  unremembered : world.Unremembered context
  tolerates : world.Tolerates context

/-- What comes of the first resolution for an operation, in every world that is
alike: `given` is remembered, and it promises the identity that the source
yields. -/
structure Guard.Identifies (guard : Guard) (world : World)
    (context source : Value) (operation : Option String) (index : Nat)
    (resolver : Resolver) (who given : Value) (known : World) : Prop where
  remembers : world.Remembers context (.memo source operation given) known
  yields : Yields source context world (.ok who, known)
  resolves : ∀ other, world.Alike other → ∃ ready,
    runFrom (Identity.resolve context guard.contextKey guard.identityResolver
        operation) other = (.ok given, ready) ∧
      ready.objects = known.objects ∧
      ready.resolvers = (world.counted index resolver).resolvers ∧
      ready.loopRunning = world.loopRunning ∧
      other.tasks <+: ready.tasks ∧ ready.Promises who given

namespace Guard

variable {guard : Guard} {world : World} {context source : Value}
  {index : Nat} {resolver : Resolver}

theorem Shares.course_eq
    (shares : guard.Shares world context source index resolver)
    {other : World} (same : other.objects = world.objects)
    (operation : Option String) :
    Identity.course other context guard.contextKey guard.identityResolver
      operation = .invoking source := by
  rw [Identity.course_of_objects same]
  exact shares.unremembered.course_eq shares.asks shares.registered.isCallable
    operation

theorem Shares.of_objects
    (shares : guard.Shares world context source index resolver) {other : World}
    {calls : Nat} (same : other.objects = world.objects)
    (runs : other.loopRunning = world.loopRunning)
    (found : other.resolvers[index]? = some { resolver with calls }) :
    guard.Shares other context source index { resolver with calls } where
  asks := by
    rw [Identity.sourceIn_of_objects same]
    exact shares.asks
  registered := shares.registered.of_objects same
  found := found
  orderly := by
    refine ⟨shares.orderly.scripted, shares.orderly.contained, ?_⟩
    intro outcome member answer awaitable ends waits
    rw [Resolver.ending_of_objects _ outcome context same] at ends
    rw [World.look_of_objects same] at waits
    rw [runs]
    exact shares.orderly.awaited outcome member answer awaitable ends waits
  unremembered := by
    unfold World.Unremembered
    rw [World.look_of_objects same]
    exact shares.unremembered
  tolerates := shares.tolerates.of_objects same

/-- The next call of the resolver gives the same answer in all worlds that are
alike. -/
theorem Shares.exists_answer
    (shares : guard.Shares world context source index resolver) :
    ∃ answer events,
      (∀ awaitable, (world.look answer).content = .pending awaitable →
        awaitable.Contained ∧ world.loopRunning = true) ∧
      ∀ other, world.Alike other →
        runFrom (withoutFailure (callValue source context)) other =
          (.ok answer, (other.counted index resolver).noted events) := by
  obtain ⟨outcome, member, scripted⟩ :=
    Resolver.exists_outcome shares.orderly.scripted resolver.calls
  have awaited := shares.orderly.awaited outcome member
  have noAbort := shares.orderly.ending_ne_abort member
  obtain ⟨answer, isAnswer⟩ := Identity.tolerated_contained noAbort
  refine ⟨answer, (Identity.tolerated
    (resolver.ending outcome context world)).2, ?_, fun other alike => ?_⟩
  · intro awaitable waits
    cases ends : resolver.ending outcome context world with
    | ok given =>
        rw [ends, Identity.tolerated_ok] at isAnswer
        cases isAnswer
        exact awaited answer awaitable ends waits
    | error stop =>
        rw [ends] at isAnswer
        cases stop with
        | fault fault =>
            cases isAnswer
            cases waits
        | abort message => cases isAnswer
  · have found : other.resolvers[index]? = some resolver := by
      rw [alike.resolvers]
      exact shares.found
    rw [(shares.registered.of_objects alike.objects).runFrom_withoutFailure
      found scripted context,
      resolver.ending_of_objects outcome context alike.objects, isAnswer]

section

variable {answer : Value} {events : Journal}

/-- An answer that is there at once is remembered as it is. -/
theorem Shares.identifies_settled
    (shares : guard.Shares world context source index resolver)
    (operation : Option String)
    (answers : ∀ other, world.Alike other →
      runFrom (withoutFailure (callValue source context)) other =
        (.ok answer, (other.counted index resolver).noted events))
    (waits : (world.look answer).isPending = false) :
    ∃ known, guard.Identifies world context source operation index resolver
      answer answer known := by
  obtain ⟨known, remembers⟩ :=
    shares.tolerates.remembers (.memo source operation answer)
  refine ⟨known, remembers, .atOnce (answers world (.refl world)) waits,
    fun other alike => ?_⟩
  let called := (other.counted index resolver).noted events
  have sameObjects : called.objects = world.objects := alike.objects
  have settled : (called.look answer).isPending = false := by
    rw [World.look_of_objects sameObjects]
    exact waits
  obtain ⟨ready, resolved, remembered⟩ := Identity.resolve_settled
    (shares.course_eq alike.objects operation) (answers other alike)
    settled (shares.tolerates.of_objects sameObjects)
  refine ⟨ready, resolved, remembers.objects_eq sameObjects remembered,
    ?_, ?_, ?_, .settled ?_⟩
  · have kept : ready.resolvers = called.resolvers :=
      remembered.part_eq fun _ _ => rfl
    rw [kept, World.counted, ← alike.resolvers]
    rfl
  · have kept : ready.loopRunning = called.loopRunning :=
      remembered.part_eq fun _ _ => rfl
    exact kept.trans alike.loopRunning
  · have kept : ready.tasks = called.tasks :=
      remembered.part_eq fun _ _ => rfl
    rw [kept]
    exact List.prefix_refl _
  · exact (remembered.isPending_look answer).trans settled

/-- Of an answer that has to be awaited, a task is remembered. -/
theorem Shares.identifies_task
    (shares : guard.Shares world context source index resolver)
    (operation : Option String)
    (answers : ∀ other, world.Alike other →
      runFrom (withoutFailure (callValue source context)) other =
        (.ok answer, (other.counted index resolver).noted events))
    {awaitable : Pending}
    (isPending : (world.look answer).content = .pending awaitable)
    (contained : awaitable.Contained) (running : world.loopRunning = true) :
    ∃ who known, guard.Identifies world context source operation index resolver
      who (.pending (.task world.tasks.length)) known := by
  obtain ⟨known, remembers⟩ := shares.tolerates.remembers
    (.memo source operation (.pending (.task world.tasks.length)))
  obtain ⟨_, settles⟩ := contained.settles known
  obtain ⟨who, identifies⟩ := settles.guarded
  have yields : Yields source context world (.ok who, known) := by
    rw [← identifies.2 known rfl]
    exact .awaited (answers world (.refl world)) isPending rfl
  refine ⟨who, known, remembers, yields, fun other alike => ?_⟩
  let called := (other.counted index resolver).noted events
  have sameObjects : called.objects = world.objects := alike.objects
  have pending : (called.look answer).content = .pending awaitable := by
    rw [World.look_of_objects sameObjects]
    exact isPending
  have runs : called.loopRunning = true := alike.loopRunning.trans running
  have sameTasks : called.tasks.length = world.tasks.length := alike.tasks
  obtain ⟨ready, resolved, remembered⟩ := Identity.resolve_task
    (shares.course_eq alike.objects operation) (answers other alike)
    pending runs (shares.tolerates.of_objects sameObjects)
  have scheduled := Identity.waits_of_scheduled remembered
  rw [sameTasks] at resolved remembered scheduled
  have sameScheduled : (Identity.scheduled called awaitable).objects =
      world.objects := alike.objects
  have isKnown : ready.objects = known.objects :=
    remembers.objects_eq sameScheduled remembered
  refine ⟨ready, resolved, isKnown, ?_, ?_, ?_,
    .waiting scheduled (identifies.of_objects isKnown)⟩
  · have kept : ready.resolvers = called.resolvers :=
      remembered.part_eq fun _ _ => rfl
    rw [kept, World.counted, ← alike.resolvers]
    rfl
  · have kept : ready.loopRunning = called.loopRunning :=
      remembered.part_eq fun _ _ => rfl
    exact kept.trans alike.loopRunning
  · have kept : ready.tasks = (Identity.scheduled called awaitable).tasks :=
      remembered.part_eq fun _ _ => rfl
    rw [kept]
    exact List.prefix_append _ _

end

/-- The first resolution for an operation leaves a promise of what the source
yields. -/
theorem Shares.identifies
    (shares : guard.Shares world context source index resolver)
    (operation : Option String) :
    ∃ who given known, guard.Identifies world context source operation index
      resolver who given known := by
  obtain ⟨answer, events, awaited, answers⟩ := shares.exists_answer
  cases waits : (world.look answer).isPending with
  | false =>
      obtain ⟨known, identifies⟩ :=
        shares.identifies_settled operation answers waits
      exact ⟨answer, answer, known, identifies⟩
  | true =>
      obtain ⟨awaitable, isPending⟩ := Identity.content_of_isPending waits
      obtain ⟨contained, running⟩ := awaited awaitable isPending
      obtain ⟨who, known, identifies⟩ :=
        shares.identifies_task operation answers isPending contained running
      exact ⟨who, _, known, identifies⟩

theorem Identifies.memoized {operation : Option String} {who given : Value}
    {known : World}
    (identifies : guard.Identifies world context source operation index resolver
      who given known) : world.Memoized context known :=
  .of_remembers rfl identifies.remembers

end Guard

/-- Whether a context of the store takes the memo, and then gives it back, or a
context refuses it. -/
def World.TakesMemo (world : World) (context : Value) : Bool → Prop
  | true =>
      (∃ number carried, context = .object number carried ∧
        number < world.objects.length) ∧
      (world.held context).Accepts ∧ (world.held context).retains = true
  | false => ∀ memo, ∃ fault,
      (world.held context).write (.text memoKey) memo = .error fault ∧
        fault.refusesWrite = true

theorem World.TakesMemo.of_objects {world other : World} {context : Value}
    {takes : Bool} (decides : world.TakesMemo context takes)
    (same : other.objects = world.objects) : other.TakesMemo context takes := by
  cases takes with
  | true =>
      unfold World.TakesMemo
      rw [World.held_of_objects same, same]
      exact decides
  | false =>
      unfold World.TakesMemo
      rw [World.held_of_objects same]
      exact decides

theorem World.TakesMemo.tolerates {world : World} {context : Value}
    {takes : Bool} (decides : world.TakesMemo context takes) :
    world.Tolerates context := by
  intro memo fault refused
  cases takes with
  | true =>
      obtain ⟨written, writes⟩ := decides.2.1 memo
      cases refused.symm.trans writes
  | false =>
      obtain ⟨other, refusedToo, refuses⟩ := decides memo
      cases refused.symm.trans refusedToo
      exact refuses

/-- A context that refuses the memo stays as it is. -/
theorem World.Remembers.objects_refused {world known : World}
    {context memo : Value} (refuses : world.TakesMemo context false)
    (remembers : world.Remembers context memo known) :
    known.objects = world.objects := by
  cases remembers with
  | taken writes =>
      obtain ⟨fault, refused, _⟩ := refuses memo
      cases writes.symm.trans refused
  | refused _ _ => rfl

/-- A context that takes the memo gives it back. -/
theorem World.Remembers.read_memo {world known : World}
    {context memo : Value} (takes : world.TakesMemo context true)
    (remembers : world.Remembers context memo known) :
    (known.look context).read (.text memoKey) .null = .ok memo := by
  obtain ⟨⟨number, carried, rfl, stored⟩, accepts, retained⟩ := takes
  cases remembers with
  | taken writes =>
      rw [World.look_replace_stored stored]
      exact (Value.writes_of_write writes).read_retained retained number .null
  | refused refused _ =>
      obtain ⟨written, writes⟩ := accepts memo
      cases refused.symm.trans writes

/-- Resolvers as they are seen in what contexts give. -/
def Value.resolver? (v : Value) : Option Value :=
  match v.content with
  | .resolver _ _ => some v
  | _ => none

theorem Value.blind_resolver? : Blind resolver? where
  method _ _ _ := rfl
  bound _ _ _ := rfl
  map _ _ := rfl

/-- A context gives the same resolver before and after it has been given a
memo. -/
theorem World.Memoized.sourceIn_eq {world other : World}
    {context key resolver source : Value} {index : Nat}
    {likeness : Option String}
    (memoized : world.Memoized context other) (keyed : key.OtherKey)
    (fits : (world.held context).FitsSlots)
    (asks : Identity.sourceIn world context key resolver = .ok source)
    (isResolver : source.content = .resolver index likeness) :
    Identity.sourceIn other context key resolver = .ok source := by
  cases resolver with
  | null =>
      have sees := memoized.map_read Value.blind_resolver? keyed fits context
        .null
      change (world.look context).read key .null = .ok source at asks
      change (other.look context).read key .null = .ok source
      rw [asks] at sees
      cases reads : (other.look context).read key .null with
      | error fault =>
          rw [reads] at sees
          cases sees
      | ok found =>
          rw [reads] at sees
          have same : found.resolver? = some source := by
            have sourceSeen : source.resolver? = some source := by
              simp [Value.resolver?, isResolver]
            rw [← sourceSeen]
            exact Except.ok.inj sees
          unfold Value.resolver? at same
          split at same
          · cases same
            rfl
          · cases same
  | _ => exact asks

/-- Once a context has taken the memo, it is recalled. -/
theorem Guard.Identifies.recalls {guard : Guard} {world known now : World}
    {context source who given : Value} {operation : Option String}
    {index : Nat} {resolver : Resolver}
    (identifies : guard.Identifies world context source operation index
      resolver who given known)
    (shares : guard.Shares world context source index resolver)
    (takes : world.TakesMemo context true)
    (keyed : guard.contextKey.OtherKey)
    (fits : (world.held context).FitsSlots)
    (same : now.objects = known.objects) :
    Identity.course now context guard.contextKey guard.identityResolver
      operation = .recalled source given := by
  have memoized : world.Memoized context now :=
    identifies.memoized.of_objects same
  obtain ⟨likeness, isResolver, _⟩ := shares.registered
  have asks := memoized.sourceIn_eq keyed fits shares.asks isResolver
  have recalls : (Value.memo source operation given).recall source operation =
      some given := by
    simp [Value.recall, shares.registered.same_self]
  rw [Identity.course_of_callable asks shares.registered.isCallable,
    World.look_of_objects same, identifies.remembers.read_memo takes]
  simp only [recalls]

end RoleGuard
