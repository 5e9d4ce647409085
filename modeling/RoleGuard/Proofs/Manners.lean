import RoleGuard.Proofs.Mediation
import RoleGuard.Proofs.Steady

/-!
# The manner in which an identity comes

A resolver may produce an outcome at the call, or return a coroutine or another
awaitable that produces it, with an event loop running or without one.  Only in
some of these manners is the context given a memo before the rule is asked.
`Guard.fares_alike` says that nothing else tells them apart.
-/

namespace RoleGuard

/-- The world with another resolver in the place of a registered one, and with
or without an event loop. -/
def World.answering (world : World) (index : Nat) (resolver : Resolver)
    (running : Bool) : World :=
  { world with
    resolvers := world.resolvers.set index resolver
    loopRunning := running }

/-- An outcome that does not depend on when it is produced: a value that is
there, a failure or an abort. -/
def Outcome.Definite (world : World) : Outcome → Prop
  | .value v => (world.look v).isPending = false
  | .lookUp _ => False
  | _ => True

namespace World

/-- Worlds in which a context may or may not have been given a memo. -/
def Sights (world : World) (context : Value) (first second : World) : Prop :=
  world.Memoized context first ∧ world.Memoized context second

variable {world other : World} {context : Value}

theorem lasting_sights (world : World) (context : Value) :
    Lasting (world.Sights context) :=
  fun _ _ _ sights =>
    ⟨sights.1.of_objects rfl, sights.2.of_objects rfl⟩

theorem Sights.sameRole {first second : World}
    (sights : world.Sights context first second)
    (fits : (world.held context).FitsSlots) (identity : Value) :
    (first.look identity).SameRole (second.look identity) :=
  (sights.1.sameRole fits identity).symm.trans
    (sights.2.sameRole fits identity)

theorem GuardingNode.of_objects {node : Value}
    (guarding : world.GuardingNode node)
    (same : other.objects = world.objects) : other.GuardingNode node := by
  have looks := look_of_objects same
  cases guarding with
  | rule isRule => exact .rule (by rwa [looks])
  | mapping isMapping sound rules =>
      refine .mapping (by rwa [looks]) ?_ ?_
      · rwa [looks]
      · intro entry member
        rw [looks]
        exact rules entry member

theorem GuardingTree.of_objects {tree : PermissionTree}
    (guarding : world.GuardingTree tree)
    (same : other.objects = world.objects) : other.GuardingTree tree :=
  fun entry member => (guarding entry member).of_objects same

end World

/-- For a call, what a guard's rule says, whether the guard passes failures on
and its message do not depend on whether the context has been given a memo. -/
structure Guard.Impartial (guard : Guard) (call : FieldCall) (world : World) :
    Prop where
  verdicts : ∀ identity, Notes (world.Sights call.context)
    (verdict (guard.governing world call) identity)
  debugs : ∀ other, world.Memoized call.context other →
    (other.look guard.debug).truthy = (world.look guard.debug).truthy
  messages : ∀ other, world.Memoized call.context other →
    other.refresh guard.fallbackError = world.refresh guard.fallbackError

/-- Authorizing a call goes the same before and after its context has been given
a memo. -/
theorem Guard.Impartial.notes_authorize {guard : Guard} {call : FieldCall}
    {world : World} (impartial : guard.Impartial call world)
    (fits : (world.held call.context).FitsSlots) (identity : Value) :
    Notes (world.Sights call.context)
      (guard.authorize (guard.governing world call) identity call) := by
  apply guard.notes_authorize call (world.lasting_sights call.context)
    (impartial.verdicts identity)
  · exact fun _ _ sights => sights.sameRole fits identity
  · exact fun first second sights =>
      (impartial.debugs second sights.2).trans
        (impartial.debugs first sights.1).symm
  · exact fun first second sights =>
      (impartial.messages second sights.2).trans
        (impartial.messages first sights.1).symm

/-- A world that comes after another one with some events noted: but for a memo
in the context it has the same objects. -/
structure World.Reaches (world : World) (context : Value) (events : Journal)
    (after : World) : Prop where
  journal : after.journal = world.journal ++ events
  visits : after.visits = world.visits
  memoized : world.Memoized context after

namespace World.Reaches

variable {world called after : World} {context : Value} {events : Journal}

theorem noted (reaches : world.Reaches context events after)
    (more : Journal) :
    world.Reaches context (events ++ more) (after.noted more) where
  journal := by simp [World.noted, reaches.journal]
  visits := reaches.visits
  memoized := reaches.memoized.of_objects rfl

theorem remembers (reaches : world.Reaches context events called)
    (same : called.objects = world.objects) {memo : Value}
    (remembers : called.Remembers context memo after) :
    world.Reaches context events after where
  journal := (remembers.part_eq fun _ _ => rfl).trans reaches.journal
  visits := (remembers.part_eq fun _ _ => rfl).trans reaches.visits
  memoized := .of_remembers same remembers

end World.Reaches

/-- For a call, a guard asks a context without a memo for the identity, which
a registered resolver gives. -/
structure Guard.Consults (guard : Guard) (call : FieldCall) (world : World)
    (source : Value) (index : Nat) : Prop where
  asks : Identity.sourceIn world call.context guard.contextKey
    guard.identityResolver = .ok source
  registered : world.Registered source index
  inRange : index < world.resolvers.length
  unremembered : world.Unremembered call.context
  tolerates : world.Tolerates call.context

namespace Guard

variable {guard : Guard} {call : FieldCall} {world : World} {source : Value}
  {index : Nat} {outcome : Outcome} {resolver : Resolver}

theorem Consults.course_eq (consults : guard.Consults call world source index)
    (resolver : Resolver) (running : Bool) :
    Identity.course (world.answering index resolver running) call.context
      guard.contextKey guard.identityResolver call.operation =
        .invoking source := by
  have sameObjects : (world.answering index resolver running).objects =
      world.objects := rfl
  rw [Identity.course_of_objects sameObjects]
  exact consults.unremembered.course_eq consults.asks
    consults.registered.isCallable call.operation

/-- The world in which the source has been invoked. -/
theorem Consults.invoked (consults : guard.Consults call world source index)
    (running : Bool) {produced : Outcome}
    (scripted : resolver.outcome? resolver.calls = some produced) :
    ∃ called, called.loopRunning = running ∧ called.tasks = world.tasks ∧
      world.Reaches call.context [] called ∧ called.objects = world.objects ∧
      runFrom (callValue source call.context)
          (world.answering index resolver running) =
        (resolver.ending produced call.context world, called) := by
  let start := world.answering index resolver running
  have found : start.resolvers[index]? = some resolver := by
    simp [start, World.answering, consults.inRange]
  have registered : start.Registered source index :=
    consults.registered.of_objects rfl
  refine ⟨start.counted index resolver, rfl, rfl, ⟨?_, rfl, .bare rfl⟩, rfl, ?_⟩
  · simp [start, World.counted, World.answering]
  · rw [registered.runFrom_callValue, runFrom_callRegistered found scripted]
    exact congrArg (·, _) (resolver.ending_of_objects produced _ rfl)

/-- An answer that is there is the identity. -/
theorem Consults.identityFor_settled
    (consults : guard.Consults call world source index) {running : Bool}
    {who : Value} {called : World} {events : Journal}
    (answered : runFrom (withoutFailure (callValue source call.context))
      (world.answering index resolver running) = (.ok who, called))
    (same : called.objects = world.objects)
    (reaches : world.Reaches call.context events called)
    (settled : (world.look who).isPending = false) :
    ∃ after, runFrom (guard.identityFor call)
        (world.answering index resolver running) = (.ok who, after) ∧
      world.Reaches call.context events after := by
  have tolerates := consults.tolerates.of_objects same
  rw [← World.look_of_objects same] at settled
  obtain ⟨known, identified, remembers⟩ := Guard.identityFor_settled guard
    (consults.course_eq resolver running) answered settled tolerates
  exact ⟨known, identified, reaches.remembers same remembers⟩

/-- An administrator, there at once or awaited as a coroutine. -/
def administrator (deferred : Bool) : Resolver :=
  ⟨"who", deferred, [.value (.identity (.text "ADMIN") .null)], 0⟩

end Guard

end RoleGuard
