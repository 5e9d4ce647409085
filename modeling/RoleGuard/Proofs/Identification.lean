import RoleGuard.Proofs.Awaiting
import RoleGuard.Proofs.Mediation
import RoleGuard.Proofs.Remembering

/-!
# How a guard comes by an identity

When a source is invoked, its answer is there at once, or has to be awaited as a
coroutine or as a task.  Each case has one lemma for the resolution of the
identity and one for the guard that awaits it.
-/

namespace RoleGuard

/-- What is settled stays so when a context is given a memo, and so does what
has to be awaited. -/
theorem World.Remembers.isPending_look {called known : World}
    {context memo : Value} (remembers : called.Remembers context memo known)
    (v : Value) : (known.look v).isPending = (called.look v).isPending :=
  (World.Memoized.of_remembers rfl remembers).isPending_look v

section

variable {context key resolver source answer : Value}
  {operation : Option String} {world called : World}

namespace Identity

theorem runFrom_resolve_invoking
    (goes : course world context key resolver operation = .invoking source) :
    runFrom (resolve context key resolver operation) world =
      runFrom (do
        let answer ← withoutFailure (callValue source context)
        keep context source operation answer) world := by
  rw [resolve, runFrom_resolveBy, goes]

theorem resolve_aborted {message : String}
    (goes : course world context key resolver operation = .invoking source)
    (aborts : runFrom (callValue source context) world =
      (.error (.abort message), called)) :
    runFrom (resolve context key resolver operation) world =
      (.error (.abort message), called) := by
  have stops : runFrom (withoutFailure (callValue source context)) world =
      (.error (.abort message), called) := by
    rw [runFrom_withoutFailure, aborts]
  rw [runFrom_resolve_invoking goes, runFrom_bind_error stops]

theorem resolve_settled
    (goes : course world context key resolver operation = .invoking source)
    (answered : runFrom (withoutFailure (callValue source context)) world =
      (.ok answer, called))
    (settled : (called.look answer).isPending = false)
    (tolerates : called.Tolerates context) :
    ∃ known, runFrom (resolve context key resolver operation) world =
        (.ok answer, known) ∧
      called.Remembers context (.memo source operation answer) known := by
  obtain ⟨known, remembered, remembers⟩ := runFrom_rememberAs_tolerated
    tolerates (.memo source operation answer) answer
  refine ⟨known, ?_, remembers⟩
  rw [runFrom_resolve_invoking goes, runFrom_bind_ok answered,
    runFrom_keep_answer _ _ _ settled, remembered]

theorem resolve_coroutine {awaitable : Pending}
    (goes : course world context key resolver operation = .invoking source)
    (answered : runFrom (withoutFailure (callValue source context)) world =
      (.ok answer, called))
    (waits : (called.look answer).content = .pending awaitable)
    (stopped : called.loopRunning = false) :
    runFrom (resolve context key resolver operation) world =
      (.ok (.pending (.guarded awaitable)), called) := by
  rw [runFrom_resolve_invoking goes, runFrom_bind_ok answered,
    runFrom_keep_coroutine _ _ _ waits stopped]

theorem resolve_task {awaitable : Pending}
    (goes : course world context key resolver operation = .invoking source)
    (answered : runFrom (withoutFailure (callValue source context)) world =
      (.ok answer, called))
    (waits : (called.look answer).content = .pending awaitable)
    (running : called.loopRunning = true)
    (tolerates : called.Tolerates context) :
    ∃ ready, runFrom (resolve context key resolver operation) world =
        (.ok (.pending (.task called.tasks.length)), ready) ∧
      (scheduled called awaitable).Remembers context
        (.memo source operation (.pending (.task called.tasks.length)))
        ready := by
  have toleratesThen : (scheduled called awaitable).Tolerates context :=
    tolerates
  obtain ⟨ready, remembered, remembers⟩ :=
    runFrom_rememberAs_tolerated toleratesThen
      (.memo source operation (.pending (.task called.tasks.length)))
      (.pending (.task called.tasks.length))
  refine ⟨ready, ?_, remembers⟩
  rw [runFrom_resolve_invoking goes, runFrom_bind_ok answered,
    runFrom_keep_task _ _ _ waits running, remembered]

/-- A task that has been scheduled waits. -/
theorem waits_of_scheduled {awaitable : Pending} {memo : Value} {ready : World}
    (remembers : (scheduled called awaitable).Remembers context memo ready) :
    ready.tasks[called.tasks.length]? = some ⟨.guarded awaitable, none⟩ := by
  have sameTasks : ready.tasks = (scheduled called awaitable).tasks :=
    remembers.part_eq fun _ _ => rfl
  rw [sameTasks]
  exact List.getElem?_concat_length

end Identity

end

namespace Guard

variable {guard : Guard} {call : FieldCall} {source answer : Value}
  {world called : World}

theorem identityFor_of_resolve {identity : Value}
    (resolved : runFrom (Identity.resolve call.context guard.contextKey
      guard.identityResolver call.operation) world = (.ok identity, called)) :
    runFrom (guard.identityFor call) world =
      runFrom (if identity.isPending then identity.await
        else return identity) called :=
  runFrom_bind_ok resolved

section

variable (guard)
  (goes : Identity.course world call.context guard.contextKey
    guard.identityResolver call.operation = .invoking source)

include goes

theorem identityFor_aborted {message : String}
    (aborts : runFrom (callValue source call.context) world =
      (.error (.abort message), called)) :
    runFrom (guard.identityFor call) world =
      (.error (.abort message), called) :=
  runFrom_bind_error (Identity.resolve_aborted goes aborts)

variable (answered :
  runFrom (withoutFailure (callValue source call.context)) world =
    (.ok answer, called))

include answered

theorem identityFor_settled (settled : (called.look answer).isPending = false)
    (tolerates : called.Tolerates call.context) :
    ∃ known, runFrom (guard.identityFor call) world = (.ok answer, known) ∧
      called.Remembers call.context (.memo source call.operation answer)
        known := by
  obtain ⟨known, resolved, remembers⟩ :=
    Identity.resolve_settled goes answered settled tolerates
  refine ⟨known, ?_, remembers⟩
  rw [identityFor_of_resolve resolved]
  split
  · have stillSettled := (remembers.isPending_look answer).trans settled
    exact Value.runFrom_await_settled stillSettled
  · rfl

theorem identityFor_coroutine {awaitable : Pending}
    (waits : (called.look answer).content = .pending awaitable)
    (stopped : called.loopRunning = false) :
    runFrom (guard.identityFor call) world =
      runFrom (Pending.guarded awaitable).settle called := by
  rw [identityFor_of_resolve
    (Identity.resolve_coroutine goes answered waits stopped)]
  exact Value.runFrom_await_guarded awaitable called

theorem identityFor_task {awaitable : Pending}
    (waits : (called.look answer).content = .pending awaitable)
    (running : called.loopRunning = true)
    (tolerates : called.Tolerates call.context) :
    ∃ ready, runFrom (guard.identityFor call) world =
        runFrom (Value.pending (.task called.tasks.length)).await ready ∧
      (Identity.scheduled called awaitable).Remembers call.context
        (.memo source call.operation (.pending (.task called.tasks.length)))
        ready ∧
      ready.tasks[called.tasks.length]? = some ⟨.guarded awaitable, none⟩ := by
  obtain ⟨ready, resolved, remembers⟩ :=
    Identity.resolve_task goes answered waits running tolerates
  refine ⟨ready, ?_, remembers, Identity.waits_of_scheduled remembers⟩
  rw [identityFor_of_resolve resolved]
  rfl

end

end Guard

/-- What a source yields for a context, and the world then: its answer, awaited
if it has to be.  A failure is no identity, and only an abort stops it. -/
inductive Yields (source context : Value) (world : World) :
    Except Stop Value × World → Prop where
  | atOnce {who : Value} {called known : World} :
      runFrom (withoutFailure (callValue source context)) world =
        (.ok who, called) →
      (called.look who).isPending = false →
      Yields source context world (.ok who, known)
  | awaited {answer : Value} {awaitable : Pending}
      {called between known : World} :
      runFrom (withoutFailure (callValue source context)) world =
        (.ok answer, called) →
      (called.look answer).content = .pending awaitable →
      between.objects = known.objects →
      Yields source context world
        ((runFrom (Pending.guarded awaitable).settle between).1, known)
  | aborted {message : String} {called : World} :
      runFrom (callValue source context) world =
        (.error (.abort message), called) →
      Yields source context world (.error (.abort message), called)

end RoleGuard
