import RoleGuard.Identity
import RoleGuard.Proofs.Memo
import RoleGuard.Proofs.Surroundings

/-!
# How the resolution of an identity goes

What a resolution does is settled by the world before it: it stops, gives the
identity itself, recalls a memo or invokes a source.  Only an invocation changes
the world, and what it gives is what is kept for later.
-/

namespace RoleGuard

/-- How a resolution goes: it stops with a fault, is given an identity that is
no source, recalls what it has kept for a source, or invokes a source. -/
inductive Course where
  | stopped (fault : Fault)
  | given (who : Value)
  | recalled (source who : Value)
  | invoking (source : Value)

theorem World.held_replace_stored {world : World} {number : Nat}
    (stored : number < world.objects.length) (carried written : Value) :
    (world.replace (.object number carried) written).held
      (.object number carried) = written := by
  simp [replace, held, List.getD_eq_getElem?_getD, stored]

/-- Replacing an object changes what its handles hold, if it is stored, and
nothing else. -/
theorem World.held_replace (world : World) (target written v : Value) :
    (world.replace target written).held v = world.held v ∨
      (world.replace target written).held v = written ∧
        world.held v = world.held target := by
  cases target with
  | object m carried =>
      cases v with
      | object n last =>
          by_cases same : m = n
          · subst same
            by_cases stored : m < world.objects.length
            · refine .inr ⟨held_replace_stored stored last written, ?_⟩
              simp [held, List.getD_eq_getElem?_getD, stored]
            · refine .inl ?_
              simp [replace, held, List.getD_eq_getElem?_getD, stored]
          · refine .inl ?_
            simp [replace, held, List.getD_eq_getElem?_getD,
              List.getElem?_set_ne same]
      | _ => exact .inl rfl
  | _ => exact .inl rfl

@[simp] theorem World.length_replace (world : World) (target v : Value) :
    (world.replace target v).objects.length = world.objects.length := by
  unfold replace
  split <;> simp

theorem World.look_replace_stored {world : World} {number : Nat}
    (stored : number < world.objects.length) (carried written : Value) :
    (world.replace (.object number carried) written).look
      (.object number carried) = .object number written :=
  congrArg (Value.object number) (held_replace_stored stored carried written)

/-- A context takes the memo or refuses it in a way that is tolerated. -/
def World.Tolerates (world : World) (context : Value) : Prop :=
  ∀ memo fault, (world.held context).write (.text memoKey) memo = .error fault →
    fault.refusesWrite = true

theorem World.Tolerates.of_objects {world other : World} {context : Value}
    (tolerates : world.Tolerates context)
    (same : other.objects = world.objects) : other.Tolerates context := by
  unfold World.Tolerates
  rw [World.held_of_objects same]
  exact tolerates

/-- The world after a context has been given a memo that it takes or refuses. -/
inductive World.Remembers (called : World) (context memo : Value) :
    World → Prop where
  | taken {written : Value} :
      (called.held context).write (.text memoKey) memo = .ok written →
      Remembers called context memo (called.replace context written)
  | refused {fault : Fault} :
      (called.held context).write (.text memoKey) memo = .error fault →
      fault.refusesWrite = true →
      Remembers called context memo called

/-- Giving a memo to a context changes nothing but objects. -/
theorem World.Remembers.part_eq {κ : Type} {part : World → κ}
    {called known : World} {context memo : Value}
    (remembers : called.Remembers context memo known)
    (writing : ∀ world objects, part { world with objects } = part world) :
    part known = part called := by
  cases remembers with
  | taken _ => exact World.part_replace writing called _ _
  | refused _ _ => rfl

namespace Identity

/-- The source of identities as things stand. -/
def sourceIn (world : World) (context key resolver : Value) :
    Except Fault Value :=
  match resolver with
  | .null => (world.look context).read key .null
  | given => .ok given

/-- How a resolution goes as things stand. -/
def course (world : World) (context key resolver : Value)
    (operation : Option String) : Course :=
  match sourceIn world context key resolver with
  | .error fault => .stopped fault
  | .ok source =>
      if source.isCallable then
        match (world.look context).read (.text memoKey) .null with
        | .error fault => .stopped fault
        | .ok memo =>
            match memo.recall source operation with
            | some who => .recalled source who
            | none => .invoking source
      else .given source

theorem course_of_callable {world : World} {context key resolver source : Value}
    (asks : sourceIn world context key resolver = .ok source)
    (callable : source.isCallable = true) (operation : Option String) :
    course world context key resolver operation =
      match (world.look context).read (.text memoKey) .null with
      | .error fault => .stopped fault
      | .ok memo =>
          match memo.recall source operation with
          | some who => .recalled source who
          | none => .invoking source := by
  rw [course, asks]
  simp only [callable, if_true]

theorem sourceIn_of_objects {world other : World}
    (same : other.objects = world.objects) (context key resolver : Value) :
    sourceIn other context key resolver =
      sourceIn world context key resolver := by
  unfold sourceIn
  rw [World.look_of_objects same]

theorem course_of_objects {world other : World}
    (same : other.objects = world.objects) (context key resolver : Value)
    (operation : Option String) :
    course other context key resolver operation =
      course world context key resolver operation := by
  unfold course
  rw [sourceIn_of_objects same, World.look_of_objects same]

/-- What is recalled was remembered for an equal source and the same
operation. -/
theorem eq_memo_of_recall {memo source who : Value} {operation : Option String}
    (recalls : memo.recall source operation = some who) :
    ∃ known, memo = .memo known operation who ∧ known.same source = true := by
  unfold Value.recall at recalls
  split at recalls
  · rename_i known done who'
    split at recalls
    · rename_i agrees
      cases recalls
      obtain ⟨same, isDone⟩ := Bool.and_eq_true_iff.mp agrees
      rw [beq_iff_eq.mp isDone]
      exact ⟨known, rfl, same⟩
    · cases recalls
  · cases recalls

theorem runFrom_read (context key default : Value) (world : World) :
    runFrom (Context.read context key default) world =
      match (world.look context).read key default with
      | .ok v => (.ok v, world)
      | .error fault => (.error (.fault fault), world) := by
  rw [Context.read, runFrom_bind_ok (Act.runFrom_look context world)]
  cases (world.look context).read key default <;> rfl

theorem runFrom_source (context key resolver : Value) (world : World) :
    runFrom (source context key resolver) world =
      match sourceIn world context key resolver with
      | .ok v => (.ok v, world)
      | .error fault => (.error (.fault fault), world) := by
  cases resolver with
  | null => exact runFrom_read context key .null world
  | _ => rfl

theorem runFrom_resolveBy (call : Value → Value → Act Value)
    (context key resolver : Value) (operation : Option String)
    (world : World) :
    runFrom (resolveBy call context key resolver operation) world =
      match course world context key resolver operation with
      | .stopped fault => (.error (.fault fault), world)
      | .given who => (.ok who, world)
      | .recalled _ who => (.ok who, world)
      | .invoking source =>
          runFrom (do
            let answer ← withoutFailure (call source context)
            keep context source operation answer) world := by
  unfold resolveBy course
  rw [runFrom_bind, runFrom_source]
  cases sourceIn world context key resolver with
  | error fault => rfl
  | ok source =>
      by_cases callable : source.isCallable = true
      · simp only [callable, if_true]
        rw [runFrom_bind, runFrom_read]
        cases (world.look context).read (.text memoKey) .null with
        | error fault => rfl
        | ok memo =>
            cases recalled : memo.recall source operation with
            | none => simp only [recalled]
            | some who => simp only [recalled, runFrom_pure]
      · simp only [callable, Bool.false_eq_true, if_false, runFrom_pure]

theorem runFrom_write (context key v : Value) (world : World) :
    runFrom (Context.write context key v) world =
      match (world.held context).write key v with
      | .ok written => (.ok (), world.replace context written)
      | .error fault => (.error (.fault fault), world) := by
  rw [Context.write, runFrom_bind_ok (runFrom_get world)]
  cases (world.held context).write key v <;> rfl

/-- A context that refuses the memo stays as it is. -/
theorem runFrom_remember (context memo : Value) (world : World) :
    runFrom (remember context memo) world =
      match (world.held context).write (.text memoKey) memo with
      | .ok written => (.ok (), world.replace context written)
      | .error fault =>
          if fault.refusesWrite then (.ok (), world)
          else (.error (.fault fault), world) := by
  rw [remember, Act.runFrom_tolerate, runFrom_write]
  cases (world.held context).write (.text memoKey) memo with
  | ok written => rfl
  | error fault =>
      by_cases refuses : fault.refusesWrite = true
      · simp only [refuses, if_true]
        rfl
      · simp only [refuses]
        rfl

theorem runFrom_rememberAs (context memo who : Value) (world : World) :
    runFrom (do remember context memo; return who) world =
      match (world.held context).write (.text memoKey) memo with
      | .ok written => (.ok who, world.replace context written)
      | .error fault =>
          if fault.refusesWrite then (.ok who, world)
          else (.error (.fault fault), world) := by
  rw [runFrom_bind, runFrom_remember]
  cases (world.held context).write (.text memoKey) memo with
  | ok written => rfl
  | error fault =>
      by_cases refuses : fault.refusesWrite = true
      · simp only [refuses, if_true, runFrom_pure]
      · simp only [refuses, Bool.false_eq_true, if_false]

theorem runFrom_rememberAs_tolerated {context : Value} {called : World}
    (tolerates : called.Tolerates context) (memo who : Value) :
    ∃ known, runFrom (do remember context memo; return who) called =
        (.ok who, known) ∧ called.Remembers context memo known := by
  rw [runFrom_rememberAs]
  cases writes : (called.held context).write (.text memoKey) memo with
  | ok written => exact ⟨_, rfl, .taken writes⟩
  | error fault =>
      have refuses := tolerates memo fault writes
      simp only [refuses, if_true]
      exact ⟨called, rfl, .refused writes refuses⟩

/-- A source that fails gives no identity, unless it aborts. -/
theorem runFrom_withoutFailure (operation : Act Value) (world : World) :
    runFrom (withoutFailure operation) world =
      match runFrom operation world with
      | (.ok answer, after) => (.ok answer, after)
      | (.error (.fault fault), after) =>
          (.ok .null,
            { after with journal := after.journal ++ [.resolverFailed fault] })
      | (.error (.abort message), after) => (.error (.abort message), after) := by
  rw [withoutFailure, Act.runFrom_tolerate]
  obtain ⟨ending, after⟩ := runFrom operation world
  cases ending with
  | ok answer => rfl
  | error stop => cases stop <;> rfl

theorem objects_withoutFailure (operation : Act Value) (world : World) :
    (runFrom (withoutFailure operation) world).2.objects =
      (runFrom operation world).2.objects := by
  rw [runFrom_withoutFailure]
  split <;> simp_all

theorem content_of_isPending {v : Value} (waits : v.isPending = true) :
    ∃ awaitable, v.content = .pending awaitable := by
  unfold Value.isPending at waits
  split at waits
  · rename_i awaitable isPending
    exact ⟨awaitable, isPending⟩
  · cases waits

/-- What a resolution gives for the answer of a source: the answer, or an
awaitable of it. -/
inductive Gives (called : World) (answer : Value) : Value → Prop where
  | answer : (called.look answer).isPending = false →
      Gives called answer answer
  | coroutine {awaitable : Pending} :
      (called.look answer).content = .pending awaitable →
      called.loopRunning = false →
      Gives called answer (.pending (.guarded awaitable))
  | task {awaitable : Pending} :
      (called.look answer).content = .pending awaitable →
      called.loopRunning = true →
      Gives called answer (.pending (.task called.tasks.length))

section

variable (context source : Value) (operation : Option String) {answer : Value}
  {called : World}

theorem runFrom_keep_answer
    (settled : (called.look answer).isPending = false) :
    runFrom (keep context source operation answer) called =
      runFrom (do
        remember context (.memo source operation answer)
        return answer) called := by
  rw [keep, runFrom_bind_ok (Act.runFrom_look answer called)]
  split
  · rename_i awaitable isPending
    simp [Value.isPending, isPending] at settled
  · rfl

theorem runFrom_keep_coroutine {awaitable : Pending}
    (waits : (called.look answer).content = .pending awaitable)
    (stopped : called.loopRunning = false) :
    runFrom (keep context source operation answer) called =
      (.ok (.pending (.guarded awaitable)), called) := by
  rw [keep, runFrom_bind_ok (Act.runFrom_look answer called), waits]
  simp only
  rw [runFrom_bind_ok (runFrom_get called), stopped]
  rfl

/-- The world in which an awaitable has been scheduled as a task. -/
def scheduled (called : World) (awaitable : Pending) : World :=
  { called with tasks := called.tasks ++ [Task.mk (.guarded awaitable) none] }

theorem runFrom_keep_task {awaitable : Pending}
    (waits : (called.look answer).content = .pending awaitable)
    (running : called.loopRunning = true) :
    runFrom (keep context source operation answer) called =
      runFrom (do
        remember context
          (.memo source operation (.pending (.task called.tasks.length)))
        return .pending (.task called.tasks.length))
        (scheduled called awaitable) := by
  rw [keep, runFrom_bind_ok (Act.runFrom_look answer called), waits]
  simp only
  rw [runFrom_bind_ok (runFrom_get called), running]
  rfl

/-- What is given for an answer is kept, unless it waits and no event loop
runs. -/
theorem runFrom_keep (answer : Value) (called : World) :
    ∃ v kept, Gives called answer v ∧ kept.objects = called.objects ∧
      (runFrom (keep context source operation answer) called =
          runFrom (do
            remember context (.memo source operation v)
            return v) kept ∨
        (called.look answer).isPending = true ∧ called.loopRunning = false ∧
          runFrom (keep context source operation answer) called =
            (.ok v, kept)) := by
  cases waits : (called.look answer).isPending with
  | true =>
      obtain ⟨awaitable, isPending⟩ := content_of_isPending waits
      cases running : called.loopRunning with
      | true =>
          exact ⟨_, scheduled called awaitable, .task isPending running, rfl,
            .inl (runFrom_keep_task context source operation isPending running)⟩
      | false =>
          exact ⟨_, called, .coroutine isPending running, rfl, .inr ⟨rfl, rfl,
            runFrom_keep_coroutine context source operation isPending running⟩⟩
  | false =>
      exact ⟨answer, called, .answer waits, rfl,
        .inl (runFrom_keep_answer context source operation waits)⟩

end

end Identity

end RoleGuard
