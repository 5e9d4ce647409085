import RoleGuard.Proofs.Indifference
import RoleGuard.Proofs.Manners

/-!
# What a decision depends on

A guard with a resolver of its own calls it with the request, whatever the
request holds under the key for identities.  Where the resolver obtains the same
outcome for two requests without a memo, and the rule of the field does not look
at the requests, the guard decides both calls in the same way.
-/

namespace RoleGuard

/-- A moment at which an answer can be awaited that was given in a world before:
the request may have been given a memo, and the tasks that waited have ended. -/
structure World.Resumes (called : World) (request : Value) (later : World) :
    Prop where
  memoized : called.Memoized request later
  ended : ∀ (index : Nat) body result,
    called.tasks[index]? = some ⟨body, some result⟩ →
    later.tasks[index]? = some ⟨body, some result⟩
  waited : ∀ (index : Nat) body, called.tasks[index]? = some ⟨body, none⟩ →
    ∃ between : World, between.objects = later.objects ∧
      later.tasks[index]? = some ⟨body, some (runFrom body.settle between).1⟩

/-- What a resolver obtains for a request and the world in which it has been
called.  A failure is no identity.  An answer that has to be awaited is awaited
on its own or, with an event loop, as a task, which may run at any moment. -/
inductive Obtains (source request : Value) (world : World) :
    Except Stop Value → World → Prop where
  | atOnce {who : Value} {called : World} :
      runFrom (withoutFailure (callValue source request)) world =
        (.ok who, called) →
      (called.look who).isPending = false →
      Obtains source request world (.ok who) called
  | coroutine {answer : Value} {awaitable : Pending} {called : World} :
      runFrom (withoutFailure (callValue source request)) world =
        (.ok answer, called) →
      (called.look answer).content = .pending awaitable →
      called.loopRunning = false →
      Obtains source request world
        (runFrom (Pending.guarded awaitable).settle called).1 called
  | task {answer : Value} {awaitable : Pending} {called : World}
      {ending : Except Stop Value} :
      runFrom (withoutFailure (callValue source request)) world =
        (.ok answer, called) →
      (called.look answer).content = .pending awaitable →
      called.loopRunning = true →
      (∀ later, called.Resumes request later →
        (runFrom (Pending.guarded awaitable).settle later).1 = ending) →
      Obtains source request world ending called
  | aborted {message : String} {called : World} :
      runFrom (callValue source request) world =
        (.error (.abort message), called) →
      Obtains source request world (.error (.abort message)) called

/-- Two outcomes are the same: the same stop, or identities of one role. -/
def SameOutcome (called calledToo : World) :
    Except Stop Value → Except Stop Value → Prop
  | .ok who, .ok whoToo => (called.look who).SameRole (calledToo.look whoToo)
  | .error stop, .error stopToo => stop = stopToo
  | _, _ => False

namespace Guard

/-- For a call whose request has no memo for it, a guard's own resolver obtains
an outcome; the request then takes the memo or refuses it in a way that is
tolerated. -/
structure Learns (guard : Guard) (call : FieldCall) (world : World)
    (ending : Except Stop Value) (called : World) : Prop where
  bare : ∃ memo,
    (world.look call.context).read (.text memoKey) .null = .ok memo ∧
    memo.recall guard.identityResolver call.operation = none
  obtains : Obtains guard.identityResolver call.context world ending called
  tolerates : called.Tolerates call.context
  fits : (called.held call.context).FitsSlots

/-- Asked about two identities of one role, whether or not the requests have
been given memos by then, the rule of a field says the same, and the debug flag
and the message of denials are the same. -/
def EvenHanded (guard : Guard) (call other : FieldCall)
    (called calledToo : World) : Prop :=
  ∀ later laterToo who whoToo, called.Memoized call.context later →
    calledToo.Memoized other.context laterToo →
    (later.look who).SameRole (laterToo.look whoToo) →
    ∃ ending asked askedToo,
      runFrom (verdict (guard.governing called call) who) later =
        (ending, asked) ∧
      runFrom (verdict (guard.governing calledToo other) whoToo) laterToo =
        (ending, askedToo) ∧
      (askedToo.look guard.debug).truthy = (asked.look guard.debug).truthy ∧
      askedToo.refresh guard.fallbackError = asked.refresh guard.fallbackError

section

variable {guard : Guard} {call : FieldCall} {world called : World}
  {ending : Except Stop Value}

/-- A guard whose resolver is given invokes it, whatever else the request
holds. -/
theorem Learns.course_eq (learns : guard.Learns call world ending called)
    (callable : guard.identityResolver.isCallable = true) :
    Identity.course world call.context guard.contextKey guard.identityResolver
      call.operation = .invoking guard.identityResolver := by
  have asks : Identity.sourceIn world call.context guard.contextKey
      guard.identityResolver = .ok guard.identityResolver := by
    unfold Identity.sourceIn
    split
    · rename_i isNull
      rw [isNull] at callable
      cases callable
    · rfl
  obtain ⟨memo, reads, unknown⟩ := learns.bare
  rw [Identity.course_of_callable asks callable, reads]
  simp only [unknown]

theorem memoized_of_scheduled {request memo : Value} {awaitable : Pending}
    {ready : World}
    (remembers : (Identity.scheduled called awaitable).Remembers request memo
      ready) : called.Memoized request ready := by
  have sameObjects : (Identity.scheduled called awaitable).objects =
      called.objects := rfl
  exact .of_remembers sameObjects remembers

/-- The moment at which a task that has just been scheduled runs. -/
theorem resumes_scheduled {request memo : Value} {awaitable : Pending}
    {ready between : World}
    (remembers : (Identity.scheduled called awaitable).Remembers request memo
      ready)
    (advances : ready.Advances between)
    (ran : ∀ earlier < called.tasks.length, ∀ body,
      between.tasks[earlier]? ≠ some ⟨body, none⟩) :
    called.Resumes request between := by
  have sameTasks : ready.tasks = called.tasks ++ [⟨.guarded awaitable, none⟩] :=
    remembers.part_eq fun _ _ => rfl
  have before {index : Nat} {task : Task}
      (held : called.tasks[index]? = some task) :
      ready.tasks[index]? = some task := by
    have inRange := (List.getElem?_eq_some_iff.mp held).1
    rw [sameTasks, List.getElem?_append_left inRange]
    exact held
  have sameObjects : between.objects = ready.objects :=
    World.objects_of_backdrop advances.backdrop
  refine ⟨(memoized_of_scheduled remembers).of_objects sameObjects, ?_, ?_⟩
  · exact fun index body result held =>
      advances.ended index body result (before held)
  · intro index body waits
    rcases advances.waiting index body (before waits) with
      still | ⟨earlier, same, ended⟩
    · have inRange := (List.getElem?_eq_some_iff.mp waits).1
      exact absurd still (ran index inRange body)
    · have objects := World.objects_of_backdrop same
      exact ⟨earlier, objects.trans sameObjects.symm, ended⟩

/-- What a guard's own resolver obtains is the identity, and nothing but a memo
in the request is left of it. -/
theorem Learns.identityFor (learns : guard.Learns call world ending called)
    (callable : guard.identityResolver.isCallable = true) :
    ∃ known, runFrom (guard.identityFor call) world = (ending, known) ∧
      called.Memoized call.context known := by
  have goes := learns.course_eq callable
  cases learns.obtains with
  | atOnce answered settled =>
      obtain ⟨known, identified, remembers⟩ :=
        guard.identityFor_settled goes answered settled learns.tolerates
      exact ⟨known, identified, .of_remembers rfl remembers⟩
  | @coroutine answer awaitable _ answered waits stopped =>
      have kept : (runFrom (Pending.guarded awaitable).settle
          called).2.objects = called.objects :=
        Pending.keeps_settle (fun _ _ => rfl) _ called
      exact ⟨_, guard.identityFor_coroutine goes answered waits stopped,
        .bare kept⟩
  | task answered waits running settles =>
      obtain ⟨ready, identified, remembers, waiting⟩ :=
        guard.identityFor_task goes answered waits running learns.tolerates
      obtain ⟨between, known, awaits, advances, ran, same⟩ :=
        Task.runFrom_await_after waiting
      have resumes := resumes_scheduled remembers advances ran
      have memoized := memoized_of_scheduled remembers
      refine ⟨known, ?_, memoized.of_objects (World.objects_of_backdrop same)⟩
      rw [identified, awaits, settles between resumes]
  | aborted aborts =>
      exact ⟨called, guard.identityFor_aborted goes aborts, .refl called _⟩

end

/-- How a guard ends once it has the outcome of its resolver. -/
def gateOn (guard : Guard) (rule : Value) (call : FieldCall) (known : World) :
    Except Stop Value → Except Stop Unit
  | .ok who => (runFrom (guard.authorize rule who call) known).1
  | .error stop => .error stop

/-- How a guard ends once its rule has said something of an identity. -/
def gateAfter (guard : Guard) (asked : World) :
    Except Stop Bool → Except Stop Unit
  | .ok allowed => guard.gateOf asked (.ok allowed)
  | .error (.fault fault) => guard.gateOf asked (.error fault)
  | .error (.abort message) => .error (.abort message)

theorem gateAfter_congr (guard : Guard) {asked askedToo : World}
    (debugs : (askedToo.look guard.debug).truthy =
      (asked.look guard.debug).truthy)
    (messages : askedToo.refresh guard.fallbackError =
      asked.refresh guard.fallbackError) (said : Except Stop Bool) :
    guard.gateAfter askedToo said = guard.gateAfter asked said := by
  have denials : guard.denial askedToo = guard.denial asked := by
    rw [denial, denial, messages]
  unfold gateAfter gateOf
  rw [debugs, denials]

/-- What the rule says of an identity settles how the call is authorized. -/
theorem authorize_of_verdict (guard : Guard) {rule identity : Value}
    {known asked : World} {said : Except Stop Bool}
    (told : runFrom (verdict rule identity) known = (said, asked))
    (call : FieldCall) :
    (runFrom (guard.authorize rule identity call) known).1 =
      guard.gateAfter asked said := by
  have allows : guard.allows rule identity call =
      Act.tolerate (verdict rule identity) fun fault => do
        if (← Act.look guard.debug).truthy then Act.fail fault
        else
          Act.note (.ruleFailed call.type call.field fault)
          return false := rfl
  rw [authorize, runFrom_bind, allows, Act.runFrom_tolerate, told]
  cases said with
  | ok allowed =>
      cases allowed with
      | true => rfl
      | false =>
          simp only [Bool.false_eq_true, if_false,
            guard.runFrom_deny identity call asked]
          rfl
  | error stop =>
      cases stop with
      | abort message => rfl
      | fault fault =>
          simp only
          rw [runFrom_bind_ok (Act.runFrom_look guard.debug asked)]
          by_cases passes : (asked.look guard.debug).truthy = true
          · simp only [passes, if_true, Act.runFrom_fail, gateAfter, gateOf]
          · simp only [passes, Bool.false_eq_true, if_false]
            rw [runFrom_bind_ok (Act.runFrom_note _ asked)]
            simp only [runFrom_pure, Bool.false_eq_true, if_false,
              guard.runFrom_deny identity call _]
            rw [guard.denial_journal asked]
            simp only [gateAfter, gateOf, passes, Bool.false_eq_true, if_false]

theorem mediates_ending (guard : Guard) {call : FieldCall} {world : World}
    {gate : Except Stop Unit} (guarded : isIntrospection call.field = false)
    (guarding : world.GuardingTree guard.tree)
    (ends : (runFrom (guard.admission call) world).1 = gate) :
    ∃ after, guard.Mediates call world gate after := by
  subst ends
  exact ⟨_, guard.mediates_admission guarded guarding rfl⟩

end Guard

namespace Policy

variable {policy : Policy} {table resolver : Value} {call other : FieldCall}
  {world worldToo called calledToo : World}
  {ending endingToo : Except Stop Value}

/-- How a policy's guard ends that has an outcome of its resolver, when it asks
the rule that the policy has in any world. -/
theorem Sound.gate_of_outcome (sound : policy.Sound table) {known : World}
    (identified : runFrom ((policy.guard resolver).identityFor call) world =
      (ending, known)) (here : World) :
    (runFrom ((policy.guard resolver).admission call) world).1 =
      (policy.guard resolver).gateOn
        ((policy.guard resolver).governing here call) call known ending := by
  have rules : (policy.guard resolver).governing world call =
      (policy.guard resolver).governing here call := by
    rw [sound.governing_guard, sound.governing_guard,
      sound.governing_congr here world]
  rw [Guard.admission,
    runFrom_bind_ok (Guard.runFrom_ruleFor (sound.guarding world) call), rules,
    runFrom_bind, identified]
  cases ending <;> rfl

/-- A policy's guard that obtains the same outcome for two calls of one field
admits both or stops both in the same way. -/
theorem Sound.decides_alike (sound : policy.Sound table)
    (callable : resolver.isCallable = true)
    (sameField : other.field = call.field)
    (learns : (policy.guard resolver).Learns call world ending called)
    (learnsToo : (policy.guard resolver).Learns other worldToo endingToo
      calledToo)
    (same : SameOutcome called calledToo ending endingToo)
    (evenHanded : (policy.guard resolver).EvenHanded call other called
      calledToo) :
    ∃ gate after afterToo,
      (policy.guard resolver).Mediates call world gate after ∧
      (policy.guard resolver).Mediates other worldToo gate afterToo := by
  cases guarded : Guard.isIntrospection call.field with
  | true =>
      exact ⟨.ok (), world, worldToo,
        Guard.mediates_introspection _ guarded world,
        Guard.mediates_introspection _ (by rwa [sameField]) worldToo⟩
  | false =>
      obtain ⟨known, identified, memoized⟩ := learns.identityFor callable
      obtain ⟨knownToo, identifiedToo, memoizedToo⟩ :=
        learnsToo.identityFor callable
      have gate := sound.gate_of_outcome identified called
      have gateToo := sound.gate_of_outcome identifiedToo calledToo
      have sameGate :
          (runFrom ((policy.guard resolver).admission other) worldToo).1 =
            (runFrom ((policy.guard resolver).admission call) world).1 := by
        rw [gate, gateToo]
        match ending, endingToo, same with
        | .error stop, .error _, rfl => rfl
        | .ok who, .ok whoToo, sameRole =>
            have roles : (known.look who).SameRole (knownToo.look whoToo) :=
              (memoized.sameRole learns.fits who).symm.trans
                (sameRole.trans (memoizedToo.sameRole learnsToo.fits whoToo))
            obtain ⟨said, asked, askedToo, told, toldToo, debugs, messages⟩ :=
              evenHanded known knownToo who whoToo memoized memoizedToo roles
            rw [Guard.gateOn, Guard.gateOn, Guard.authorize_of_verdict _ told,
              Guard.authorize_of_verdict _ toldToo,
              Guard.gateAfter_congr _ debugs messages]
      obtain ⟨after, mediates⟩ := (policy.guard resolver).mediates_ending
        guarded (sound.guarding world) rfl
      obtain ⟨afterToo, mediatesToo⟩ := (policy.guard resolver).mediates_ending
        (by rwa [sameField]) (sound.guarding worldToo) sameGate
      exact ⟨_, after, afterToo, mediates, mediatesToo⟩

/-- A policy whose fallback rule, debug flag and message of denials refer to no
object asks its rules without looking at requests. -/
theorem Sound.evenHanded_of_closed (sound : policy.Sound table) {r : Rule}
    (fallback : policy.fallbackRule = .rule r) (closed : r.Closed)
    (debug : ∀ object, policy.debug.replaceObjects object = policy.debug)
    (message : ∀ object,
      policy.fallbackError.replaceObjects object = policy.fallbackError)
    (sameType : other.type = call.type) (sameField : other.field = call.field) :
    (policy.guard resolver).EvenHanded call other called calledToo := by
  obtain ⟨now, closedNow, governs⟩ : ∃ now : Rule, now.Closed ∧
      ∀ here, policy.governing here call.type call.field = .rule now := by
    rcases sound.rule?_eq called call.type call.field with
      ⟨_, found⟩ | ⟨names, _, found⟩
    · refine ⟨r, closed, fun here => ?_⟩
      rw [sound.governing_congr called here, governing, found, ← fallback]
      rfl
    · refine ⟨rolesRule names, closed_rolesRule names, fun here => ?_⟩
      rw [sound.governing_congr called here, governing, found]
      rfl
  intro later laterToo who whoToo _ _ sameRole
  rw [sound.governing_guard, sound.governing_guard, sameType, sameField,
    governs, governs]
  rw [runFrom_verdict_closed rfl rfl closedNow,
    runFrom_verdict_closed rfl rfl closedNow,
    Act.runFrom_ofLogged, Act.runFrom_ofLogged]
  obtain ⟨ending, events, answers⟩ :=
    (Rule.agree_evaluate sameRole now).bind fun answer => .pure answer.truthy
  rw [(answers later.journal).1, (answers laterToo.journal).2]
  refine ⟨ending.mapError .fault, later.noted events, laterToo.noted events,
    ?_, ?_, ?_, ?_⟩
  · cases ending <;> rfl
  · cases ending <;> rfl
  · exact congrArg Value.truthy ((World.look_of_closed debug _).trans
      (World.look_of_closed debug _).symm)
  · exact (message _).trans (message _).symm

end Policy

end RoleGuard
