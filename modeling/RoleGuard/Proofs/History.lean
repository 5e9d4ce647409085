import RoleGuard.Endpoint
import RoleGuard.Proofs.Resolution

/-!
# Histories of contexts

A history is what happens to contexts, moment by moment: identities are
resolved, and contexts are cleared, prepared by a policy, served by an endpoint
and written.  `Traced` ties every memo in a context to the moment of the history
at which its identity was resolved; each step keeps it, so that whatever is
recalled was resolved for the same source, context and operation since the
context was last cleared.
-/

namespace RoleGuard

/-- Two handles of the same object, or the same value. -/
def SameContext : Value → Value → Prop
  | .object m _, .object n _ => m = n
  | v, w => v = w

theorem SameContext.refl (context : Value) : SameContext context context := by
  cases context <;> rfl

namespace Value

/-- What a handle of an object carries, the value itself unless it is one. -/
def carried : Value → Value
  | .object _ v => v
  | v => v

def MemoFree (v : Value) : Prop :=
  ∀ source operation who, .memo source operation who ∉ v.memos

theorem MemoFree.of_within {admitted : Value → Prop} {old new : Value}
    (free : old.MemoFree) (within : Within admitted old new)
    (none : ∀ source operation who, ¬ admitted (.memo source operation who)) :
    new.MemoFree := by
  intro source operation who member
  rcases List.mem_append.mp member with fixed | own
  · exact free source operation who
      (List.mem_append_left _ (within.fixed fixed))
  · rcases within.own _ own with held | new
    · exact free source operation who (List.mem_append_right _ held)
    · exact none source operation who new

end Value

namespace World

theorem mem_memos_look {world : World} {context m : Value}
    (member : m ∈ (world.look context).memos) :
    m ∈ (world.held context).memos := by
  cases context with
  | object number last =>
      rcases List.mem_append.mp member with held | none
      · exact held
      · cases none
  | _ => exact member

theorem held_replace_other {target context : Value}
    (other : ¬ SameContext target context) (world : World) (written : Value) :
    (world.replace target written).held context = world.held context := by
  cases target with
  | object m _ =>
      cases context with
      | object n last =>
          have different : m ≠ n := other
          simp [replace, held, List.getD_eq_getElem?_getD,
            List.getElem?_set_ne different]
      | _ => rfl
  | _ => rfl

/-- A context that is replaced holds what it is given, unless the store does not
have it. -/
theorem held_replace_same {target context : Value}
    (same : SameContext target context) (world : World) (written : Value) :
    ((world.replace target written).held context = written ∧
        world.held context = world.held target) ∨
      (world.replace target written).held context = context.carried := by
  cases target with
  | object m last =>
      cases context with
      | object n last' =>
          cases (same : m = n)
          by_cases stored : m < world.objects.length
          · refine .inl ⟨?_, ?_⟩
            · simp [replace, held, List.getD_eq_getElem?_getD, stored]
            · simp [held, List.getD_eq_getElem?_getD, stored]
          · refine .inr ?_
            simp [replace, held, Value.carried, List.getD_eq_getElem?_getD,
              stored]
      | _ => cases same
  | _ =>
      cases context with
      | object n last' => cases same
      | _ => exact .inr rfl

end World

/-- What happens to contexts.  Between the resolutions of identities, contexts
are cleared, prepared by a policy, served by an endpoint and written, and
awaitables are awaited. -/
inductive Step where
  | resolve (context key resolver : Value) (operation : Option String)
  | clear (context : Value)
  | apply (policy : Policy) (context : Value)
  | serve (endpoint : Endpoint) (request : Value)
  | write (context key v : Value)
  | await (v : Value)

namespace Step

/-- Does what the step says; sources are called by `call`. -/
def run (call : Value → Value → Act Value) : Step → Act Value
  | .resolve context key resolver operation =>
      Identity.resolveBy call context key resolver operation
  | .clear context => do
      Context.forget context
      return .null
  | .apply policy context => policy.applyContext context
  | .serve endpoint request => endpoint.context request
  | .write context key v => do
      Context.write context key v
      return .null
  | .await v => v.await

/-- Whether a step clears a context: it forgets the memo before a new
request. -/
def Clears (context : Value) : Step → Prop
  | .clear target | .apply _ target | .serve _ target =>
      SameContext target context
  | _ => False

/-- What steps may do: policies publish a source, and nothing but the library
writes under the key of the memo. -/
def Admissible : Step → Prop
  | .apply policy _ => policy.getUser.isCallable = true
  | .write _ key _ => key.OtherKey
  | _ => True

end Step

/-- A moment of a history: a step, the worlds before and after it, and how it
ended. -/
structure Moment where
  step : Step
  before : World
  outcome : Except Stop Value
  after : World

def Step.moment (call : Value → Value → Act Value) (world : World)
    (step : Step) : Moment where
  step := step
  before := world
  outcome := (runFrom (step.run call) world).1
  after := (runFrom (step.run call) world).2

/-- The moments of steps that follow one another. -/
def history (call : Value → Value → Act Value) :
    World → List Step → List Moment
  | _, [] => []
  | world, step :: steps =>
      step.moment call world ::
        history call (step.moment call world).after steps

/-- A moment at which a source is invoked for a context and an operation, and
the identity that is given for its answer. -/
def Moment.Invoked (call : Value → Value → Act Value) (moment : Moment)
    (context source : Value) (operation : Option String) (who : Value) :
    Prop :=
  ∃ target key resolver answer called,
    moment.step = .resolve target key resolver operation ∧
    SameContext target context ∧
    Identity.course moment.before target key resolver operation =
      .invoking source ∧
    runFrom (withoutFailure (call source target)) moment.before =
      (.ok answer, called) ∧
    Identity.Gives called answer who ∧
    moment.outcome = .ok who

/-- A world in which no context gives anything under the key of the memo that
it did not give before. -/
def World.AddsNoMemo (before after : World) : Prop :=
  ∀ context,
    Value.Within (fun _ => False) (before.held context) (after.held context)

/-- A moment at which the source that is invoked leaves the memos of all
contexts alone. -/
def Moment.SparesMemos (call : Value → Value → Act Value) (moment : Moment) :
    Prop :=
  ∀ context key resolver operation source,
    moment.step = .resolve context key resolver operation →
    Identity.course moment.before context key resolver operation =
      .invoking source →
    moment.before.AddsNoMemo (runFrom (call source context) moment.before).2

/-- The identity was resolved at a moment of the past, and the context has not
been cleared since. -/
def Origin (call : Value → Value → Act Value) (past : List Moment)
    (context source : Value) (operation : Option String) (who : Value) :
    Prop :=
  ∃ earlier origin since,
    past = earlier ++ origin :: since ∧
    origin.Invoked call context source operation who ∧
    ∀ moment ∈ since, ¬ moment.step.Clears context

/-- Every memo of a context has its origin in the past. -/
structure Traced (call : Value → Value → Act Value) (past : List Moment)
    (world : World) (context : Value) : Prop where
  fixed : ∀ source operation who,
    .memo source operation who ∉ (world.held context).fixedMemos
  own : ∀ source operation who,
    .memo source operation who ∈ (world.held context).ownMemos →
      Origin call past context source operation who

section

variable {call : Value → Value → Act Value} {past : List Moment}
  {context : Value}

theorem Origin.extend {source who : Value} {operation : Option String}
    {moment : Moment}
    (origin : Origin call past context source operation who)
    (uncleared : ¬ moment.step.Clears context) :
    Origin call (past ++ [moment]) context source operation who := by
  obtain ⟨earlier, first, since, rfl, invoked, spared⟩ := origin
  refine ⟨earlier, first, since ++ [moment], by simp, invoked, ?_⟩
  intro later member
  rcases List.mem_append.mp member with old | new
  · exact spared later old
  · rw [List.mem_singleton.mp new]
    exact uncleared

theorem Traced.of_memoFree {world : World}
    (free : (world.held context).MemoFree) :
    Traced call past world context where
  fixed source operation who member :=
    free source operation who (List.mem_append_left _ member)
  own source operation who member :=
    absurd (List.mem_append_right _ member) (free source operation who)

/-- A moment at which the context gets no memo but one invoked then keeps every
memo traced. -/
theorem Traced.extend {moment : Moment} {admitted : Value → Prop}
    (traced : Traced call past moment.before context)
    (within : Value.Within admitted (moment.before.held context)
      (moment.after.held context))
    (uncleared : ¬ moment.step.Clears context)
    (fresh : ∀ source operation who, admitted (.memo source operation who) →
      moment.Invoked call context source operation who) :
    Traced call (past ++ [moment]) moment.after context where
  fixed source operation who member :=
    traced.fixed source operation who (within.fixed member)
  own source operation who member := by
    rcases within.own _ member with held | new
    · exact (traced.own source operation who held).extend uncleared
    · exact ⟨past, moment, [], rfl, fresh source operation who new,
        fun later member => nomatch member⟩

theorem World.AddsNoMemo.of_objects {before after other : World}
    (spared : before.AddsNoMemo after)
    (same : other.objects = after.objects) : before.AddsNoMemo other := by
  intro context
  rw [World.held_of_objects same]
  exact spared context

theorem Traced.spared {moment : Moment}
    (traced : Traced call past moment.before context)
    (uncleared : ¬ moment.step.Clears context)
    (spared : moment.before.AddsNoMemo moment.after) :
    Traced call (past ++ [moment]) moment.after context :=
  traced.extend (spared context) uncleared fun _ _ _ none => none.elim

/-- What a resolution returns that invokes a source was invoked then. -/
theorem Moment.invoked_of_course {world : World}
    {target key resolver source who : Value} {operation : Option String}
    (goes : Identity.course world target key resolver operation =
      .invoking source)
    (returns : ((Step.resolve target key resolver operation).moment call
      world).outcome = .ok who)
    (same : SameContext target context) :
    ((Step.resolve target key resolver operation).moment call world).Invoked
      call context source operation who := by
  have returned := returns
  change (runFrom (Identity.resolveBy call target key resolver operation)
    world).1 = _ at returned
  rw [Identity.runFrom_resolveBy, goes] at returned
  simp only at returned
  rw [runFrom_bind] at returned
  cases answered : runFrom (withoutFailure (call source target)) world with
  | mk ending called =>
      rw [answered] at returned
      cases ending with
      | error stop => cases returned
      | ok answer =>
          obtain ⟨given, kept, gives, _, keeps⟩ :=
            Identity.runFrom_keep target source operation answer called
          have isGiven : given = who := by
            simp only at returned
            rcases keeps with remembers | ⟨_, _, dropped⟩
            · rw [remembers, Identity.runFrom_rememberAs] at returned
              split at returned
              · cases returned
                rfl
              · split at returned
                · cases returned
                  rfl
                · cases returned
            · rw [dropped] at returned
              cases returned
              rfl
          subst isGiven
          exact ⟨target, key, resolver, answer, called, rfl, same, goes,
            answered, gives, returns⟩

theorem World.AddsNoMemo.refl (world : World) : world.AddsNoMemo world :=
  fun _ => .refl _ _

/-- Writing into a world that has gained no memo keeps every memo traced, if
what is written under the memo's key, if anything, was invoked at this very
moment. -/
theorem Traced.written {moment : Moment} {target key v written : Value}
    {kept : World} (free : context.carried.MemoFree)
    (traced : Traced call past moment.before context)
    (uncleared : ¬ moment.step.Clears context)
    (spared : moment.before.AddsNoMemo kept)
    (writes : (kept.held target).write key v = .ok written)
    (replaced : kept.replace target written = moment.after)
    (fresh : SameContext target context → ¬ key.OtherKey →
      ∀ source operation who, v = .memo source operation who →
        moment.Invoked call context source operation who) :
    Traced call (past ++ [moment]) moment.after context := by
  by_cases same : SameContext target context
  · rcases World.held_replace_same same kept written with
      ⟨held, sameHeld⟩ | unstored
    · have within : Value.Within (fun m => m = v ∧ ¬ key.OtherKey)
          (moment.before.held context) (moment.after.held context) := by
        rw [← replaced, held]
        apply (spared context |>.mono fun _ none => none.elim).trans
        rw [sameHeld]
        exact Value.write_memos writes
      apply traced.extend within uncleared
      rintro source operation who ⟨isWritten, notOther⟩
      exact fresh same notOther source operation who isWritten.symm
    · apply Traced.of_memoFree
      rw [← replaced, unstored]
      exact free
  · have within := spared context
    rw [← World.held_replace_other same kept written, replaced] at within
    exact traced.extend within uncleared fun _ _ _ none => none.elim

theorem Traced.remember {moment : Moment} {target source who : Value}
    {operation : Option String} {kept : World}
    (free : context.carried.MemoFree)
    (traced : Traced call past moment.before context)
    (uncleared : ¬ moment.step.Clears context)
    (spared : moment.before.AddsNoMemo kept)
    (remembered : runFrom (do
        Identity.remember target (.memo source operation who)
        return who) kept = (moment.outcome, moment.after))
    (invoked : SameContext target context → moment.outcome = .ok who →
      moment.Invoked call context source operation who) :
    Traced call (past ++ [moment]) moment.after context := by
  rw [Identity.runFrom_rememberAs] at remembered
  cases writes : (kept.held target).write (.text memoKey)
      (.memo source operation who) with
  | error fault =>
      rw [writes] at remembered
      have unwritten : moment.after = kept := by
        by_cases refuses : fault.refusesWrite = true
        · simp only [refuses, if_true] at remembered
          exact (Prod.mk.inj remembered).2.symm
        · simp only [refuses] at remembered
          exact (Prod.mk.inj remembered).2.symm
      apply traced.spared uncleared
      rw [unwritten]
      exact spared
  | ok written =>
      rw [writes] at remembered
      obtain ⟨returned, replaced⟩ := Prod.mk.inj remembered
      apply traced.written free uncleared spared writes replaced
      intro same _ source' operation' who' isMemo
      cases isMemo
      exact invoked same returned.symm

theorem Traced.resolve {world : World} {target key resolver : Value}
    {operation : Option String} (free : context.carried.MemoFree)
    (traced : Traced call past world context)
    (spares : ((Step.resolve target key resolver operation).moment call
      world).SparesMemos call) :
    Traced call
      (past ++ [(Step.resolve target key resolver operation).moment call world])
      ((Step.resolve target key resolver operation).moment call world).after
      context := by
  let moment := (Step.resolve target key resolver operation).moment call world
  have uncleared : ¬ moment.step.Clears context := id
  have ended : runFrom (Identity.resolveBy call target key resolver operation)
      world = (moment.outcome, moment.after) := rfl
  rw [Identity.runFrom_resolveBy] at ended
  cases goes : Identity.course world target key resolver operation with
  | invoking source =>
      rw [goes] at ended
      have spared : world.AddsNoMemo
          (runFrom (withoutFailure (call source target)) world).2 :=
        (spares target key resolver operation source rfl goes).of_objects
          (Identity.objects_withoutFailure _ world)
      simp only at ended
      rw [runFrom_bind] at ended
      cases answered : runFrom (withoutFailure (call source target)) world with
      | mk ending called =>
          rw [answered] at ended spared
          cases ending with
          | error stop =>
              have unchanged := (Prod.mk.inj ended).2
              exact Traced.spared traced uncleared (unchanged ▸ spared)
          | ok answer =>
              obtain ⟨who, kept, _, sameObjects, remembers | ⟨_, _, dropped⟩⟩ :=
                Identity.runFrom_keep target source operation answer called
              · apply Traced.remember free traced uncleared
                  (spared.of_objects sameObjects) (remembers.symm.trans ended)
                exact fun same returns =>
                  Moment.invoked_of_course goes returns same
              · have unchanged := (Prod.mk.inj (dropped.symm.trans ended)).2
                apply Traced.spared traced uncleared
                exact unchanged ▸ spared.of_objects sameObjects
  | _ =>
      rw [goes] at ended
      have unchanged := (Prod.mk.inj ended).2
      exact Traced.spared traced uncleared (unchanged ▸ .refl world)

end

/-- Forgetting never fails, and leaves no memo that can be written. -/
theorem Context.runFrom_forget (context : Value) (world : World) :
    ∃ forgotten, runFrom (Context.forget context) world =
        (.ok (), world.replace context forgotten) ∧
      forgotten.fixedMemos = (world.held context).fixedMemos ∧
      forgotten.ownMemos = [] := by
  obtain ⟨forgotten, forgets, fixed, own⟩ :=
    (world.held context).forgetMemo_memos
  refine ⟨forgotten, ?_, fixed, own⟩
  rw [Context.forget, runFrom_bind_ok (runFrom_get world), forgets]
  rfl

/-- The context that a policy prepares, made if there is none. -/
def Policy.prepared (world : World) : Value → Value × World
  | .null => world.share (.map [])
  | given => (given, world)

/-- What preparing a context does once it is cleared. -/
def Policy.publish (policy : Policy) (target : Value) : Act Value := do
  for (key, v) in ← Act.ofExcept policy.contextEntries do
    Context.write target key v
  return target

theorem Policy.publish_eq {policy : Policy}
    (hashable : Value.checkHashable policy.contextKey = .ok ())
    (target : Value) :
    policy.publish target = (do
      Context.write target policy.contextKey policy.getUser
      return target) := by
  unfold publish contextEntries
  rw [hashable]
  change (do
      forIn [(policy.contextKey, policy.getUser)] PUnit.unit
        fun (entry : Value × Value) _ => do
          Context.write target entry.1 entry.2
          return .yield PUnit.unit
      return target) = _
  simp only [List.forIn_cons, List.forIn_nil, bind_assoc, pure_bind]

/-- Publishing writes the source into the context, or leaves it as it is. -/
theorem Policy.runFrom_publish (policy : Policy) (target : Value)
    (world : World) :
    (runFrom (policy.publish target) world).2 = world ∨
      ∃ written,
        (world.held target).write policy.contextKey policy.getUser =
          .ok written ∧
        (runFrom (policy.publish target) world).2 =
          world.replace target written := by
  cases hashable : Value.checkHashable policy.contextKey with
  | error fault =>
      refine .inl ?_
      unfold publish contextEntries
      rw [hashable]
      rfl
  | ok _ =>
      rw [publish_eq hashable, runFrom_bind, Identity.runFrom_write]
      cases (world.held target).write policy.contextKey policy.getUser with
      | error fault => exact .inl rfl
      | ok written => exact .inr ⟨written, rfl, rfl⟩

theorem Policy.applyContext_prepared (policy : Policy)
    {context target : Value} {world ready : World}
    (prepares : prepared world context = (target, ready)) :
    runFrom (policy.applyContext context) world =
      runFrom (do
        Context.forget target
        policy.publish target) ready := by
  cases context with
  | null =>
      cases prepares
      rfl
  | _ =>
      cases prepares
      rfl

/-- Preparing a context clears it and then at most publishes the source. -/
theorem Policy.runFrom_applyContext (policy : Policy) {context target : Value}
    {world ready : World}
    (prepares : prepared world context = (target, ready)) :
    ∃ forgotten,
      forgotten.fixedMemos = (ready.held target).fixedMemos ∧
      forgotten.ownMemos = [] ∧
      ((runFrom (policy.applyContext context) world).2 =
          ready.replace target forgotten ∨
        ∃ written,
          ((ready.replace target forgotten).held target).write
            policy.contextKey policy.getUser = .ok written ∧
          (runFrom (policy.applyContext context) world).2 =
            (ready.replace target forgotten).replace target written) := by
  obtain ⟨forgotten, forgets, fixed, own⟩ :=
    Context.runFrom_forget target ready
  refine ⟨forgotten, fixed, own, ?_⟩
  rw [policy.applyContext_prepared prepares, runFrom_bind_ok forgets]
  exact policy.runFrom_publish target _

section

variable {call : Value → Value → Act Value} {past : List Moment}
  {context : Value}

theorem memoFree_of_forgotten {world : World} {target forgotten : Value}
    (free : context.carried.MemoFree)
    (fixedFree : ∀ source operation who,
      .memo source operation who ∉ (world.held context).fixedMemos)
    (same : SameContext target context)
    (fixed : forgotten.fixedMemos = (world.held target).fixedMemos)
    (own : forgotten.ownMemos = []) :
    ((world.replace target forgotten).held context).MemoFree := by
  rcases World.held_replace_same same world forgotten with
    ⟨held, sameHeld⟩ | unstored
  · intro source operation who member
    rw [held, Value.memos, own, List.append_nil, fixed, ← sameHeld] at member
    exact fixedFree source operation who member
  · rw [unstored]
    exact free

/-- Writing what is not a memo leaves a context without memos without them. -/
theorem memoFree_of_written {world : World} {target key v written : Value}
    (free : context.carried.MemoFree)
    (heldFree : (world.held context).MemoFree)
    (writes : (world.held target).write key v = .ok written)
    (notMemo : ∀ source operation who, v ≠ .memo source operation who) :
    ((world.replace target written).held context).MemoFree := by
  by_cases same : SameContext target context
  · rcases World.held_replace_same same world written with
      ⟨held, sameHeld⟩ | unstored
    · rw [held]
      rw [sameHeld] at heldFree
      apply heldFree.of_within (Value.write_memos writes)
      exact fun _ _ _ new => notMemo _ _ _ new.1.symm
    · rw [unstored]
      exact free
  · rw [World.held_replace_other same]
    exact heldFree

theorem Traced.unchanged {moment : Moment}
    (traced : Traced call past moment.before context)
    (uncleared : ¬ moment.step.Clears context)
    (same : moment.after.held context = moment.before.held context) :
    Traced call (past ++ [moment]) moment.after context := by
  have within : Value.Within (fun _ => False) (moment.before.held context)
      (moment.after.held context) := by
    rw [same]
    exact .refl _ _
  exact traced.extend within uncleared fun _ _ _ none => none.elim

theorem Traced.forget {moment : Moment} (target : Value) {v : Value}
    (free : context.carried.MemoFree)
    (traced : Traced call past moment.before context)
    (clears : moment.step.Clears context → SameContext target context)
    (forgets : moment.after = (runFrom (do
      Context.forget target
      return v) moment.before).2) :
    Traced call (past ++ [moment]) moment.after context := by
  obtain ⟨forgotten, ended, fixed, own⟩ :=
    Context.runFrom_forget target moment.before
  rw [runFrom_bind_ok ended] at forgets
  by_cases same : SameContext target context
  · apply Traced.of_memoFree
    rw [forgets]
    exact memoFree_of_forgotten free traced.fixed same fixed own
  · apply traced.unchanged fun cleared => same (clears cleared)
    rw [forgets]
    exact World.held_replace_other same _ _

/-- Preparing makes at most a new context, which gives no memo. -/
theorem held_prepared {world ready : World} {given target : Value}
    (prepares : Policy.prepared world given = (target, ready))
    (context : Value) :
    ready.held context = world.held context ∨
      SameContext target context ∧ (ready.held context).MemoFree := by
  cases given with
  | null =>
      cases prepares
      cases context with
      | object number last =>
          by_cases stored : number < world.objects.length
          · refine .inl ?_
            simp [World.held, List.getD_eq_getElem?_getD,
              List.getElem?_append_left stored]
          · by_cases isNew : world.objects.length = number
            · refine .inr ⟨isNew, ?_⟩
              subst isNew
              intro source operation who member
              simp [World.held, List.getD_eq_getElem?_getD, Value.memos,
                Value.fixedMemos, Value.ownMemos, Value.memoEntries] at member
            · refine .inl ?_
              have before : world.objects.length ≤ number := by omega
              have beyond : (world.objects ++ [Value.map []]).length ≤
                  number := by
                rw [List.length_append, List.length_singleton]
                omega
              change (world.objects ++ [Value.map []]).getD number last =
                world.objects.getD number last
              rw [List.getD_eq_getElem?_getD, List.getD_eq_getElem?_getD,
                List.getElem?_eq_none beyond, List.getElem?_eq_none before]
      | _ => exact .inl rfl
  | _ =>
      cases prepares
      exact .inl rfl

theorem Policy.held_applied_other {world ready : World} {policy : Policy}
    {given target : Value} (other : ¬ SameContext target context)
    (prepares : prepared world given = (target, ready)) :
    (runFrom (policy.applyContext given) world).2.held context =
      ready.held context := by
  obtain ⟨forgotten, _, _, ended⟩ := policy.runFrom_applyContext prepares
  rcases ended with ended | ⟨written, _, ended⟩
  · rw [ended, World.held_replace_other other]
  · rw [ended, World.held_replace_other other, World.held_replace_other other]

theorem Policy.memoFree_applied {world ready : World} {policy : Policy}
    {given target : Value} (free : context.carried.MemoFree)
    (fixedFree : ∀ source operation who,
      .memo source operation who ∉ (ready.held context).fixedMemos)
    (callable : policy.getUser.isCallable = true)
    (same : SameContext target context)
    (prepares : prepared world given = (target, ready)) :
    ((runFrom (policy.applyContext given) world).2.held context).MemoFree := by
  obtain ⟨forgotten, fixed, own, ended⟩ := policy.runFrom_applyContext prepares
  have cleared := memoFree_of_forgotten free fixedFree same fixed own
  rcases ended with ended | ⟨written, writes, ended⟩
  · rw [ended]
    exact cleared
  · rw [ended]
    apply memoFree_of_written free cleared writes
    intro source operation who isMemo
    rw [isMemo] at callable
    cases callable

theorem Traced.apply {world : World} {policy : Policy} {given : Value}
    (free : context.carried.MemoFree)
    (callable : policy.getUser.isCallable = true)
    (traced : Traced call past world context) :
    Traced call (past ++ [(Step.apply policy given).moment call world])
      ((Step.apply policy given).moment call world).after context := by
  -- a policy that is given no context makes one, so `null` is never cleared
  by_cases present : context = .null
  · subst present
    exact Traced.of_memoFree fun _ _ _ member => nomatch member
  cases prepares : Policy.prepared world given with
  | mk target ready =>
      have readied := held_prepared prepares context
      by_cases same : SameContext target context
      · have fixedFree (source : Value) (operation : Option String)
            (who : Value) : .memo source operation who ∉
              (ready.held context).fixedMemos := by
          rcases readied with unchanged | ⟨_, readyFree⟩
          · rw [unchanged]
            exact traced.fixed source operation who
          · exact fun member => readyFree source operation who
              (List.mem_append_left _ member)
        apply Traced.of_memoFree
        exact Policy.memoFree_applied free fixedFree callable same prepares
      · have uncleared : ¬ (Step.apply policy given).Clears context := by
          intro clears
          cases given with
          | null => exact present clears.symm
          | _ =>
              cases prepares
              exact same clears
        apply Traced.unchanged traced uncleared
        rcases readied with unchanged | ⟨same', _⟩
        · exact (Policy.held_applied_other same prepares).trans unchanged
        · exact absurd same' same

theorem Traced.write {world : World} {target key v : Value}
    (free : context.carried.MemoFree) (other : key.OtherKey)
    (traced : Traced call past world context) :
    Traced call (past ++ [(Step.write target key v).moment call world])
      ((Step.write target key v).moment call world).after context := by
  let moment := (Step.write target key v).moment call world
  have uncleared : ¬ moment.step.Clears context := id
  have ended : runFrom (do
      Context.write target key v
      return .null) world = (moment.outcome, moment.after) := rfl
  rw [runFrom_bind, Identity.runFrom_write] at ended
  cases writes : (world.held target).write key v with
  | error fault =>
      rw [writes] at ended
      have unchanged := (Prod.mk.inj ended).2
      apply Traced.spared traced uncleared
      exact unchanged ▸ .refl world
  | ok written =>
      rw [writes] at ended
      have replaced := (Prod.mk.inj ended).2
      apply Traced.written free traced uncleared (.refl world) writes replaced
      exact fun _ notOther => absurd other notOther

/-- Whatever a step does, every memo of the context stays traced. -/
theorem Traced.step {world : World} {step : Step}
    (free : context.carried.MemoFree) (admissible : step.Admissible)
    (spares : (step.moment call world).SparesMemos call)
    (traced : Traced call past world context) :
    Traced call (past ++ [step.moment call world])
      (step.moment call world).after context := by
  cases step with
  | resolve target key resolver operation =>
      exact Traced.resolve free traced spares
  | clear target => exact Traced.forget target free traced id rfl
  | apply policy given => exact Traced.apply free admissible traced
  | serve endpoint request => exact Traced.forget request free traced id rfl
  | write target key v => exact Traced.write free admissible traced
  | await v =>
      apply Traced.unchanged traced id
      exact World.held_of_objects (v.keeps_await still_objects world) context

/-- Through a whole history, every memo of the context stays traced. -/
theorem traced_history {steps : List Step} {world : World}
    {before future : List Moment} {moment : Moment}
    (free : context.carried.MemoFree)
    (admissible : ∀ step ∈ steps, step.Admissible)
    (spares : ∀ moment ∈ history call world steps, moment.SparesMemos call)
    (traced : Traced call past world context)
    (splits : history call world steps = before ++ moment :: future) :
    Traced call (past ++ before) moment.before context ∧
      ∃ step ∈ steps, moment = step.moment call moment.before := by
  -- the past grows by one moment a step; `Traced.step` carries the invariant
  induction steps generalizing past world before with
  | nil => simp [history] at splits
  | cons step steps ih =>
      rw [history] at splits
      cases before with
      | nil =>
          rw [List.nil_append] at splits
          obtain ⟨first, _⟩ := List.cons.inj splits
          subst first
          rw [List.append_nil]
          exact ⟨traced, step, List.mem_cons_self, rfl⟩
      | cons first before =>
          rw [List.cons_append] at splits
          obtain ⟨isFirst, rest⟩ := List.cons.inj splits
          have stepped := traced.step free
            (admissible step List.mem_cons_self)
            (spares _ (by rw [history]; exact List.mem_cons_self))
          obtain ⟨later, step', member, isMoment⟩ := ih
            (fun step' member => admissible step' (List.mem_cons_of_mem _ member))
            (fun moment member => spares moment (by
              rw [history]
              exact List.mem_cons_of_mem _ member))
            stepped rest
          rw [isFirst, List.append_assoc] at later
          exact ⟨later, step', List.mem_cons_of_mem _ member, isMoment⟩

/-- Whatever is resolved for a source was invoked for an equal source, the same
context and the same operation since the context was last cleared. -/
theorem resolved_since_cleared {steps : List Step} {world : World}
    {future : List Moment} {moment : Moment} {key resolver source who : Value}
    {operation : Option String} (free : context.carried.MemoFree)
    (unremembered : (world.held context).MemoFree)
    (admissible : ∀ step ∈ steps, step.Admissible)
    (spares : ∀ moment ∈ history call world steps, moment.SparesMemos call)
    (splits : history call world steps = past ++ moment :: future)
    (resolves : moment.step = .resolve context key resolver operation)
    (asks : Identity.sourceIn moment.before context key resolver = .ok source)
    (callable : source.isCallable = true)
    (returns : moment.outcome = .ok who) :
    ∃ earlier origin since invoked,
      past ++ [moment] = earlier ++ origin :: since ∧
      origin.Invoked call context invoked operation who ∧
      (invoked = source ∨ invoked.same source = true) ∧
      ∀ later ∈ since, ¬ later.step.Clears context := by
  have initially : Traced call [] world context := .of_memoFree unremembered
  obtain ⟨traced, step, _, isMoment⟩ :=
    traced_history free admissible spares initially splits
  have isStep : step = .resolve context key resolver operation := by
    rw [← resolves, isMoment]
    rfl
  subst isStep
  have uncleared : ¬ moment.step.Clears context := by
    rw [resolves]
    exact id
  have ended : .ok who =
      (runFrom (Identity.resolveBy call context key resolver operation)
        moment.before).1 := by
    rw [← returns, isMoment]
    rfl
  have goes := Identity.course_of_callable asks callable operation
  rw [Identity.runFrom_resolveBy] at ended
  cases remembered :
      (moment.before.look context).read (.text memoKey) .null with
  | error fault =>
      simp only [goes, remembered] at ended
      cases ended
  | ok memo =>
      -- without a memo the moment itself is the origin; otherwise the memo has
      -- one, being traced
      cases recalls : memo.recall source operation with
      | none =>
          simp only [remembered, recalls] at goes
          have invoked : moment.Invoked call context source operation who := by
            rw [isMoment] at returns ⊢
            exact Moment.invoked_of_course goes returns (.refl context)
          exact ⟨past, moment, [], source, rfl, invoked, .inl rfl,
            fun later member => nomatch member⟩
      | some who' =>
          simp only [goes, remembered, recalls] at ended
          cases ended
          obtain ⟨known, rfl, same⟩ := Identity.eq_memo_of_recall recalls
          have member := World.mem_memos_look (Value.mem_memos_of_read remembered)
          rcases List.mem_append.mp member with fixed | own
          · exact absurd fixed (traced.fixed known operation who)
          · have origin := (traced.own known operation who own).extend uncleared
            obtain ⟨earlier, first, since, splits', invoked, spared⟩ := origin
            exact ⟨earlier, first, since, known, splits', invoked, .inr same,
              spared⟩

end

/-- A context that holds a resolver, its identity resolved twice for one
operation with a write in between. -/
def sampleSteps : List Step :=
  let context := Value.object 0 (.map [])
  let resolve := Step.resolve context (.text "user") .null (some "query")
  [resolve, .write context (.text "locale") (.text "en"), resolve]

def sampleWorld : World :=
  { World.initial .bare false with
    objects := [.map [(.text "user", .resolver 0 none)]]
    resolvers :=
      [⟨"who", false, [.value (.text "first"), .value (.text "second")], 0⟩] }

theorem sampleSteps_since_cleared :
    ∃ past moment,
      history callValue sampleWorld sampleSteps = past ++ [moment] ∧
      moment.outcome = .ok (.text "first") ∧
      ∃ earlier origin since invoked,
        past ++ [moment] = earlier ++ origin :: since ∧
        origin.Invoked callValue (.object 0 (.map [])) invoked (some "query")
          (.text "first") ∧
        (invoked = .resolver 0 none ∨
          invoked.same (.resolver 0 none) = true) ∧
        ∀ later ∈ since, ¬ later.step.Clears (.object 0 (.map [])) := by
  let moments := history callValue sampleWorld sampleSteps
  have admissible : ∀ step ∈ sampleSteps, step.Admissible := by
    intro step member
    simp only [sampleSteps, List.mem_cons, List.not_mem_nil, or_false] at member
    rcases member with rfl | rfl | rfl
    · trivial
    · exact Value.otherKey_text (by decide)
    · trivial
  have spares : ∀ moment ∈ moments, moment.SparesMemos callValue := by
    intro moment member context key resolver operation source isStep goes
    simp only [moments, sampleSteps, history, List.mem_cons, List.not_mem_nil,
      or_false] at member
    rcases member with rfl | rfl | rfl
    · cases isStep
      cases goes
      exact (World.AddsNoMemo.refl _).of_objects
        (objects_callValue_resolver 0 none _ _)
    · cases isStep
    · cases isStep
      cases goes
  refine ⟨moments.take 2, moments[2], rfl, rfl, ?_⟩
  apply resolved_since_cleared
  · exact fun _ _ _ member => nomatch member
  · intro source operation who member
    have none : (sampleWorld.held (.object 0 (.map []))).memos = [] := rfl
    rw [none] at member
    cases member
  · exact admissible
  · exact spares
  · rfl
  · rfl
  · rfl
  · rfl
  · rfl

end RoleGuard
