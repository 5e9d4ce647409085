import RoleGuard.Proofs.Outcomes

/-!
# Whole operations

The fields of an operation take turns in any order, and yet come to what each of
them would come to by itself, for the one identity that the first of them has
resolved.  `Policy.operates` says this, and how often the resolver is called.
-/

namespace RoleGuard

/-- Whether a field is guarded. -/
def Selection.isGuarded (selection : Selection) : Bool :=
  !Guard.isIntrospection selection.call.field

/-- Whether a field will have its identity resolved when it starts. -/
def awaitsStart (field : Selection × Standing) : Bool :=
  field.1.isGuarded && field.2.isUnstarted

/-- How often the resolver has been called when so many guarded fields have
started. -/
def invocations (takes : Bool) (started : Nat) : Nat :=
  if takes then min 1 started else started

/-- The fields of one operation on one context that takes the memo or refuses
it, and how each of them is resolved. -/
structure Guard.Operates (guard : Guard) (world : World)
    (context source : Value) (operation : Option String) (index : Nat)
    (resolver : Resolver) (takes : Bool) (selections : List Selection)
    (ending : Selection → Except Stop Value) : Prop where
  shares : guard.Shares world context source index resolver
  firm : guard.Firm world context
  takes : world.TakesMemo context takes
  keyed : guard.contextKey.OtherKey
  fits : (world.held context).FitsSlots
  selected : ∀ selection ∈ selections, selection.call.context = context ∧
    selection.call.operation = operation ∧
    Steady (world.Memoized context) selection.next selection.call
      (ending selection)

section

variable (guard : Guard) (world known : World) (context who : Value)
  (sole : Prop)

/-- Where a field may stand.  Every field heads for what comes of an identity,
and if there is a sole one, of that. -/
inductive Prospect (selection : Selection) (ending : Except Stop Value)
    (now : World) : Standing → Prop where
  | unstarted : Prospect selection ending now .unstarted
  | waiting {identity given : Value} :
      selection.isGuarded = true →
      (sole → identity = who) →
      now.objects = known.objects →
      now.Promises identity given →
      Prospect selection ending now
        (.waiting (guard.governing world selection.call) given)
  | heads {identity : Value} {standing : Standing} :
      (sole → identity = who) →
      standing.Heads (world.Memoized context)
        (guard.outcomeFor known identity selection ending) →
      Prospect selection ending now standing

/-- What holds while fields take turns, when a number of guarded ones have
started. -/
structure Underway (given : Value) (index : Nat) (resolver : Resolver)
    (takes : Bool) (selections : List Selection)
    (ending : Selection → Except Stop Value) (started : Nat)
    (fields : List (Selection × Standing)) (now : World) : Prop where
  counted : started + fields.countP awaitsStart =
    selections.countP Selection.isGuarded
  selected : ∀ field ∈ fields, field.1 ∈ selections
  resolvers : now.resolvers = world.resolvers.set index
    { resolver with calls := resolver.calls + invocations takes started }
  loopRunning : now.loopRunning = world.loopRunning
  fresh : started = 0 → now.objects = world.objects ∧
    now.tasks.length = world.tasks.length
  remembered : started ≠ 0 → now.objects = known.objects
  promised : started ≠ 0 → takes = true → now.Promises who given
  stages : ∀ field ∈ fields,
    Prospect guard world known context who sole field.1 (ending field.1) now
      field.2

end

section

variable {guard : Guard} {world known now after : World}
  {context source who given : Value} {operation : Option String}
  {index : Nat} {resolver : Resolver} {takes : Bool} {sole : Prop}
  {selections : List Selection} {ending : Selection → Except Stop Value}
  {started position : Nat} {fields : List (Selection × Standing)}
  {selection : Selection} {standing later : Standing}

theorem Prospect.moves {outcome : Except Stop Value}
    (stage : Prospect guard world known context who sole selection outcome now
      standing)
    (moves : now.objects = known.objects → after.objects = known.objects ∧
      ∀ identity held, now.Promises identity held →
        after.Promises identity held) :
    Prospect guard world known context who sole selection outcome after standing := by
  cases stage with
  | unstarted => exact .unstarted
  | waiting guarded unique same promises =>
      obtain ⟨sameAfter, kept⟩ := moves same
      exact .waiting guarded unique sameAfter (kept _ _ promises)
  | heads unique heads => exact .heads unique heads

/-- A field that is not started, or starts unguarded, has its turn. -/
theorem Underway.rests
    (underway : Underway guard world known context who sole given index resolver
      takes selections ending started fields now)
    (found : fields[position]? = some (selection, standing))
    (resting : awaitsStart (selection, standing) = false)
    (rests : now.Rests after)
    (restingLater : awaitsStart (selection, later) = false)
    (stage : Prospect guard world known context who sole selection
      (ending selection) after later) :
    Underway guard world known context who sole given index resolver takes
      selections ending started (fields.set position (selection, later))
      after where
  counted := by
    have counts := countP_set awaitsStart (selection, later) found
    rw [resting, restingLater] at counts
    have counted := underway.counted
    simp only [Bool.false_eq_true, if_false] at counts
    omega
  selected field member := by
    rcases List.mem_or_eq_of_mem_set member with old | rfl
    · exact underway.selected field old
    · have isField := List.mem_of_getElem? found
      exact underway.selected (selection, standing) isField
  resolvers := rests.resolvers.trans underway.resolvers
  loopRunning := rests.loopRunning.trans underway.loopRunning
  fresh none := by
    obtain ⟨objects, tasks⟩ := underway.fresh none
    exact ⟨rests.objects.trans objects, rests.tasks.trans tasks⟩
  remembered some := rests.objects.trans (underway.remembered some)
  promised some isTrue := rests.promises _ _ (underway.promised some isTrue)
  stages field member := by
    rcases List.mem_or_eq_of_mem_set member with old | rfl
    · exact (underway.stages field old).moves fun same =>
        ⟨rests.objects.trans same, rests.promises⟩
    · exact stage

/-- A guarded field starts. -/
theorem Underway.starts
    (underway : Underway guard world known context who sole given index resolver
      takes selections ending started fields now)
    (found : fields[position]? = some (selection, standing))
    (starting : awaitsStart (selection, standing) = true)
    (restingLater : awaitsStart (selection, later) = false)
    (resolvers : after.resolvers = world.resolvers.set index
      { resolver with
        calls := resolver.calls + invocations takes (started + 1) })
    (loopRunning : after.loopRunning = world.loopRunning)
    (same : after.objects = known.objects)
    (promised : takes = true → after.Promises who given)
    (kept : now.objects = known.objects → ∀ identity held,
      now.Promises identity held → after.Promises identity held)
    (stage : Prospect guard world known context who sole selection
      (ending selection) after later) :
    Underway guard world known context who sole given index resolver takes
      selections ending (started + 1) (fields.set position (selection, later))
      after where
  counted := by
    have counts := countP_set awaitsStart (selection, later) found
    rw [starting, restingLater] at counts
    have counted := underway.counted
    simp only [Bool.false_eq_true, if_true, if_false] at counts
    omega
  selected field member := by
    rcases List.mem_or_eq_of_mem_set member with old | rfl
    · exact underway.selected field old
    · have isField := List.mem_of_getElem? found
      exact underway.selected (selection, standing) isField
  resolvers := resolvers
  loopRunning := loopRunning
  fresh none := absurd none (Nat.succ_ne_zero started)
  remembered _ := same
  promised _ := promised
  stages field member := by
    rcases List.mem_or_eq_of_mem_set member with old | rfl
    · exact (underway.stages field old).moves fun sameNow =>
        ⟨same, kept sameNow⟩
    · exact stage

theorem Standing.isUnstarted_after_settled (given : Except Stop Value) :
    (Standing.after .settled given).isUnstarted = false := by
  cases given <;> rfl

theorem awaitsStart_of_started
    (started : later.isUnstarted = false) (selection : Selection) :
    awaitsStart (selection, later) = false := by
  simp [awaitsStart, started]

/-- A field of introspection starts without an identity. -/
theorem Guard.Operates.advance_unguarded
    (operates : guard.Operates world context source operation index resolver
      takes selections ending)
    (memoized : world.Memoized context now)
    (member : selection ∈ selections)
    (unguarded : isIntrospection selection.call.field = true) :
    ∃ later after,
      runFrom (guard.advance selection .unstarted) now = (.ok later, after) ∧
      now.Rests after ∧ awaitsStart (selection, later) = false ∧
      Prospect guard world known context who sole selection (ending selection)
        after later := by
  obtain ⟨_, _, steady⟩ := operates.selected selection member
  obtain ⟨given, visits, gives, comes⟩ := steady now memoized
  have outcome : guard.outcomeFor known who selection (ending selection) =
      ending selection := if_pos unguarded
  have started : runFrom (guard.start selection.call selection.next) now =
      (.settled <$> given, { now with visits }) := by
    rw [start, if_pos unguarded, runFrom_bind, gives]
    cases given <;> rfl
  have later : Standing.after .ofProgress (.settled <$> given) =
      .after .settled given := by
    cases given <;> rfl
  refine ⟨_, _, guard.runFrom_advance_unstarted selection now, ?_⟩
  rw [started, later]
  refine ⟨.visited now visits, ?_, .heads (fun _ => rfl) ?_⟩
  · exact awaitsStart_of_started
      (Standing.isUnstarted_after_settled given) selection
  · rw [outcome]
    exact comes.heads

/-- A field that waits for its identity goes on. -/
theorem Guard.Operates.advance_waiting
    (operates : guard.Operates world context source operation index resolver
      takes selections ending)
    (memoizedKnown : world.Memoized context known)
    (member : selection ∈ selections) (guarded : selection.isGuarded = true)
    {identity held : Value} (unique : sole → identity = who)
    (same : now.objects = known.objects) (promises : now.Promises identity held) :
    ∃ later after,
      runFrom (guard.advance selection
        (.waiting (guard.governing world selection.call) held)) now =
          (.ok later, after) ∧
      now.Rests after ∧ awaitsStart (selection, later) = false ∧
      Prospect guard world known context who sole selection (ending selection)
        after later := by
  obtain ⟨_, _, steady⟩ := operates.selected selection member
  have isGuarded : isIntrospection selection.call.field = false := by
    simpa [Selection.isGuarded] using guarded
  obtain ⟨between, awaited, advances⟩ := promises.runFrom_await
  have toBetween := World.Rests.of_advances advances
  obtain ⟨given, after, admitted, rests, heads⟩ :=
    operates.firm.admits memoizedKnown (toBetween.objects.trans same)
      isGuarded steady identity
  have resumed : runFrom (do
      let identity ← held.await
      guard.authorize (guard.governing world selection.call) identity
        selection.call
      selection.next selection.call) now = (given, after) :=
    (runFrom_bind_ok awaited).trans admitted
  refine ⟨_, _, guard.runFrom_advance_waiting selection now _ held, ?_⟩
  simp only [resumed]
  exact ⟨toBetween.trans rests, awaitsStart_of_started
    (Standing.isUnstarted_after_settled given) selection,
    .heads unique heads⟩

/-- A turn at which no identity is resolved brings a field closer to what it
heads for. -/
theorem Guard.Operates.advance_rests
    (operates : guard.Operates world context source operation index resolver
      takes selections ending)
    (memoized : world.Memoized context now)
    (memoizedKnown : world.Memoized context known)
    (member : selection ∈ selections)
    (prospect : Prospect guard world known context who sole selection
      (ending selection) now standing)
    (resting : awaitsStart (selection, standing) = false) :
    ∃ later after,
      runFrom (guard.advance selection standing) now = (.ok later, after) ∧
      now.Rests after ∧ awaitsStart (selection, later) = false ∧
      Prospect guard world known context who sole selection (ending selection)
        after later := by
  cases prospect with
  | unstarted =>
      have unguarded : isIntrospection selection.call.field = true := by
        simpa [awaitsStart, Standing.isUnstarted, Selection.isGuarded] using
          resting
      exact operates.advance_unguarded memoized member unguarded
  | waiting guarded unique same promises =>
      exact operates.advance_waiting memoizedKnown member guarded unique same
        promises
  | heads unique heads =>
      cases heads with
      | settled awaits =>
          refine ⟨_, _, guard.runFrom_advance_settled selection now _, ?_⟩
          rw [awaits now memoized]
          exact ⟨.refl now, awaitsStart_of_started rfl selection,
            .heads unique .ended⟩
      | ended =>
          exact ⟨_, now, rfl, .refl now, awaitsStart_of_started rfl selection,
            .heads unique .ended⟩

/-- A guarded field starts, and goes on at once if its identity is there. -/
theorem Guard.Operates.advance_starts
    (operates : guard.Operates world context source operation index resolver
      takes selections ending)
    (sole : Prop) (memoized : world.Memoized context now)
    (memoizedKnown : world.Memoized context known)
    (member : selection ∈ selections) (guarded : selection.isGuarded = true)
    {identity held : Value} {ready : World}
    (resolved : runFrom (Identity.resolve context guard.contextKey
      guard.identityResolver operation) now = (.ok held, ready))
    (promises : ready.Promises identity held)
    (same : ready.objects = known.objects)
    (unique : sole → identity = who) :
    ∃ later after,
      runFrom (guard.advance selection .unstarted) now = (.ok later, after) ∧
      ready.Rests after ∧ awaitsStart (selection, later) = false ∧
      Prospect guard world known context who sole selection (ending selection)
        after later := by
  obtain ⟨isContext, isOperation, steady⟩ := operates.selected selection member
  have isGuarded : isIntrospection selection.call.field = false := by
    simpa [Selection.isGuarded] using guarded
  have ruled := operates.firm.runFrom_ruleFor memoized selection.call
  rw [← isContext, ← isOperation] at resolved
  refine ⟨_, _, guard.runFrom_advance_unstarted selection now, ?_⟩
  rw [start, if_neg (by simp [isGuarded]), runFrom_bind_ok ruled,
    runFrom_bind_ok resolved]
  cases waits : held.isPending with
  | true =>
      rw [if_pos rfl]
      exact ⟨.refl ready, awaitsStart_of_started rfl selection,
        .waiting guarded unique same promises⟩
  | false =>
      cases promises with
      | ended _ => cases waits
      | waiting _ _ => cases waits
      | settled _ =>
          obtain ⟨given, after, admitted, rests, heads⟩ :=
            operates.firm.admits memoizedKnown same isGuarded steady identity
          have settles : runFrom (do
              guard.authorize (guard.governing world selection.call) identity
                selection.call
              return Progress.settled (← selection.next selection.call))
              ready = (.settled <$> given, after) := by
            rw [← bind_assoc, runFrom_bind, admitted]
            cases given <;> rfl
          have later : Standing.after .ofProgress (.settled <$> given) =
              .after .settled given := by
            cases given <;> rfl
          rw [if_neg Bool.false_ne_true, settles, later]
          exact ⟨rests, awaitsStart_of_started
            (Standing.isUnstarted_after_settled given) selection,
            .heads unique heads⟩

@[simp] theorem invocations_zero (takes : Bool) : invocations takes 0 = 0 := by
  cases takes <;> rfl

theorem invocations_one (takes : Bool) : invocations takes 1 = 1 := by
  cases takes <;> rfl

theorem invocations_true (started : Nat) : invocations true (started + 1) = 1 :=
  Nat.min_eq_left (Nat.le_add_left 1 started)

theorem Underway.memoized
    (underway : Underway guard world known context who sole given index resolver
      takes selections ending started fields now)
    (memoizedKnown : world.Memoized context known) :
    world.Memoized context now := by
  by_cases none : started = 0
  · exact .bare (underway.fresh none).1
  · exact memoizedKnown.of_objects (underway.remembered none)

/-- A guarded field that starts, with its identity there or promised, leaves the
operation under way. -/
theorem Guard.Operates.underway_starts
    (operates : guard.Operates world context source operation index resolver
      takes selections ending)
    (memoizedKnown : world.Memoized context known)
    (underway : Underway guard world known context who sole given index resolver
      takes selections ending started fields now)
    (found : fields[position]? = some (selection, .unstarted))
    (guarded : selection.isGuarded = true)
    {identity held : Value} {ready : World}
    (resolved : runFrom (Identity.resolve context guard.contextKey
      guard.identityResolver operation) now = (.ok held, ready))
    (promises : ready.Promises identity held)
    (same : ready.objects = known.objects)
    (unique : sole → identity = who)
    (resolvers : ready.resolvers = world.resolvers.set index
      { resolver with
        calls := resolver.calls + invocations takes (started + 1) })
    (loopRunning : ready.loopRunning = world.loopRunning)
    (promised : takes = true → ready.Promises who given)
    (kept : now.objects = known.objects → ∀ identity held,
      now.Promises identity held → ready.Promises identity held) :
    ∃ later after,
      runFrom (guard.advance selection .unstarted) now = (.ok later, after) ∧
      Underway guard world known context who sole given index resolver takes
        selections ending (started + 1)
        (fields.set position (selection, later)) after := by
  have member := underway.selected _ (List.mem_of_getElem? found)
  obtain ⟨later, after, advanced, rests, restingLater, prospect⟩ :=
    operates.advance_starts sole (underway.memoized memoizedKnown)
      memoizedKnown member guarded resolved promises same unique
  have starting : awaitsStart (selection, .unstarted) = true := by
    simp [awaitsStart, guarded, Standing.isUnstarted]
  exact ⟨later, after, advanced, underway.starts found starting restingLater
    (rests.resolvers.trans resolvers) (rests.loopRunning.trans loopRunning)
    (rests.objects.trans same)
    (fun accepted => rests.promises _ _ (promised accepted))
    (fun sameNow identity held isPromised =>
      rests.promises _ _ (kept sameNow identity held isPromised)) prospect⟩

/-- The first guarded field that starts resolves the identity. -/
theorem Guard.Operates.starts_first
    (operates : guard.Operates world context source operation index resolver
      takes selections ending)
    (identifies : guard.Identifies world context source operation index resolver
      who given known)
    (underway : Underway guard world known context who sole given index resolver
      takes selections ending 0 fields now)
    (found : fields[position]? = some (selection, .unstarted))
    (guarded : selection.isGuarded = true) :
    ∃ later after,
      runFrom (guard.advance selection .unstarted) now = (.ok later, after) ∧
      Underway guard world known context who sole given index resolver takes
        selections ending 1 (fields.set position (selection, later)) after := by
  obtain ⟨sameObjects, sameTasks⟩ := underway.fresh rfl
  have sameResolvers : now.resolvers = world.resolvers := by
    rw [underway.resolvers, invocations_zero]
    exact set_of_found operates.shares.found
  have alike : world.Alike now :=
    ⟨sameObjects, sameResolvers, underway.loopRunning, sameTasks⟩
  obtain ⟨ready, resolved, same, resolvers, loopRunning, grows, promises⟩ :=
    identifies.resolves now alike
  refine operates.underway_starts identifies.memoized underway found guarded
    resolved promises same (fun _ => rfl) ?_ loopRunning (fun _ => promises) ?_
  · rw [resolvers, invocations_one]
    rfl
  · intro sameNow identity held promised
    exact promised.of_prefix (same.trans sameNow.symm) grows

/-- A guarded field that starts later recalls the identity, if the context has
taken the memo. -/
theorem Guard.Operates.starts_recalling
    (operates : guard.Operates world context source operation index resolver
      true selections ending)
    (identifies : guard.Identifies world context source operation index resolver
      who given known)
    (underway : Underway guard world known context who sole given index resolver
      true selections ending (started + 1) fields now)
    (found : fields[position]? = some (selection, .unstarted))
    (guarded : selection.isGuarded = true) :
    ∃ later after,
      runFrom (guard.advance selection .unstarted) now = (.ok later, after) ∧
      Underway guard world known context who sole given index resolver true
        selections ending (started + 1 + 1)
        (fields.set position (selection, later)) after := by
  have some : started + 1 ≠ 0 := Nat.succ_ne_zero started
  have same := underway.remembered some
  have promises := underway.promised some rfl
  have resolved : runFrom (Identity.resolve context guard.contextKey
      guard.identityResolver operation) now = (.ok given, now) := by
    rw [Identity.resolve, Identity.runFrom_resolveBy, identifies.recalls
      operates.shares operates.takes operates.keyed operates.fits same]
  refine operates.underway_starts identifies.memoized underway found guarded
    resolved promises same (fun _ => rfl) ?_ underway.loopRunning
    (fun _ => promises) fun _ _ _ promised => promised
  rw [underway.resolvers, invocations_true, invocations_true]

/-- If the context has refused the memo, it resolves the identity again. -/
theorem Guard.Operates.starts_again
    (operates : guard.Operates world context source operation index resolver
      false selections ending)
    (identifies : guard.Identifies world context source operation index resolver
      who given known)
    (underway : Underway guard world known context who sole given index resolver
      false selections ending (started + 1) fields now)
    (several : ¬ sole)
    (found : fields[position]? = some (selection, .unstarted))
    (guarded : selection.isGuarded = true) :
    ∃ later after,
      runFrom (guard.advance selection .unstarted) now = (.ok later, after) ∧
      Underway guard world known context who sole given index resolver false
        selections ending (started + 1 + 1)
        (fields.set position (selection, later)) after := by
  have sameKnown := underway.remembered (Nat.succ_ne_zero started)
  have refused := identifies.remembers.objects_refused operates.takes
  have sameObjects : now.objects = world.objects := sameKnown.trans refused
  have inRange := (List.getElem?_eq_some_iff.mp operates.shares.found).1
  have foundNow : now.resolvers[index]? = some { resolver with
      calls := resolver.calls + invocations false (started + 1) } := by
    rw [underway.resolvers]
    exact List.getElem?_set_self inRange
  have shares := operates.shares.of_objects sameObjects underway.loopRunning
    foundNow
  -- the resolution takes the next outcome of the script, whatever it is
  obtain ⟨identity, held, knownNow, identifiesNow⟩ :=
    shares.identifies operation
  obtain ⟨ready, resolved, same, resolvers, loopRunning, grows, promises⟩ :=
    identifiesNow.resolves now (.refl now)
  have takesNow := operates.takes.of_objects sameObjects
  have refusedNow := identifiesNow.remembers.objects_refused takesNow
  have sameReady : ready.objects = now.objects := same.trans refusedNow
  refine operates.underway_starts identifies.memoized underway found guarded
    resolved promises (sameReady.trans sameKnown) (fun alone => absurd alone several) ?_
    (loopRunning.trans underway.loopRunning)
    (fun isTrue => absurd isTrue Bool.false_ne_true) ?_
  · rw [resolvers, World.counted, underway.resolvers, List.set_set]
    rfl
  · exact fun _ _ _ promised => promised.of_prefix sameReady grows

/-- Whichever guarded field starts, the operation stays under way. -/
theorem Guard.Operates.starts
    (operates : guard.Operates world context source operation index resolver
      takes selections ending)
    (identifies : guard.Identifies world context source operation index resolver
      who given known)
    (isSole : sole ↔ takes = true ∨ selections.countP Selection.isGuarded = 1)
    (underway : Underway guard world known context who sole given index resolver
      takes selections ending started fields now)
    (found : fields[position]? = some (selection, .unstarted))
    (guarded : selection.isGuarded = true) :
    ∃ later after,
      runFrom (guard.advance selection .unstarted) now = (.ok later, after) ∧
      Underway guard world known context who sole given index resolver takes
        selections ending (started + 1)
        (fields.set position (selection, later)) after := by
  match started, takes with
  | 0, _ => exact operates.starts_first identifies underway found guarded
  | started + 1, true =>
      exact operates.starts_recalling identifies underway found guarded
  | started + 1, false =>
      -- one field has started already, and this one makes two
      have several : ¬ sole := by
        intro alone
        have one := (isSole.mp alone).resolve_left Bool.false_ne_true
        have counted := underway.counted
        have positive : 0 < fields.countP awaitsStart := by
          rw [List.countP_pos_iff]
          refine ⟨_, List.mem_of_getElem? found, ?_⟩
          simp [awaitsStart, guarded, Standing.isUnstarted]
        omega
      exact operates.starts_again identifies underway several found guarded

/-- A turn leaves the operation under way. -/
theorem Guard.Operates.underway_advance
    (operates : guard.Operates world context source operation index resolver
      takes selections ending)
    (identifies : guard.Identifies world context source operation index resolver
      who given known)
    (isSole : sole ↔ takes = true ∨ selections.countP Selection.isGuarded = 1)
    (underway : Underway guard world known context who sole given index resolver
      takes selections ending started fields now)
    (found : fields[position]? = some (selection, standing))
    (advanced : runFrom (guard.advance selection standing) now =
      (.ok later, after)) :
    ∃ started', Underway guard world known context who sole given index
      resolver takes selections ending started'
      (fields.set position (selection, later)) after := by
  have isField := List.mem_of_getElem? found
  cases starting : awaitsStart (selection, standing) with
  | false =>
      obtain ⟨_, _, advancedToo, rests, restingLater, prospect⟩ :=
        operates.advance_rests (underway.memoized identifies.memoized)
          identifies.memoized (underway.selected _ isField)
          (underway.stages _ isField) starting
      cases advanced.symm.trans advancedToo
      exact ⟨started, underway.rests found starting rests restingLater prospect⟩
  | true =>
      obtain ⟨guarded, unstarted⟩ := Bool.and_eq_true_iff.mp starting
      obtain rfl : standing = .unstarted := by
        cases standing with
        | unstarted => rfl
        | _ => cases unstarted
      obtain ⟨_, _, advancedToo, underwayLater⟩ :=
        operates.starts identifies isSole underway found guarded
      cases advanced.symm.trans advancedToo
      exact ⟨started + 1, underwayLater⟩

end

/-- What has come of an operation when its fields have ended. -/
structure Guard.Refines (guard : Guard) (world known : World) (who : Value)
    (index : Nat) (resolver : Resolver) (takes : Bool)
    (selections : List Selection) (ending : Selection → Except Stop Value)
    (fields : List (Selection × Standing)) (after : World) : Prop where
  selected : fields.map Prod.fst = selections
  ended : ∀ field ∈ fields, ∃ outcome, field.2 = .ended outcome
  /-- The resolver has been called once if any field is guarded, or once for each
  guarded field where the context refuses the memo. -/
  resolvers : after.resolvers = world.resolvers.set index
    { resolver with
      calls := resolver.calls +
        invocations takes (selections.countP Selection.isGuarded) }
  /-- If it has not been called again, every field has come to what its rule says
  of the one identity. -/
  outcomes : invocations takes (selections.countP Selection.isGuarded) ≤ 1 →
    fields = selections.map fun selection =>
      (selection, .ended
        (guard.outcomeFor known who selection (ending selection)))

section

variable {guard : Guard} {world : World} {context source : Value}
  {operation : Option String} {index : Nat} {resolver : Resolver} {takes : Bool}
  {selections : List Selection} {ending : Selection → Except Stop Value}

theorem Guard.Operates.underway_initially
    (operates : guard.Operates world context source operation index resolver
      takes selections ending)
    (known : World) (who given : Value) (sole : Prop) :
    Underway guard world known context who sole given index resolver takes
      selections ending 0
      (selections.map fun selection => (selection, .unstarted)) world where
  counted := by
    have counts : awaitsStart ∘ (fun selection => (selection, .unstarted)) =
        Selection.isGuarded := by
      funext selection
      simp [awaitsStart, Standing.isUnstarted]
    rw [List.countP_map, counts, Nat.zero_add]
  selected field member := by
    obtain ⟨selection, isSelection, rfl⟩ := List.mem_map.mp member
    exact isSelection
  resolvers := by
    rw [invocations_zero]
    exact (set_of_found operates.shares.found).symm
  loopRunning := rfl
  fresh _ := ⟨rfl, rfl⟩
  remembered some := absurd rfl some
  promised some := absurd rfl some
  stages field member := by
    obtain ⟨selection, _, rfl⟩ := List.mem_map.mp member
    exact .unstarted

/-- When all fields have ended, all guarded ones have started. -/
theorem Underway.started_eq {known now : World} {who given : Value}
    {sole : Prop} {started : Nat} {fields : List (Selection × Standing)}
    (underway : Underway guard world known context who sole given index resolver
      takes selections ending started fields now)
    (ended : ∀ field ∈ fields, ∃ outcome, field.2 = .ended outcome) :
    started = selections.countP Selection.isGuarded := by
  have none : fields.countP awaitsStart = 0 := by
    rw [List.countP_eq_zero]
    intro field member
    obtain ⟨outcome, isEnded⟩ := ended field member
    simp [awaitsStart, isEnded, Standing.isUnstarted]
  have counted := underway.counted
  omega

/-- What has ended has come to what comes of the sole identity. -/
theorem Underway.outcome_eq {known now : World} {who given : Value}
    {started : Nat} {fields : List (Selection × Standing)}
    (underway : Underway guard world known context who
      (takes = true ∨ selections.countP Selection.isGuarded = 1) given index
      resolver takes selections ending started fields now)
    (once : invocations takes (selections.countP Selection.isGuarded) ≤ 1)
    {field : Selection × Standing} (member : field ∈ fields)
    {outcome : Except Stop Value} (isEnded : field.2 = .ended outcome) :
    outcome = guard.outcomeFor known who field.1 (ending field.1) := by
  have prospect := underway.stages field member
  rw [isEnded] at prospect
  cases prospect with
  | @heads identity _ unique heads =>
      cases heads with
      | ended =>
          cases guarded : field.1.isGuarded with
          | false =>
              have unguarded : Guard.isIntrospection field.1.call.field = true := by
                simpa [Selection.isGuarded] using guarded
              exact (if_pos unguarded).trans (if_pos unguarded).symm
          | true =>
              have some : 0 < selections.countP Selection.isGuarded :=
                List.countP_pos_iff.mpr
                  ⟨field.1, underway.selected field member, guarded⟩
              have isSole : takes = true ∨
                  selections.countP Selection.isGuarded = 1 := by
                cases takes with
                | true => exact .inl rfl
                | false => exact .inr (Nat.le_antisymm once some)
              rw [unique isSole]

/-- When all fields have ended, they have come to what the operation refines. -/
theorem Underway.refines {known now : World} {who given : Value}
    {started : Nat} {fields : List (Selection × Standing)}
    (underway : Underway guard world known context who
      (takes = true ∨ selections.countP Selection.isGuarded = 1) given index
      resolver takes selections ending started fields now)
    (sameSelections : fields.map Prod.fst = selections)
    (ended : ∀ field ∈ fields, ∃ outcome, field.2 = .ended outcome) :
    guard.Refines world known who index resolver takes selections ending fields
      now where
  selected := sameSelections
  ended := ended
  resolvers := by rw [underway.resolvers, underway.started_eq ended]
  outcomes once := by
    have outcomes : ∀ field ∈ fields, field = (field.1, .ended
        (guard.outcomeFor known who field.1 (ending field.1))) := by
      intro field member
      obtain ⟨outcome, isEnded⟩ := ended field member
      rw [← underway.outcome_eq once member isEnded, ← isEnded]
    calc
      fields = fields.map id := (List.map_id fields).symm
      _ = fields.map ((fun selection => (selection, .ended (guard.outcomeFor
            known who selection (ending selection)))) ∘ Prod.fst) :=
          List.map_congr_left outcomes
      _ = selections.map _ := by rw [← List.map_map, sameSelections]

/-- In whatever order the fields of an operation take turns, they come to the
same. -/
theorem Guard.Operates.refines
    (operates : guard.Operates world context source operation index resolver
      takes selections ending) :
    ∃ who known, Yields source context world (.ok who, known) ∧
      world.Memoized context known ∧
      ∀ turns : List Nat,
        (∀ position < selections.length, 3 ≤ turns.count position) →
        ∃ fields after,
          runFrom (guard.takeTurns turns (selections.map fun selection =>
            (selection, .unstarted))) world = (.ok fields, after) ∧
          guard.Refines world known who index resolver takes selections ending
            fields after := by
  obtain ⟨who, given, known, identifies⟩ := operates.shares.identifies operation
  refine ⟨who, known, identifies.yields, identifies.memoized,
    fun turns enough => ?_⟩
  let holds (fields : List (Selection × Standing)) (now : World) : Prop :=
    ∃ started, Underway guard world known context who
      (takes = true ∨ selections.countP Selection.isGuarded = 1) given index
      resolver takes selections ending started fields now
  have initially : holds (selections.map fun selection =>
      (selection, .unstarted)) world :=
    ⟨0, operates.underway_initially known who given _⟩
  have preserved : ∀ fields now position selection standing later after,
      holds fields now → fields[position]? = some (selection, standing) →
      runFrom (guard.advance selection standing) now = (.ok later, after) →
      holds (fields.set position (selection, later)) after := by
    rintro fields now position selection standing later after
      ⟨started, underway⟩ found advanced
    exact operates.underway_advance identifies Iff.rfl underway found advanced
  have enoughTurns : ∀ position selection standing,
      (selections.map fun selection => (selection, Standing.unstarted))[position]? =
        some (selection, standing) →
      3 ≤ standing.turnsTaken + turns.count position := by
    intro position selection standing found
    have inRange := (List.getElem?_eq_some_iff.mp found).1
    have taken := enough position (by simpa using inRange)
    omega
  obtain ⟨fields, after, ran, ⟨started, underway⟩, sameFields, ended⟩ :=
    guard.takeTurns_preserves holds preserved turns _ initially enoughTurns
  have sameSelections : fields.map Prod.fst = selections := by
    rw [sameFields, List.map_map]
    exact List.map_id selections
  exact ⟨fields, after, ran, underway.refines sameSelections ended⟩

/-- The fields of one operation on one context, which the guard of a policy
guards and one resolver identifies: whatever the order in which they take turns,
the resolver is called as often, and each field comes to what its rule says of
the identity that the resolver yields. -/
theorem Policy.operates {policySource : PolicySource} {policy : Policy}
    {before made : World} {override : Value}
    (makes : runFrom (make policySource) before = (.ok policy, made))
    (shares : (policy.guard override).Shares world context source index
      resolver)
    (decides : world.TakesMemo context takes)
    (keyed : policy.contextKey.OtherKey)
    (fits : (world.held context).FitsSlots)
    (asks : ∀ identity,
      Notes (world.Looks context) (callValue policy.fallbackRule identity))
    (selected : ∀ selection ∈ selections, selection.call.context = context ∧
      selection.call.operation = operation ∧
      Steady (world.Memoized context) selection.next selection.call
        (ending selection)) :
    ∃ who known, Yields source context world (.ok who, known) ∧
      world.Memoized context known ∧
      ∀ turns : List Nat,
        (∀ position < selections.length, 3 ≤ turns.count position) →
        ∃ fields after,
          runFrom ((policy.guard override).takeTurns turns
            (selections.map fun selection => (selection, .unstarted))) world =
              (.ok fields, after) ∧
          (policy.guard override).Refines world known who index resolver takes
            selections ending fields after :=
  Guard.Operates.refines {
    shares, keyed, fits, selected
    takes := decides
    firm := (sound_make makes).firm asks override }

end

namespace Policy

/-- A field of `sampleCall`'s operation that gives its name when it is
awaited. -/
def sampleSelection (field : String) : Selection where
  call := { sampleCall with field }
  next := ScriptedField.resolve ⟨0, true, .value (.text field)⟩

/-- A field that the table lists, one of introspection and one that the table
does not list. -/
def sampleSelections : List Selection :=
  ["users", "__typename", "posts"].map sampleSelection

theorem takesMemo_sampleReady :
    sampleReady.TakesMemo sampleCall.context true :=
  ⟨⟨0, _, rfl, Nat.zero_lt_one⟩, fun _ => ⟨_, rfl⟩, rfl⟩

theorem shares_sampleReady {guard : Guard}
    (keyed : guard.contextKey = .text "user")
    (given : guard.identityResolver = .null) :
    guard.Shares sampleReady sampleCall.context (.resolver 0 none) 0
      sampleResolver where
  asks := by
    rw [keyed, given]
    rfl
  registered := ⟨none, rfl, rfl⟩
  found := rfl
  orderly := by
    refine ⟨nofun, ?_, ?_⟩
    · intro outcome member message
      rw [List.mem_singleton.mp member]
      nofun
    · intro outcome member answer awaitable ends waits
      rw [List.mem_singleton.mp member] at ends
      cases ends
      cases waits
      exact ⟨nofun, rfl⟩
  unremembered := ⟨.null, rfl, nofun⟩
  tolerates := takesMemo_sampleReady.tolerates

theorem operates_sampleSource :
    ∃ policy made who known after,
      runFrom (make sampleSource) sampleStart = (.ok policy, made) ∧
      Yields policy.getUser sampleCall.context sampleReady (.ok who, known) ∧
      ∃ fields,
        runFrom ((policy.guard .null).takeTurns [0, 1, 2, 2, 1, 0, 0, 1, 2]
          (sampleSelections.map fun selection => (selection, .unstarted)))
            sampleReady = (.ok fields, after) ∧
        (policy.guard .null).Refines sampleReady known who 0 sampleResolver true
          sampleSelections
          (fun selection => .ok (.text selection.call.field)) fields after := by
  obtain ⟨policy, made, makes, keyed, getUser, fallback⟩ := made_sampleSource
  have shares : (policy.guard .null).Shares sampleReady sampleCall.context
      policy.getUser 0 sampleResolver := by
    rw [getUser]
    exact shares_sampleReady keyed rfl
  have asks (identity : Value) :
      Notes (sampleReady.Looks sampleCall.context)
        (callValue policy.fallbackRule identity) := by
    have apart : sampleReady.held sampleCall.context ≠ .rule .allow := by
      intro same
      cases same
    rw [fallback]
    exact .rule_of_held rfl rfl apart identity
  have selected : ∀ selection ∈ sampleSelections,
      selection.call.context = sampleCall.context ∧
        selection.call.operation = sampleCall.operation ∧
        Steady (sampleReady.Memoized sampleCall.context) selection.next
          selection.call (.ok (.text selection.call.field)) := by
    intro selection member
    obtain ⟨field, _, rfl⟩ := List.mem_map.mp member
    exact ⟨rfl, rfl, ScriptedField.steady _ _ _ _ nofun⟩
  have otherKey : policy.contextKey.OtherKey := by
    rw [keyed]
    exact Value.otherKey_text (by decide)
  obtain ⟨who, known, yields, _, refines⟩ :=
    operates makes shares takesMemo_sampleReady otherKey trivial asks selected
  have enough : ∀ position < sampleSelections.length,
      3 ≤ [0, 1, 2, 2, 1, 0, 0, 1, 2].count position := by
    decide
  obtain ⟨fields, after, ran, refined⟩ := refines _ enough
  exact ⟨policy, made, who, known, after, makes, yields, fields, ran, refined⟩

end Policy

end RoleGuard
