import RoleGuard.Proofs.Enforcement
import RoleGuard.Proofs.Scheduling
import RoleGuard.Proofs.Sharing
import RoleGuard.Proofs.Steady

/-!
# What comes of a field for an identity

The rules of a guard are firm if a memo does not change them and asking them
only notes.  What comes of a field then depends on the identity alone, whenever
its rule is asked.
-/

namespace RoleGuard

namespace Guard

/-- What a guard makes of an identity that a rule is asked about. -/
def ruling (guard : Guard) (known : World) (rule identity : Value) :
    Except Stop Unit :=
  match runFrom (callValue rule identity) known with
  | (.ok answer, asked) =>
      if (asked.look answer).truthy then .ok ()
      else .error (guard.denial asked)
  | (.error (.fault fault), asked) =>
      if (asked.look guard.debug).truthy then .error (.fault fault)
      else .error (guard.denial asked)
  | (.error (.abort message), _) => .error (.abort message)

theorem Answers.ruling_eq {guard : Guard} {rule identity : Value}
    {known after : World} {gate : Except Stop Unit}
    (answers : guard.Answers rule identity known (gate, after)) :
    guard.ruling known rule identity = gate := by
  unfold ruling
  cases gate with
  | ok _ =>
      obtain ⟨answer, ended, isTrue⟩ := answers
      simp only [ended, isTrue, if_true]
  | error stop =>
      cases answers with
      | untrue _ ended isFalse =>
          simp only [ended, isFalse, Bool.false_eq_true, if_false]
      | failed _ ended silent =>
          simp only [ended, silent, Bool.false_eq_true, if_false]
      | passedOn ended passes => simp only [ended, passes, if_true]
      | aborted ended => simp only [ended]

/-- How a field ends for an identity, if `ending` is how it is resolved: a field
of introspection as it is resolved, any other one by what its rule says. -/
def outcomeFor (guard : Guard) (known : World) (identity : Value)
    (selection : Selection) (ending : Except Stop Value) : Except Stop Value :=
  if isIntrospection selection.call.field then ending
  else
    match guard.ruling known (guard.governing known selection.call) identity with
    | .ok () => ending
    | .error stop => .error stop

end Guard

namespace World

/-- Worlds with the same objects, in which a context may have been given a
memo. -/
def Looks (world : World) (context : Value) (first second : World) : Prop :=
  world.Memoized context first ∧ second.objects = first.objects

theorem lasting_looks (world : World) (context : Value) :
    Lasting (world.Looks context) :=
  fun _ _ _ looks => ⟨looks.1.of_objects rfl, looks.2⟩

end World

/-- The rules of a guard do not change when a context is given a memo, and
asking them only notes. -/
structure Guard.Firm (guard : Guard) (world : World) (context : Value) :
    Prop where
  guarding : ∀ other, world.Memoized context other →
    other.GuardingTree guard.tree
  governs : ∀ other, world.Memoized context other → ∀ call,
    guard.governing other call = guard.governing world call
  asks : ∀ call identity, Notes (world.Looks context)
    (callValue (guard.governing world call) identity)

namespace Guard.Firm

variable {guard : Guard} {world known now : World} {context : Value}

theorem runFrom_ruleFor (firm : guard.Firm world context)
    (memoized : world.Memoized context now) (call : FieldCall) :
    runFrom (guard.ruleFor call) now = (.ok (guard.governing world call), now) := by
  rw [← firm.governs now memoized call]
  exact Guard.runFrom_ruleFor (firm.guarding now memoized) call

theorem notes_authorize (firm : guard.Firm world context) (call : FieldCall)
    (identity : Value) :
    Notes (world.Looks context)
      (guard.authorize (guard.governing world call) identity call) := by
  apply guard.notes_authorize call (world.lasting_looks context)
  · apply (firm.asks call identity).bind (world.lasting_looks context)
    intro answer
    exact Notes.read fun first second looks => by
      rw [World.look_of_objects looks.2]
  · intro first second looks
    rw [World.look_of_objects looks.2]
    exact .refl _
  · intro first second looks
    rw [World.look_of_objects looks.2]
  · exact fun first second looks => World.refresh_of_objects looks.2 _

/-- Whenever a rule is asked about an identity, the guard makes the same of
it. -/
theorem runFrom_authorize (firm : guard.Firm world context)
    (memoized : world.Memoized context known)
    (same : now.objects = known.objects) (call : FieldCall)
    (identity : Value) :
    ∃ events,
      runFrom (guard.authorize (guard.governing world call) identity call) now =
        (guard.ruling known (guard.governing known call) identity,
          now.noted events) := by
  obtain ⟨gate, events, authorizes, authorizesNow⟩ :=
    firm.notes_authorize call identity known now ⟨memoized, same⟩
  have answers := guard.answers_authorize (guard.governing world call) identity
    call known
  rw [authorizes] at answers
  rw [firm.governs known memoized, answers.ruling_eq]
  exact ⟨events, authorizesNow⟩

end Guard.Firm

/-- Asking a rule, apart from the context, only notes. -/
theorem Notes.rule_of_held {world : World} {context rule : Value} {r : Rule}
    (isRule : rule.isRule = true) (holds : world.held rule = .rule r)
    (apart : world.held context ≠ .rule r) (identity : Value) :
    Notes (world.Looks context) (callValue rule identity) := by
  apply Notes.callValue_rule isRule
  · rintro first second ⟨memoized, same⟩
    have holdsNow : first.held rule = .rule r := by
      rcases memoized.held rule with unchanged | ⟨isContext, _⟩
      · exact unchanged.trans holds
      · exact absurd (isContext.symm.trans holds) apart
    obtain ⟨now, shows, _⟩ := World.hasRule_refresh holdsNow
    refine ⟨now, shows, ?_⟩
    rw [World.refresh_of_objects same]
    exact shows
  · intro first second looks
    rw [World.look_of_objects looks.2]
    exact .refl _

/-- The guard of a policy is firm, if asking the fallback rule only notes. -/
theorem Policy.Sound.firm {policy : Policy} {table : Value}
    (sound : policy.Sound table) {world : World} {context : Value}
    (asks : ∀ identity,
      Notes (world.Looks context) (callValue policy.fallbackRule identity))
    (resolver : Value) : (policy.guard resolver).Firm world context where
  guarding other _ := sound.guarding other
  governs other _ call := by
    rw [sound.governing_guard, sound.governing_guard]
    exact sound.governing_congr world other call.type call.field
  asks call identity := by
    rw [sound.governing_guard]
    unfold Policy.governing
    rcases sound.rule?_eq world call.type call.field with
      ⟨_, found⟩ | ⟨names, _, found⟩
    · rw [found]
      exact asks identity
    · rw [found]
      apply Notes.callValue_rule rfl
      · exact fun first second _ =>
          ⟨_, Policy.hasRule_rolesRule first names,
            Policy.hasRule_rolesRule second names⟩
      · intro first second looks
        rw [World.look_of_objects looks.2]
        exact .refl _

/-- Whatever turns a field still gets, it comes to an outcome. -/
inductive Standing.Heads (alike : World → Prop) (outcome : Except Stop Value) :
    Standing → Prop where
  | settled {result : Value} :
      (∀ later, alike later → runFrom result.await later = (outcome, later)) →
      Heads alike outcome (.settled result)
  | ended : Heads alike outcome (.ended outcome)

theorem Comes.heads {alike : World → Prop} {ending given : Except Stop Value}
    (comes : Comes alike ending given) :
    Standing.Heads alike ending (.after .settled given) := by
  cases comes with
  | result awaits => exact .settled awaits
  | stopped isEnding =>
      rw [isEnding]
      exact .ended

/-- A field whose identity is there is resolved or stopped, as its rule says. -/
theorem Guard.Firm.admits {guard : Guard} {world known now : World}
    {context : Value} {selection : Selection} {ending : Except Stop Value}
    (firm : guard.Firm world context)
    (memoized : world.Memoized context known)
    (same : now.objects = known.objects)
    (guarded : isIntrospection selection.call.field = false)
    (steady : Steady (world.Memoized context) selection.next selection.call
      ending)
    (identity : Value) :
    ∃ given after,
      runFrom (do
        guard.authorize (guard.governing world selection.call) identity
          selection.call
        selection.next selection.call) now = (given, after) ∧
      now.Rests after ∧
      Standing.Heads (world.Memoized context)
        (guard.outcomeFor known identity selection ending)
        (.after .settled given) := by
  obtain ⟨events, authorizes⟩ :=
    firm.runFrom_authorize memoized same selection.call identity
  unfold outcomeFor
  rw [if_neg (by simp [guarded])]
  cases ruled : guard.ruling known (guard.governing known selection.call)
      identity with
  | error stop =>
      rw [ruled] at authorizes
      exact ⟨_, _, runFrom_bind_error authorizes, .noted now events, .ended⟩
  | ok _ =>
      rw [ruled] at authorizes
      have memoizedNow : world.Memoized context (now.noted events) :=
        memoized.of_objects same
      obtain ⟨given, visits, gives, comes⟩ := steady _ memoizedNow
      exact ⟨given, _, (runFrom_bind_ok authorizes).trans gives,
        (World.Rests.noted now events).trans (.visited _ visits), comes.heads⟩

end RoleGuard
