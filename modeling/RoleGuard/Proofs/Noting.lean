import RoleGuard.Guard
import RoleGuard.Proofs.Resolution
import RoleGuard.Proofs.Role

/-!
# Computations that only note

Asking a rule about an identity and authorizing a call change nothing but the
journal.  `Notes alike` says this of a computation, and that worlds that are
`alike` see it end in the same way and note the same events; it is closed under
the ways of putting computations together.
-/

namespace RoleGuard

namespace World

/-- The world after further events have been noted. -/
def noted (world : World) (events : Journal) : World :=
  { world with journal := world.journal ++ events }

@[simp] theorem noted_nil (world : World) : world.noted [] = world := by
  simp [noted]

@[simp] theorem noted_noted (world : World) (first second : Journal) :
    (world.noted first).noted second = world.noted (first ++ second) := by
  simp [noted]

end World

/-- A relation between worlds that noting the same events does not disturb. -/
def Lasting (alike : World → World → Prop) : Prop :=
  ∀ world other events, alike world other →
    alike (world.noted events) (other.noted events)

/-- A computation changes nothing but the journal, and worlds that are alike see
it end in the same way and note the same events. -/
def Notes (alike : World → World → Prop) (computation : Act α) : Prop :=
  ∀ world other, alike world other → ∃ ending events,
    runFrom computation world = (ending, world.noted events) ∧
    runFrom computation other = (ending, other.noted events)

namespace Notes

variable {alike : World → World → Prop}

theorem pure (a : α) : Notes alike (pure a : Act α) :=
  fun _ _ _ => ⟨.ok a, [], by simp, by simp⟩

theorem throw (stop : Stop) : Notes alike (throw stop : Act α) :=
  fun world other _ => ⟨.error stop, [],
    (runFrom_throw stop world).trans (by rw [World.noted_nil]),
    (runFrom_throw stop other).trans (by rw [World.noted_nil])⟩

theorem note (event : Event) : Notes alike (Act.note event) :=
  fun _ _ _ => ⟨.ok (), [event], rfl, rfl⟩

/-- What is read is the same in worlds that are alike. -/
theorem read {f : World → α}
    (same : ∀ world other, alike world other → f other = f world) :
    Notes alike (do return f (← get)) := by
  intro world other areAlike
  refine ⟨.ok (f world), [], ?_, ?_⟩
  · rw [World.noted_nil]
    rfl
  · rw [World.noted_nil, ← same world other areAlike]
    rfl

/-- What goes on from a world goes on alike where it is the same for worlds that
are alike. -/
theorem readOn {next : World → Act α}
    (same : ∀ world other, alike world other → next other = next world)
    (goesOn : ∀ world, Notes alike (next world)) :
    Notes alike (do next (← get)) := by
  intro world other areAlike
  obtain ⟨ending, events, ended, endedToo⟩ := goesOn world world other areAlike
  refine ⟨ending, events, ?_, ?_⟩
  · rw [runFrom_bind_ok (runFrom_get world), ended]
  · rw [runFrom_bind_ok (runFrom_get other), same world other areAlike,
      endedToo]

theorem bind {first : Act α} {next : α → Act β} (lasting : Lasting alike)
    (begins : Notes alike first) (goesOn : ∀ a, Notes alike (next a)) :
    Notes alike (first >>= next) := by
  intro world other areAlike
  obtain ⟨ending, events, ended, endedToo⟩ := begins world other areAlike
  cases ending with
  | error stop =>
      exact ⟨.error stop, events, runFrom_bind_error ended,
        runFrom_bind_error endedToo⟩
  | ok a =>
      obtain ⟨ending, more, rest, restToo⟩ :=
        goesOn a _ _ (lasting _ _ events areAlike)
      refine ⟨ending, events ++ more, ?_, ?_⟩
      · rw [runFrom_bind_ok ended, rest, World.noted_noted]
      · rw [runFrom_bind_ok endedToo, restToo, World.noted_noted]

theorem tolerate {operation : Act α} {handler : Fault → Act α}
    (lasting : Lasting alike) (tries : Notes alike operation)
    (handles : ∀ fault, Notes alike (handler fault)) :
    Notes alike (Act.tolerate operation handler) := by
  intro world other areAlike
  obtain ⟨ending, events, ended, endedToo⟩ := tries world other areAlike
  match ending with
  | .ok a =>
      refine ⟨.ok a, events, ?_, ?_⟩
      · rw [Act.runFrom_tolerate, ended]
      · rw [Act.runFrom_tolerate, endedToo]
  | .error (.abort message) =>
      refine ⟨.error (.abort message), events, ?_, ?_⟩
      · rw [Act.runFrom_tolerate, ended]
      · rw [Act.runFrom_tolerate, endedToo]
  | .error (.fault fault) =>
      obtain ⟨ending, more, rest, restToo⟩ :=
        handles fault _ _ (lasting _ _ events areAlike)
      refine ⟨ending, events ++ more, ?_, ?_⟩
      · rw [Act.runFrom_tolerate, ended, ← World.noted_noted]
        exact rest
      · rw [Act.runFrom_tolerate, endedToo, ← World.noted_noted]
        exact restToo

/-- In all worlds like one that is like itself, a computation does what it does
in that world. -/
theorem uniform {computation : Act α} (notes : Notes alike computation)
    {world : World} (itself : alike world world) :
    ∃ ending events, ∀ other, alike world other →
      runFrom computation other = (ending, other.noted events) := by
  obtain ⟨ending, events, ran, _⟩ := notes world world itself
  refine ⟨ending, events, fun other areAlike => ?_⟩
  obtain ⟨ending', events', ran', other'⟩ := notes world other areAlike
  obtain ⟨sameEnding, sameWorld⟩ := Prod.mk.inj (ran.symm.trans ran')
  have sameEvents : events = events' :=
    List.append_cancel_left (congrArg World.journal sameWorld)
  rw [other', sameEnding, sameEvents]

end Notes

/-- Two computations on the journal end in the same way and add the same
events, whatever has been noted before. -/
def Logged.Agree {ε α : Type} (first second : ExceptT ε (StateM Journal) α) :
    Prop :=
  ∃ ending events, ∀ journal,
    runFrom first journal = (ending, journal ++ events) ∧
    runFrom second journal = (ending, journal ++ events)

namespace Logged.Agree

variable {ε α β : Type}

theorem pure (a : α) :
    Agree (pure a : ExceptT ε (StateM Journal) α) (pure a) :=
  ⟨.ok a, [], fun journal => by simp⟩

theorem throw (failure : ε) :
    Agree (throw failure : ExceptT ε (StateM Journal) α) (throw failure) :=
  ⟨.error failure, [], fun journal => by simp⟩

theorem bind {first second : ExceptT ε (StateM Journal) α}
    {next after : α → ExceptT ε (StateM Journal) β}
    (begin : Agree first second) (goOn : ∀ a, Agree (next a) (after a)) :
    Agree (first >>= next) (second >>= after) := by
  obtain ⟨ending, events, ended⟩ := begin
  cases ending with
  | error fault =>
      refine ⟨.error fault, events, fun journal => ⟨?_, ?_⟩⟩
      · exact runFrom_bind_error (ended journal).1
      · exact runFrom_bind_error (ended journal).2
  | ok a =>
      obtain ⟨ending, more, rest⟩ := goOn a
      refine ⟨ending, events ++ more, fun journal => ⟨?_, ?_⟩⟩
      · rw [runFrom_bind_ok (ended journal).1, (rest _).1, List.append_assoc]
      · rw [runFrom_bind_ok (ended journal).2, (rest _).2, List.append_assoc]

end Logged.Agree

theorem Notes.ofLogged {alike : World → World → Prop} {f : World → Logged α}
    (agree : ∀ world other, alike world other → Logged.Agree (f world) (f other)) :
    Notes alike (do Act.ofLogged (f (← get))) := by
  intro world other areAlike
  obtain ⟨ending, events, ended⟩ := agree world other areAlike
  have logged (here : World) (computation : Logged α)
      (ran : runFrom computation here.journal =
        (ending, here.journal ++ events)) :
      runFrom (Act.ofLogged computation) here =
        (ending.mapError .fault, here.noted events) := by
    rw [Act.runFrom_ofLogged, ran]
    cases ending <;> rfl
  exact ⟨ending.mapError .fault, events,
    logged world _ (ended world.journal).1,
    logged other _ (ended other.journal).2⟩

/-- Two values that have the same role as identities: reading it gives the same
and fails in the same way. -/
structure Value.SameRole (identity other : Value) : Prop where
  role : other.role? = identity.role?
  events : other.roleEvents = identity.roleEvents

theorem Value.SameRole.refl (identity : Value) : SameRole identity identity :=
  ⟨rfl, rfl⟩

theorem Value.SameRole.symm {identity other : Value}
    (same : identity.SameRole other) : other.SameRole identity :=
  ⟨same.role.symm, same.events.symm⟩

theorem Value.SameRole.trans {identity other third : Value}
    (first : identity.SameRole other) (second : other.SameRole third) :
    identity.SameRole third :=
  ⟨second.role.trans first.role, second.events.trans first.events⟩

theorem agree_roleOf {identity other : Value}
    (same : identity.SameRole other) :
    Logged.Agree (roleOf identity) (roleOf other) := by
  refine ⟨.ok identity.role?, identity.roleEvents, fun journal => ⟨?_, ?_⟩⟩
  · exact runFrom_roleOf identity journal
  · rw [runFrom_roleOf, same.role, same.events]

namespace Rule

mutual

/-- Of an identity a rule sees the role only. -/
theorem agree_evaluate {identity other : Value}
    (same : identity.SameRole other) (rule : Rule) :
    Logged.Agree (rule.evaluate identity) (rule.evaluate other) := by
  cases rule with
  | constant said => exact .pure said
  | role name => exact (agree_roleOf same).bind fun role => .pure _
  | anyOf rules => exact (agree_evaluateAny same rules).bind fun holds => .pure _
  | unimplemented => exact .throw _
  | explode message => exact .throw _
  | answer v => exact .pure v

theorem agree_evaluateAny {identity other : Value}
    (same : identity.SameRole other) (rules : List Rule) :
    Logged.Agree (evaluateAny rules identity) (evaluateAny rules other) := by
  cases rules with
  | nil => exact .pure false
  | cons rule rules =>
      rw [evaluateAny, evaluateAny]
      apply (agree_evaluate same rule).bind
      intro answer
      split
      · exact .pure true
      · exact agree_evaluateAny same rules

end

end Rule

/-- A value is a rule, or an object that holds one. -/
inductive Value.HasRule (r : Rule) : Value → Prop where
  | rule : HasRule r (.rule r)
  | object (number : Nat) : HasRule r (.object number (.rule r))

/-- What holds a rule shows it, with what it holds brought up to date. -/
theorem World.hasRule_refresh {world : World} {v : Value} {r : Rule}
    (holds : world.held v = .rule r) :
    ∃ now, (world.refresh v).HasRule now ∧
      (now = r ∨ ∃ object, now = r.replaceObjects object) := by
  cases v with
  | object number last =>
      have refreshed : world.refresh (.object number last) =
          .object number
            (world.refreshWithin world.objects.length [number] (.rule r)) :=
        congrArg (fun now => Value.object number
          (world.refreshWithin world.objects.length [number] now)) holds
      rw [refreshed]
      cases world.objects.length with
      | zero => exact ⟨r, .object number, .inl rfl⟩
      | succ depth => exact ⟨_, .object number, .inr ⟨_, rfl⟩⟩
  | rule given =>
      cases holds
      exact ⟨_, .rule, .inr ⟨_, rfl⟩⟩
  | _ => cases holds

theorem callValue_of_isRule {rule : Value} (isRule : rule.isRule = true)
    (identity : Value) :
    callValue rule identity = callSimply rule identity := by
  unfold callValue
  split
  · rename_i isNamed
    simp [Value.isRule, isNamed] at isRule
  · rfl

/-- Asking a rule asks it as it stands about the identity as it stands. -/
theorem runFrom_callValue_rule {rule identity : Value} {r : Rule}
    {world : World} (isRule : rule.isRule = true)
    (holds : (world.refresh rule).HasRule r) :
    runFrom (callValue rule identity) world =
      runFrom (Act.ofLogged (r.evaluate (world.look identity))) world := by
  rw [callValue_of_isRule isRule, callSimply,
    runFrom_bind_ok (Act.runFrom_refresh rule world)]
  have leaf : (world.refresh rule).callBy Act.caller identity =
      Act.caller.leaf (.rule r) identity := by
    generalize world.refresh rule = now at holds
    cases holds <;> simp only [Value.callBy]
  rw [leaf]
  exact runFrom_bind_ok (Act.runFrom_look identity world)

/-- Asking a rule only notes in worlds that show the same rule and the same role
of the identity. -/
theorem Notes.callValue_rule {alike : World → World → Prop}
    {rule identity : Value} (isRule : rule.isRule = true)
    (shows : ∀ world other, alike world other → ∃ r,
      (world.refresh rule).HasRule r ∧ (other.refresh rule).HasRule r)
    (roles : ∀ world other, alike world other →
      (world.look identity).SameRole (other.look identity)) :
    Notes alike (callValue rule identity) := by
  intro world other areAlike
  obtain ⟨r, shown, shownToo⟩ := shows world other areAlike
  rw [runFrom_callValue_rule isRule shown,
    runFrom_callValue_rule isRule shownToo]
  have notes : Notes alike (do
      Act.ofLogged (r.evaluate (← Act.look identity)) : Act Value) :=
    Notes.ofLogged fun world other areAlike =>
      r.agree_evaluate (roles world other areAlike)
  exact notes world other areAlike

/-- Whether a rule's answer for an identity is true. -/
def verdict (rule identity : Value) : Act Bool := do
  return (← Act.look (← callValue rule identity)).truthy

/-- What refers to no object looks the same in every world. -/
theorem World.look_of_closed {v : Value}
    (closed : ∀ object, v.replaceObjects object = v) (world : World) :
    world.look v = v := by
  cases v with
  | object number last =>
      -- it would be replaced by whatever replaces objects
      cases closed fun _ _ => .null
  | _ => rfl

/-- A rule that refers to no object. -/
def Rule.Closed (r : Rule) : Prop :=
  ∀ object, r.replaceObjects object = r

/-- What holds such a rule shows it as it is. -/
theorem Rule.Closed.hasRule {r : Rule} (closed : r.Closed) {world : World}
    {v : Value} (holds : world.held v = .rule r) :
    (world.refresh v).HasRule r := by
  obtain ⟨now, shown, isNow⟩ := World.hasRule_refresh holds
  have same : now = r := by
    rcases isNow with same | ⟨object, replaced⟩
    · exact same
    · exact replaced.trans (closed object)
  rw [← same]
  exact shown

/-- Its answers refer to no object either. -/
theorem Rule.Closed.look_answer {r : Rule} (closed : r.Closed)
    {identity answer : Value} {journal after : Journal}
    (answers : runFrom (r.evaluate identity) journal = (.ok answer, after))
    (world : World) : world.look answer = answer := by
  cases r with
  | constant said =>
      cases answers
      exact World.look_of_closed
        (fun object => Rule.constant.inj (closed object)) world
  | answer v =>
      cases answers
      exact World.look_of_closed
        (fun object => Rule.answer.inj (closed object)) world
  | role name =>
      rw [evaluate] at answers
      obtain ⟨role, between, _, returns⟩ := runFrom_bind_eq_ok answers
      cases returns
      rfl
  | anyOf rules =>
      rw [evaluate] at answers
      obtain ⟨holds, between, _, returns⟩ := runFrom_bind_eq_ok answers
      cases returns
      rfl
  | unimplemented => cases answers
  | explode message => cases answers

theorem runFrom_verdict_closed {rule identity : Value} {r : Rule}
    {world : World} (isRule : rule.isRule = true)
    (holds : world.held rule = .rule r) (closed : r.Closed) :
    runFrom (verdict rule identity) world =
      runFrom (Act.ofLogged (do
        return (← r.evaluate (world.look identity)).truthy)) world := by
  rw [verdict, runFrom_bind,
    runFrom_callValue_rule isRule (closed.hasRule holds),
    Act.runFrom_ofLogged, Act.runFrom_ofLogged, runFrom_bind]
  cases asked : runFrom (r.evaluate (world.look identity)) world.journal with
  | mk ending journal =>
      cases ending with
      | error fault => rfl
      | ok answer =>
          have looks := closed.look_answer asked { world with journal }
          change (Except.ok (({ world with journal } : World).look
            answer).truthy, _) = _
          rw [looks]
          rfl

/-- Authorizing a call only notes, if asking the rule does. -/
theorem Guard.notes_authorize {alike : World → World → Prop}
    (guard : Guard) {rule identity : Value} (call : FieldCall)
    (lasting : Lasting alike) (asks : Notes alike (verdict rule identity))
    (roles : ∀ world other, alike world other →
      (world.look identity).SameRole (other.look identity))
    (debugs : ∀ world other, alike world other →
      (other.look guard.debug).truthy = (world.look guard.debug).truthy)
    (messages : ∀ world other, alike world other →
      other.refresh guard.fallbackError = world.refresh guard.fallbackError) :
    Notes alike (guard.authorize rule identity call) := by
  have allows : Notes alike (guard.allows rule identity call) := by
    apply Notes.tolerate lasting asks
    intro fault
    have passes : Notes alike
        (do return (← Act.look guard.debug).truthy : Act Bool) :=
      Notes.read debugs
    have handled : Notes alike (do
        if ← (do return (← Act.look guard.debug).truthy : Act Bool) then
          Act.fail fault
        else
          Act.note (.ruleFailed call.type call.field fault)
          return false : Act Bool) := by
      apply passes.bind lasting
      intro isDebug
      split
      · exact .throw _
      · exact (Notes.note _).bind lasting fun _ => .pure false
    exact handled
  apply allows.bind lasting
  intro isAllowed
  split
  · exact .pure ()
  · have read : Notes alike
        (do Act.ofLogged (roleOf (← Act.look identity)) : Act (Option String)) :=
      Notes.ofLogged fun world other areAlike =>
        agree_roleOf (roles world other areAlike)
    have denied : Notes alike (do
        let role ← (do Act.ofLogged (roleOf (← Act.look identity)) :
          Act (Option String))
        Act.note (.accessDenied call.type call.field role)
        (Act.fail (.denied
          (Denial.ofMessage (← Act.refresh guard.fallbackError))) :
            Act Unit)) := by
      apply read.bind lasting
      intro role
      apply (Notes.note _).bind lasting
      intro _
      apply (Notes.read messages).bind lasting
      exact fun message => .throw _
    exact denied

end RoleGuard
