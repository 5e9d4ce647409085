import RoleGuard.Proofs.Clearing
import RoleGuard.Proofs.Interleaving
import RoleGuard.Proofs.ReadingBack

/-!
# What a resolution leaves behind

A resolution touches nothing of its context but the memo.  `Identity.Unwritten`
lists the ways in which it does not even write the memo and leaves the context
as it is; in every other case the context has the memo of just this resolution
afterwards.
-/

namespace RoleGuard

/-- A value has a memo where it takes one: as an entry if it is a writable
mapping, and otherwise as an attribute, whatever it is read from. -/
def Value.HasMemo (v memo : Value) : Prop :=
  match v with
  | .map entries => find? entries (.text memoKey) = some memo
  | v => ∀ holder, attributeOf holder v memoKey = .ok memo

theorem Value.Writes.hasMemo {memo v written : Value}
    (writes : Writes memoKey memo v written) : written.HasMemo memo := by
  by_cases isMap : ∃ entries, v = .map entries
  · obtain ⟨entries, rfl⟩ := isMap
    cases writes with
    | map => exact find?_insert (same_text_iff.mpr rfl) entries memo
    | bare extensible => cases extensible
    | part isPart => cases isPart
  · have stored := writes.attributeOf_eq fun entries same =>
      isMap ⟨entries, same⟩
    cases writes with
    | map entries => exact absurd ⟨entries, rfl⟩ isMap
    | part isPart =>
        rw [writeRulePart_memoKey] at isPart
        cases isPart
    | _ => exact stored

/-- A context is left as it is. -/
structure World.Leaves (context : Value) (before after : World) : Prop where
  held : after.held context = before.held context
  stored : before.objects.length ≤ after.objects.length

theorem World.Leaves.of_objects {context : Value} {before between after : World}
    (leaves : before.Leaves context between)
    (same : after.objects = between.objects) : before.Leaves context after where
  held := (World.held_of_objects same context).trans leaves.held
  stored := by
    rw [same]
    exact leaves.stored

namespace Identity

variable {call : Value → Value → Act Value}

/-- What a source answers: what it returns, or no identity if it fails. -/
inductive Answers (call : Value → Value → Act Value) (source context : Value)
    (world : World) : Value → World → Prop where
  | returned {answer : Value} {called : World} :
      runFrom (call source context) world = (.ok answer, called) →
      Answers call source context world answer called
  | failed {fault : Fault} {called : World} :
      runFrom (call source context) world = (.error (.fault fault), called) →
      Answers call source context world .null
        { called with journal := called.journal ++ [.resolverFailed fault] }

/-- Why a resolution writes no memo: the context cannot be read, the source is
none that can be called, the memo matches, the source aborts, its answer waits
and no event loop runs, or the context refuses to be written. -/
inductive Unwritten (call : Value → Value → Act Value) (world : World)
    (context key resolver : Value) (operation : Option String) : Prop where
  | unread {fault : Fault} :
      sourceIn world context key resolver = .error fault →
      Unwritten call world context key resolver operation
  | notCallable {source : Value} :
      sourceIn world context key resolver = .ok source →
      source.isCallable = false →
      Unwritten call world context key resolver operation
  | memoUnread {source : Value} {fault : Fault} :
      sourceIn world context key resolver = .ok source →
      source.isCallable = true →
      (world.look context).read (.text memoKey) .null = .error fault →
      Unwritten call world context key resolver operation
  | matched {source memo who : Value} :
      sourceIn world context key resolver = .ok source →
      source.isCallable = true →
      (world.look context).read (.text memoKey) .null = .ok memo →
      memo.recall source operation = some who →
      Unwritten call world context key resolver operation
  | aborted {source : Value} {message : String} {called : World} :
      course world context key resolver operation = .invoking source →
      runFrom (call source context) world = (.error (.abort message), called) →
      Unwritten call world context key resolver operation
  | handedOn {source answer : Value} {called : World} :
      course world context key resolver operation = .invoking source →
      Answers call source context world answer called →
      (called.look answer).isPending = true → called.loopRunning = false →
      Unwritten call world context key resolver operation
  | refused {source answer who : Value} {called : World} {fault : Fault} :
      course world context key resolver operation = .invoking source →
      Answers call source context world answer called →
      Gives called answer who →
      (called.held context).write (.text memoKey) (.memo source operation who) =
        .error fault →
      Unwritten call world context key resolver operation

/-- A resolution that returns what its source gives, and whose context has the
memo of it afterwards.  A context that retains what it takes gives the memo
back. -/
inductive Written (call : Value → Value → Act Value) (world : World)
    (context key resolver : Value) (operation : Option String) :
    Except Stop Value → World → Prop where
  | intro {source answer who : Value} {called after : World} :
      course world context key resolver operation = .invoking source →
      Answers call source context world answer called →
      Gives called answer who →
      (after.held context).HasMemo (.memo source operation who) →
      ((after.held context).retains = true → ∀ default,
        (after.look context).read (.text memoKey) default =
          .ok (.memo source operation who)) →
      Written call world context key resolver operation (.ok who) after

section

variable {source context answer : Value} {world called : World}

theorem Answers.runFrom_withoutFailure
    (answers : Answers call source context world answer called) :
    runFrom (withoutFailure (call source context)) world =
      (.ok answer, called) := by
  cases answers with
  | returned ended => rw [Identity.runFrom_withoutFailure, ended]
  | failed ended => rw [Identity.runFrom_withoutFailure, ended]

theorem Answers.objects_eq
    (answers : Answers call source context world answer called) :
    called.objects = (runFrom (call source context) world).2.objects := by
  cases answers with
  | returned ended => rw [ended]
  | failed ended => rw [ended]

theorem runFrom_withoutFailure_aborts {operation : Act Value}
    {message : String}
    (aborts : runFrom operation world = (.error (.abort message), called)) :
    runFrom (withoutFailure operation) world =
      (.error (.abort message), called) := by
  rw [Identity.runFrom_withoutFailure, aborts]

/-- A source answers or aborts. -/
theorem answers_or_aborts (call : Value → Value → Act Value)
    (source context : Value) (world : World) :
    (∃ answer called, Answers call source context world answer called) ∨
      ∃ message called,
        runFrom (call source context) world =
          (.error (.abort message), called) := by
  cases ended : runFrom (call source context) world with
  | mk ending called =>
      cases ending with
      | ok answer => exact .inl ⟨answer, called, .returned ended⟩
      | error stop =>
          cases stop with
          | fault fault => exact .inl ⟨.null, _, .failed ended⟩
          | abort message => exact .inr ⟨message, called, rfl⟩

/-- What is given for an answer is remembered, unless the answer waits and no
event loop runs. -/
theorem Gives.runFrom_keep {who : Value} (gives : Gives called answer who)
    (context source : Value) (operation : Option String) :
    (∃ kept, kept.objects = called.objects ∧
      runFrom (keep context source operation answer) called =
        runFrom (do
          remember context (.memo source operation who)
          return who) kept) ∨
      (called.look answer).isPending = true ∧ called.loopRunning = false ∧
        runFrom (keep context source operation answer) called =
          (.ok who, called) := by
  cases gives with
  | answer settled =>
      exact .inl ⟨called, rfl,
        runFrom_keep_answer context source operation settled⟩
  | coroutine waits stopped =>
      have isPending : (called.look answer).isPending = true := by
        unfold Value.isPending
        rw [waits]
      exact .inr ⟨isPending, stopped,
        runFrom_keep_coroutine context source operation waits stopped⟩
  | task waits running =>
      exact .inl ⟨scheduled called _, rfl,
        runFrom_keep_task context source operation waits running⟩

end

section

variable {context key resolver : Value} {operation : Option String}
  {world : World}

/-- Whatever is invoked for a context, at most the memo is written after it. -/
theorem objects_resolveBy (call : Value → Value → Act Value)
    (context key resolver : Value) (operation : Option String)
    (world : World) :
    (runFrom (resolveBy call context key resolver operation) world).2 = world ∨
      ∃ source, course world context key resolver operation =
          .invoking source ∧
        ((runFrom (resolveBy call context key resolver operation)
              world).2.objects =
            (runFrom (call source context) world).2.objects ∨
          ∃ (kept : World) (memo written : Value),
            kept.objects = (runFrom (call source context) world).2.objects ∧
            (kept.held context).write (.text memoKey) memo = .ok written ∧
            (runFrom (resolveBy call context key resolver operation) world).2 =
              kept.replace context written) := by
  rw [runFrom_resolveBy]
  cases goes : course world context key resolver operation with
  | stopped fault => exact .inl rfl
  | given who => exact .inl rfl
  | recalled source who => exact .inl rfl
  | invoking source =>
      refine .inr ⟨source, rfl, ?_⟩
      simp only
      rcases answers_or_aborts call source context world with
        ⟨answer, called, answers⟩ | ⟨message, called, aborts⟩
      · obtain ⟨who, kept, _, same, ended⟩ :=
          runFrom_keep context source operation answer called
        have sameKept := same.trans answers.objects_eq
        rw [runFrom_bind_ok answers.runFrom_withoutFailure]
        rcases ended with remembers | ⟨_, _, handedOn⟩
        · rw [remembers, runFrom_rememberAs]
          split
          · rename_i written writes
            exact .inr ⟨kept, _, written, sameKept, writes, rfl⟩
          · split
            · exact .inl sameKept
            · exact .inl sameKept
        · rw [handedOn]
          exact .inl sameKept
      · rw [runFrom_bind_error (runFrom_withoutFailure_aborts aborts), aborts]
        exact .inl rfl

/-- A resolution that writes no memo leaves its context as it is. -/
theorem Unwritten.held_eq
    (unwritten : Unwritten call world context key resolver operation)
    (leaves : ∀ source, course world context key resolver operation =
      .invoking source →
        world.Leaves context (runFrom (call source context) world).2) :
    (runFrom (resolveBy call context key resolver operation) world).2.held
        context = world.held context := by
  rw [runFrom_resolveBy]
  cases unwritten with
  | @unread fault asks =>
      have goes : course world context key resolver operation =
          .stopped fault := by
        rw [course, asks]
      rw [goes]
  | @notCallable source asks notCallable =>
      have goes : course world context key resolver operation =
          .given source := by
        rw [course, asks]
        simp only [notCallable, Bool.false_eq_true, if_false]
      rw [goes]
  | memoUnread asks callable fails =>
      have goes := course_of_callable asks callable operation
      rw [fails] at goes
      rw [goes]
  | matched asks callable reads recalls =>
      have goes := course_of_callable asks callable operation
      rw [reads] at goes
      simp only [recalls] at goes
      rw [goes]
  | aborted goes aborts =>
      have left := (leaves _ goes).held
      rw [aborts] at left
      rw [goes]
      simp only
      rw [runFrom_bind_error (runFrom_withoutFailure_aborts aborts)]
      exact left
  | handedOn goes answers waits stopped =>
      obtain ⟨awaitable, isPending⟩ := content_of_isPending waits
      rw [goes]
      simp only
      rw [runFrom_bind_ok answers.runFrom_withoutFailure,
        runFrom_keep_coroutine context _ operation isPending stopped]
      exact ((leaves _ goes).of_objects answers.objects_eq).held
  | refused goes answers gives refuses =>
      have left := ((leaves _ goes).of_objects answers.objects_eq).held
      rw [goes]
      simp only
      rw [runFrom_bind_ok answers.runFrom_withoutFailure]
      rcases gives.runFrom_keep context _ operation with
        ⟨kept, same, remembers⟩ | ⟨_, _, handedOn⟩
      · have heldKept := World.held_of_objects same context
        rw [remembers, runFrom_rememberAs, heldKept, refuses]
        simp only
        split
        · exact heldKept.trans left
        · exact heldKept.trans left
      · rw [handedOn]
        exact left

/-- A context in the store has the memo that it is given. -/
theorem written_of_write {source answer who written : Value}
    {called kept : World}
    (goes : course world context key resolver operation = .invoking source)
    (answers : Answers call source context world answer called)
    (gives : Gives called answer who) (hosts : kept.Hosts context)
    (writes : (kept.held context).write (.text memoKey)
      (.memo source operation who) = .ok written) :
    Written call world context key resolver operation (.ok who)
      (kept.replace context written) := by
  have taken := Value.writes_of_write writes
  have holds := hosts.held_replace writes
  refine .intro goes answers gives ?_ ?_
  · rw [holds]
    exact taken.hasMemo
  · intro retained default
    obtain ⟨number, last, rfl, stored⟩ := hosts.stored_of_write writes
    rw [holds, taken.retains_eq] at retained
    rw [World.look_replace_stored stored]
    exact taken.read_retained retained number default

theorem written_of_invoking {source : Value} (hosts : world.Hosts context)
    (leaves : world.Leaves context (runFrom (call source context) world).2)
    (goes : course world context key resolver operation = .invoking source)
    (notUnwritten : ¬ Unwritten call world context key resolver operation) :
    Written call world context key resolver operation
      (runFrom (resolveBy call context key resolver operation) world).1
      (runFrom (resolveBy call context key resolver operation) world).2 := by
  rcases answers_or_aborts call source context world with
    ⟨answer, called, answers⟩ | ⟨message, called, aborts⟩
  · obtain ⟨who, kept, gives, same, ended⟩ :=
      runFrom_keep context source operation answer called
    have heldKept := World.held_of_objects same context
    have hostsKept : kept.Hosts context := by
      apply hosts.of_length
      rw [same]
      exact (leaves.of_objects answers.objects_eq).stored
    rw [runFrom_resolveBy, goes]
    simp only
    rw [runFrom_bind_ok answers.runFrom_withoutFailure]
    rcases ended with remembers | ⟨waits, stopped, _⟩
    · rw [remembers, runFrom_rememberAs]
      cases writes : (kept.held context).write (.text memoKey)
          (.memo source operation who) with
      | ok written => exact written_of_write goes answers gives hostsKept writes
      | error fault =>
          rw [heldKept] at writes
          exact absurd (.refused goes answers gives writes) notUnwritten
    · exact absurd (.handedOn goes answers waits stopped) notUnwritten
  · exact absurd (.aborted goes aborts) notUnwritten

/-- Any other resolution returns, and its context has the memo of it. -/
theorem written_of_not_unwritten (hosts : world.Hosts context)
    (leaves : ∀ source, course world context key resolver operation =
      .invoking source →
        world.Leaves context (runFrom (call source context) world).2)
    (notUnwritten : ¬ Unwritten call world context key resolver operation) :
    Written call world context key resolver operation
      (runFrom (resolveBy call context key resolver operation) world).1
      (runFrom (resolveBy call context key resolver operation) world).2 := by
  cases asks : sourceIn world context key resolver with
  | error fault => exact absurd (.unread asks) notUnwritten
  | ok source =>
      have callable : source.isCallable = true := by
        rw [← Bool.not_eq_false]
        exact fun notCallable =>
          notUnwritten (.notCallable asks notCallable)
      have goes := course_of_callable asks callable operation
      cases reads : (world.look context).read (.text memoKey) .null with
      | error fault =>
          exact absurd (.memoUnread asks callable reads) notUnwritten
      | ok memo =>
          rw [reads] at goes
          cases recalls : memo.recall source operation with
          | some who =>
              exact absurd (.matched asks callable reads recalls) notUnwritten
          | none =>
              simp only [recalls] at goes
              exact written_of_invoking hosts (leaves source goes) goes
                notUnwritten

end

end Identity

/-- A step that resolves an identity or awaits a value. -/
def Step.Resolves : Step → Prop
  | .resolve _ _ _ _ | .await _ => True
  | _ => False

/-- A moment at which the source that is invoked leaves a context as it is. -/
def Moment.Leaves (call : Value → Value → Act Value) (context : Value)
    (moment : Moment) : Prop :=
  ∀ target key resolver operation source,
    moment.step = .resolve target key resolver operation →
    Identity.course moment.before target key resolver operation =
      .invoking source →
    moment.before.Leaves context (runFrom (call source target) moment.before).2

/-- A context whose memo may have changed and nothing else. -/
structure World.Besides (context : Value) (before after : World) : Prop where
  agrees : Value.AgreesBeside [.text memoKey] (before.held context)
    (after.held context)
  fits : (before.held context).FitsSlots → (after.held context).FitsSlots
  stored : before.objects.length ≤ after.objects.length

namespace World.Besides

variable {context : Value} {before between after : World}

theorem trans (first : before.Besides context between)
    (second : between.Besides context after) :
    before.Besides context after where
  agrees := first.agrees.trans second.agrees
  fits := second.fits ∘ first.fits
  stored := Nat.le_trans first.stored second.stored

theorem of_leaves (leaves : before.Leaves context after) :
    before.Besides context after where
  agrees := by
    rw [leaves.held]
    exact .refl _ _
  fits := by
    rw [leaves.held]
    exact id
  stored := leaves.stored

theorem of_objects (same : after.objects = before.objects) :
    before.Besides context after :=
  of_leaves ⟨World.held_of_objects same context, Nat.le_of_eq (by rw [same])⟩

/-- Writing the memo into a context touches nothing but the memo of any. -/
theorem of_write {target memo written : Value}
    (fits : (before.held context).FitsSlots)
    (writes : (before.held target).write (.text memoKey) memo = .ok written) :
    before.Besides context (before.replace target written) := by
  have itself : (Value.text memoKey).same (.text memoKey) = true :=
    Value.same_text_iff.mpr rfl
  have stored : before.objects.length ≤
      (before.replace target written).objects.length :=
    Nat.le_of_eq (before.length_replace target written).symm
  rcases before.held_replace target written context with
    same | ⟨isWritten, same⟩
  · exact of_leaves ⟨same, stored⟩
  · rw [← same] at writes
    refine ⟨?_, ?_, stored⟩
    · rw [isWritten]
      exact (Value.alters_of_write itself fits writes).agreesBeside
    · rw [isWritten]
      exact fun _ => fits.write writes

end World.Besides

section

variable {call : Value → Value → Act Value} {context : Value}

/-- A step touches nothing of a context but the memo. -/
theorem Step.besides {world : World} {step : Step} (resolves : step.Resolves)
    (fits : (world.held context).FitsSlots)
    (leaves : (step.moment call world).Leaves call context) :
    world.Besides context (step.moment call world).after := by
  cases step with
  | await v => exact .of_objects (Value.keeps_await still_objects v world)
  | resolve target key resolver operation =>
      change world.Besides context (runFrom
        (Identity.resolveBy call target key resolver operation) world).2
      rcases Identity.objects_resolveBy call target key resolver operation
        world with same | ⟨source, goes, same | ⟨kept, memo, written, same,
          writes, isWritten⟩⟩
      · rw [same]
        exact .of_objects rfl
      · have left := leaves target key resolver operation source rfl goes
        exact .of_leaves (left.of_objects same)
      · have left := leaves target key resolver operation source rfl goes
        have leftKept := World.Besides.of_leaves (left.of_objects same)
        rw [isWritten]
        exact leftKept.trans (.of_write (leftKept.fits fits) writes)
  | _ => cases resolves

/-- Steps touch nothing of a context but the memo. -/
theorem besides_history {world : World} {steps : List Step}
    (resolve : ∀ step ∈ steps, step.Resolves)
    (fits : (world.held context).FitsSlots)
    (leaves : ∀ moment ∈ history call world steps,
      moment.Leaves call context) :
    ∀ moment ∈ history call world steps,
      world.Besides context moment.before ∧
        world.Besides context moment.after := by
  induction steps generalizing world with
  | nil => exact fun _ member => absurd member List.not_mem_nil
  | cons step steps ih =>
      have first := Step.besides (resolve step List.mem_cons_self) fits
        (leaves _ List.mem_cons_self)
      intro moment member
      rcases List.mem_cons.mp member with rfl | later
      · exact ⟨.of_objects rfl, first⟩
      · obtain ⟨before, after⟩ := ih
          (fun other isLater => resolve other (List.mem_cons_of_mem _ isLater))
          (first.fits fits)
          (fun other isLater => leaves other (List.mem_cons_of_mem _ isLater))
          moment later
        exact ⟨first.trans before, first.trans after⟩

/-- The footprint of a moment in a context: beside the memo the context gives
what it gave at the start; a resolution on it that writes no memo leaves it as
it was, and any other one returns and leaves its own memo. -/
structure Moment.Footprint (call : Value → Value → Act Value)
    (start : World) (context : Value) (moment : Moment) : Prop where
  beside : Value.AgreesBeside [.text memoKey] (start.held context)
    (moment.after.held context)
  unwritten : ∀ key resolver operation,
    moment.step = .resolve context key resolver operation →
    Identity.Unwritten call moment.before context key resolver operation →
    moment.after.held context = moment.before.held context
  written : ∀ key resolver operation,
    moment.step = .resolve context key resolver operation →
    ¬ Identity.Unwritten call moment.before context key resolver operation →
    Identity.Written call moment.before context key resolver operation
      moment.outcome moment.after

/-- The steps of a history leave no more than their footprints in a context. -/
def LeavesFootprints (call : Value → Value → Act Value) (world : World)
    (steps : List Step) (context : Value) : Prop :=
  ∀ moment ∈ history call world steps, moment.Footprint call world context

/-- A moment of a history starts as it says. -/
theorem eq_moment_of_mem_history {world : World} {steps : List Step}
    {moment : Moment} (member : moment ∈ history call world steps) :
    moment = moment.step.moment call moment.before := by
  induction steps generalizing world with
  | nil => cases member
  | cons step steps ih =>
      rcases List.mem_cons.mp member with rfl | later
      · rfl
      · exact ih later

/-- Resolutions touch nothing of a context but the memo, and write it exactly if
nothing stands against it. -/
theorem footprint_history {world : World} {steps : List Step}
    (hosts : world.Hosts context) (fits : (world.held context).FitsSlots)
    (resolve : ∀ step ∈ steps, step.Resolves)
    (leaves : ∀ moment ∈ history call world steps,
      moment.Leaves call context) :
    LeavesFootprints call world steps context := by
  intro moment member
  obtain ⟨before, after⟩ := besides_history resolve fits leaves moment member
  have runs := eq_moment_of_mem_history member
  constructor
  case beside => exact after.agrees
  case unwritten =>
    intro key resolver operation isStep unwritten
    have left := fun source =>
      leaves moment member context key resolver operation source isStep
    rw [runs, isStep]
    exact unwritten.held_eq left
  case written =>
    intro key resolver operation isStep notUnwritten
    have left := fun source =>
      leaves moment member context key resolver operation source isStep
    rw [runs, isStep]
    exact Identity.written_of_not_unwritten (hosts.of_length before.stored) left
      notUnwritten

end

/-- What an application has registered leaves every context as it is. -/
theorem leaves_callValue_resolver (index : Nat) (likeness : Option String)
    (target context : Value) (world : World) :
    world.Leaves context
      (runFrom (callValue (.resolver index likeness) target) world).2 := by
  have same := objects_callValue_resolver index likeness target world
  exact ⟨World.held_of_objects same context, Nat.le_of_eq (by rw [same])⟩

theorem footprint_turns :
    LeavesFootprints callValue turnsWorld turns (.object 0 (.map [])) := by
  have hosts : turnsWorld.Hosts (.object 0 (.map [])) := Nat.zero_lt_one
  refine footprint_history hosts trivial ?_ ?_
  · intro step member
    obtain ⟨operation, _, rfl⟩ := List.mem_map.mp member
    trivial
  · intro moment member target key resolver operation source isStep goes
    simp only [turns, List.map_cons, List.map_nil, history, List.mem_cons,
      List.not_mem_nil, or_false] at member
    rcases member with rfl | rfl | rfl
    all_goals
      cases isStep
      cases goes
      exact leaves_callValue_resolver 0 none _ _ _

end RoleGuard
