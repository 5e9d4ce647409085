import RoleGuard.Proofs.History
import RoleGuard.Proofs.Retention

/-!
# Interleaved resolutions

A context keeps one memo only.  When executions that share it take turns, each
resolution of another source or for another operation takes the place of the
memo, and the next one has to invoke its source again.
`Session.resolvedOnce_iff` says exactly when a source is invoked once for an
operation.
-/

namespace RoleGuard

/-- A moment at which a context is asked for the identity that a source gives
for an operation. -/
def Moment.Asks (context source : Value) (operation : Option String)
    (moment : Moment) : Prop :=
  ∃ key resolver,
    moment.step = .resolve context key resolver operation ∧
    Identity.sourceIn moment.before context key resolver = .ok source ∧
    source.isCallable = true

def Moment.Invokes (moment : Moment) : Prop :=
  ∃ context key resolver operation source,
    moment.step = .resolve context key resolver operation ∧
    Identity.course moment.before context key resolver operation =
      .invoking source

def SameRequest (context : Value) (first second : Moment) : Prop :=
  ∃ source operation, first.Asks context source operation ∧
    second.Asks context source operation

/-- Every source is invoked at most once for each operation, and whoever asks
for them gets the same identity. -/
def ResolvedOnce (context : Value) (moments : List Moment) : Prop :=
  ∀ past first between second future,
    moments = past ++ first :: between ++ second :: future →
    SameRequest context first second →
    ¬ (first.Invokes ∧ second.Invokes) ∧
      ∃ who, first.outcome = .ok who ∧ second.outcome = .ok who

/-- Requests are repeated only on a context that gives memos back, and only
while no other request comes in between. -/
def Uninterrupted (gives : Bool) (context : Value) (moments : List Moment) :
    Prop :=
  ∀ past first between second future,
    moments = past ++ first :: between ++ second :: future →
    SameRequest context first second →
    gives = true ∧ ∀ other ∈ between, ∀ source operation,
      other.Asks context source operation → SameRequest context first other

/-- What a context keeps: the identity that a source gave for an operation. -/
structure Kept where
  source : Value
  operation : Option String
  who : Value

/-- Moments as a context that keeps one identity brings them about; `gives` says
whether it gives back what it keeps. -/
inductive Runs (gives : Bool) (context : Value) :
    Option Kept → List Moment → Prop where
  | nil {kept : Option Kept} : Runs gives context kept []
  | idle {kept : Option Kept} {moment : Moment} {rest : List Moment} :
      (∀ source operation, ¬ moment.Asks context source operation) →
      Runs gives context kept rest →
      Runs gives context kept (moment :: rest)
  | recalled {source who : Value} {operation : Option String}
      {moment : Moment} {rest : List Moment} :
      moment.Asks context source operation →
      moment.outcome = .ok who →
      ¬ moment.Invokes →
      Runs gives context (some ⟨source, operation, who⟩) rest →
      Runs gives context (some ⟨source, operation, who⟩) (moment :: rest)
  | invoked {kept : Option Kept} {source who : Value}
      {operation : Option String} {moment : Moment} {rest : List Moment} :
      moment.Asks context source operation →
      moment.outcome = .ok who →
      moment.Invokes →
      (∀ known, kept ≠ some ⟨source, operation, known⟩) →
      Runs gives context
        (if gives then some ⟨source, operation, who⟩ else kept) rest →
      Runs gives context kept (moment :: rest)

section

variable {gives : Bool} {context source : Value} {operation : Option String}
  {kept : Option Kept} {past future : List Moment} {moment : Moment}

theorem Moment.Asks.unique {other : Value} {done : Option String}
    (asks : moment.Asks context source operation)
    (asksOther : moment.Asks context other done) :
    source = other ∧ operation = done := by
  obtain ⟨key, resolver, isStep, gets, _⟩ := asks
  obtain ⟨key', resolver', isStep', gets', _⟩ := asksOther
  cases isStep.symm.trans isStep'
  cases gets.symm.trans gets'
  exact ⟨rfl, rfl⟩

/-- What is asked for without being kept has been invoked by then. -/
theorem Runs.exists_invoked
    (runs : Runs gives context kept (past ++ moment :: future))
    (asks : moment.Asks context source operation)
    (unkept : ∀ who, kept ≠ some ⟨source, operation, who⟩) :
    ∃ earlier first since, past ++ [moment] = earlier ++ first :: since ∧
      first.Asks context source operation ∧ first.Invokes := by
  induction past generalizing kept with
  | nil =>
      cases runs with
      | idle asksNone _ => exact absurd asks (asksNone _ _)
      | recalled asks' _ _ _ =>
          obtain ⟨rfl, rfl⟩ := asks.unique asks'
          exact absurd rfl (unkept _)
      | invoked _ _ invokes _ _ => exact ⟨[], moment, [], rfl, asks, invokes⟩
  | cons head past ih =>
      -- whatever the first moment does, the rest has the invocation, unless the
      -- first moment is the invocation itself
      have later (kept' : Option Kept)
          (rest : Runs gives context kept' (past ++ moment :: future))
          (unkept' : ∀ who, kept' ≠ some ⟨source, operation, who⟩) :
          ∃ earlier first since,
            head :: past ++ [moment] = earlier ++ first :: since ∧
            first.Asks context source operation ∧ first.Invokes := by
        obtain ⟨earlier, first, since, splits, found⟩ := ih rest unkept'
        exact ⟨head :: earlier, first, since, by
          rw [List.cons_append, splits, List.cons_append], found⟩
      cases runs with
      | idle _ rest => exact later _ rest unkept
      | recalled _ _ _ rest => exact later _ rest unkept
      | @invoked _ other who done _ _ asks' _ invokes _ rest =>
          by_cases same : other = source ∧ done = operation
          · obtain ⟨rfl, rfl⟩ := same
            exact ⟨[], head, past ++ [moment], rfl, asks', invokes⟩
          · refine later _ rest fun known isKept => ?_
            split at isKept
            · cases isKept
              exact same ⟨rfl, rfl⟩
            · exact unkept known isKept

theorem Runs.all_invoke {moments : List Moment}
    (runs : Runs false context none moments) :
    ∀ moment ∈ moments, ∀ source operation,
      moment.Asks context source operation → moment.Invokes := by
  induction moments with
  | nil => exact fun _ member => nomatch member
  | cons head rest ih =>
      intro moment member source operation asks
      cases runs with
      | idle asksNone rest =>
          rcases List.mem_cons.mp member with rfl | later
          · exact absurd asks (asksNone _ _)
          · exact ih rest moment later source operation asks
      | invoked _ _ invokes _ rest =>
          rcases List.mem_cons.mp member with rfl | later
          · exact invokes
          · exact ih rest moment later source operation asks

theorem Runs.kept_after
    (runs : Runs true context kept (past ++ moment :: future))
    (asks : moment.Asks context source operation) :
    ∃ who, moment.outcome = .ok who ∧
      Runs true context (some ⟨source, operation, who⟩) future := by
  induction past generalizing kept with
  | nil =>
      cases runs with
      | idle asksNone _ => exact absurd asks (asksNone _ _)
      | recalled asks' returns _ rest =>
          obtain ⟨rfl, rfl⟩ := asks.unique asks'
          exact ⟨_, returns, rest⟩
      | invoked asks' returns _ _ rest =>
          obtain ⟨rfl, rfl⟩ := asks.unique asks'
          exact ⟨_, returns, rest⟩
  | cons head past ih =>
      cases runs with
      | idle _ rest => exact ih rest
      | recalled _ _ _ rest => exact ih rest
      | invoked _ _ _ _ rest => exact ih rest

/-- What is kept is given back as long as nothing else is asked for. -/
theorem Runs.given_back {between : List Moment} {who : Value}
    (runs : Runs true context (some ⟨source, operation, who⟩)
      (between ++ moment :: future))
    (others : ∀ other ∈ between, ∀ otherSource otherOperation,
      other.Asks context otherSource otherOperation →
        other.Asks context source operation)
    (asks : moment.Asks context source operation) :
    ¬ moment.Invokes ∧ moment.outcome = .ok who := by
  induction between with
  | nil =>
      cases runs with
      | idle asksNone _ => exact absurd asks (asksNone _ _)
      | recalled _ returns recalls _ => exact ⟨recalls, returns⟩
      | invoked asks' _ _ unkept _ =>
          obtain ⟨rfl, rfl⟩ := asks.unique asks'
          exact absurd rfl (unkept who)
  | cons head between ih =>
      have othersLater : ∀ other ∈ between, ∀ otherSource otherOperation,
          other.Asks context otherSource otherOperation →
            other.Asks context source operation :=
        fun other member => others other (List.mem_cons_of_mem _ member)
      cases runs with
      | idle _ rest => exact ih rest othersLater
      | recalled _ _ _ rest => exact ih rest othersLater
      | invoked asks' _ _ unkept _ =>
          have asksHead := others head List.mem_cons_self _ _ asks'
          obtain ⟨rfl, rfl⟩ := asksHead.unique asks'
          exact absurd rfl (unkept who)

theorem SameRequest.asks {first second : Moment}
    (same : SameRequest context first second)
    (asks : first.Asks context source operation) :
    second.Asks context source operation := by
  obtain ⟨other, done, asksFirst, asksSecond⟩ := same
  obtain ⟨rfl, rfl⟩ := asks.unique asksFirst
  exact asksSecond

/-- A request that is repeated after another one has come in between is invoked
twice. -/
theorem Runs.invoked_twice {first other second : Moment}
    {before after : List Moment} {otherSource : Value}
    {otherOperation : Option String}
    (runs : Runs true context none
      (past ++ first :: (before ++ other :: after) ++ second :: future))
    (same : SameRequest context first second)
    (asksOther : other.Asks context otherSource otherOperation)
    (different : ¬ SameRequest context first other) :
    ¬ ResolvedOnce context
      (past ++ first :: (before ++ other :: after) ++ second :: future) := by
  obtain ⟨source, operation, asksFirst, asksSecond⟩ := same
  have atFirst : Runs true context none
      (past ++ first :: (before ++ other :: after ++ second :: future)) := by
    simpa using runs
  have atOther : Runs true context none
      ((past ++ first :: before) ++ other :: (after ++ second :: future)) := by
    simpa using runs
  -- one invocation comes up to the first request, the other after the one that
  -- took the place of the memo
  obtain ⟨earlier, invoked, since, splits, asksInvoked, invokes⟩ :=
    atFirst.exists_invoked asksFirst fun _ => nofun
  obtain ⟨who, _, rest⟩ := atOther.kept_after asksOther
  have unkept (known : Value) :
      some (Kept.mk otherSource otherOperation who) ≠
        some ⟨source, operation, known⟩ := by
    intro isKept
    cases isKept
    exact different ⟨_, _, asksFirst, asksOther⟩
  obtain ⟨earlier', invoked', since', splits', asksInvoked', invokes'⟩ :=
    rest.exists_invoked asksSecond unkept
  intro once
  have apart : past ++ first :: (before ++ other :: after) ++
      second :: future =
      earlier ++ invoked :: (since ++ before ++ other :: earlier') ++
        invoked' :: (since' ++ future) := by
    calc
      _ = (past ++ [first]) ++ before ++ other :: (after ++ [second]) ++
          future := by simp
      _ = _ := by
        rw [splits, splits']
        simp
  exact (once _ _ _ _ _ apart
    ⟨source, operation, asksInvoked, asksInvoked'⟩).1 ⟨invokes, invokes'⟩

/-- Every request is resolved once exactly when none is interrupted. -/
theorem Runs.once_iff_uninterrupted {moments : List Moment}
    (runs : Runs gives context none moments) :
    ResolvedOnce context moments ↔ Uninterrupted gives context moments := by
  constructor
  · intro once past first between second future splits same
    have notTwice := (once past first between second future splits same).1
    subst splits
    cases gives with
    | false =>
        -- both requests are invoked, so none may be repeated at all
        obtain ⟨source, operation, asksFirst, asksSecond⟩ := same
        have invokes := runs.all_invoke
        have both := And.intro (invokes first (by simp) _ _ asksFirst)
          (invokes second (by simp) _ _ asksSecond)
        exact absurd both notTwice
    | true =>
        refine ⟨rfl, fun other member otherSource otherOperation asks => ?_⟩
        apply Classical.byContradiction
        intro different
        obtain ⟨before, after, rfl⟩ := List.append_of_mem member
        exact runs.invoked_twice same asks different once
  · intro uninterrupted past first between second future splits same
    obtain ⟨isTrue, others⟩ :=
      uninterrupted past first between second future splits same
    subst isTrue
    obtain ⟨source, operation, asksFirst, asksSecond⟩ := same
    have atFirst : Runs true context none
        (past ++ first :: (between ++ second :: future)) := by
      rw [splits] at runs
      simpa using runs
    obtain ⟨who, returns, rest⟩ := atFirst.kept_after asksFirst
    have othersSame : ∀ other ∈ between, ∀ otherSource otherOperation,
        other.Asks context otherSource otherOperation →
          other.Asks context source operation :=
      fun other member _ _ asks => (others other member _ _ asks).asks asksFirst
    obtain ⟨recalls, returnsAgain⟩ := rest.given_back othersSame asksSecond
    exact ⟨fun both => recalls both.2, who, returns, returnsAgain⟩

end

/-- A world in which a context takes memos and gives under their key what it
gave before. -/
structure World.LeavesMemo (context : Value) (before after : World) :
    Prop where
  stored : before.objects.length ≤ after.objects.length
  accepts : (before.held context).Accepts → (after.held context).Accepts
  retains : (after.held context).retains = (before.held context).retains
  memo : (after.look context).read (.text memoKey) .null =
    (before.look context).read (.text memoKey) .null

theorem World.LeavesMemo.of_objects {before after : World}
    (same : after.objects = before.objects) (context : Value) :
    before.LeavesMemo context after := by
  have held := World.held_of_objects same context
  have look : after.look context = before.look context := by
    cases context with
    | object number last => exact congrArg (Value.object number) held
    | _ => rfl
  refine ⟨Nat.le_of_eq ?_, ?_, ?_, ?_⟩
  · exact congrArg List.length same.symm
  · rw [held]
    exact id
  · rw [held]
  · rw [look]

/-- A moment at which the source that is invoked, if any, does not abort, needs
an event loop only if one is running and leaves the memo of its context
alone. -/
def Moment.Orderly (call : Value → Value → Act Value) (moment : Moment) :
    Prop :=
  ∀ context key resolver operation source ending called,
    moment.step = .resolve context key resolver operation →
    Identity.course moment.before context key resolver operation =
      .invoking source →
    runFrom (call source context) moment.before = (ending, called) →
    (∀ message, ending ≠ .error (.abort message)) ∧
    (∀ answer, ending = .ok answer → (called.look answer).isPending = true →
      called.loopRunning = true) ∧
    moment.before.LeavesMemo context called

/-- Resolutions on one context that takes memos and has none, with awaiting in
between: whatever is asked for is one of some sources, which are equal only to
themselves. -/
structure Session (call : Value → Value → Act Value) (sources : List Value)
    (number : Nat) (carried : Value) (world : World) (steps : List Step) :
    Prop where
  stored : number < world.objects.length
  accepts : (world.held (.object number carried)).Accepts
  unremembered : ∃ v,
    (world.look (.object number carried)).read (.text memoKey) .null = .ok v ∧
    ∀ source operation who, v ≠ .memo source operation who
  distinct : ∀ source ∈ sources, ∀ other ∈ sources,
    source.same other = true ↔ source = other
  asks : ∀ moment ∈ history call world steps,
    (∃ v, moment.step = .await v) ∨ ∃ source ∈ sources, ∃ operation,
      moment.Asks (.object number carried) source operation
  orderly : ∀ moment ∈ history call world steps, moment.Orderly call

structure World.Keeps (world : World) (sources : List Value) (number : Nat)
    (carried : Value) (gives : Bool) (kept : Option Kept) : Prop where
  stored : number < world.objects.length
  accepts : (world.held (.object number carried)).Accepts
  retains : (world.held (.object number carried)).retains = gives
  memo : ∃ memo,
    (world.look (.object number carried)).read (.text memoKey) .null =
      .ok memo ∧
    match kept with
    | none => ∀ source operation who, memo ≠ .memo source operation who
    | some known =>
        memo = .memo known.source known.operation known.who ∧
          known.source ∈ sources

section

variable {call : Value → Value → Act Value} {sources : List Value}
  {number : Nat} {carried : Value} {gives : Bool} {kept : Option Kept}

/-- What is kept is recalled for what it was given for, and for nothing
else. -/
theorem World.Keeps.recall_eq {world : World} {memo source : Value}
    {operation : Option String}
    (distinct : ∀ source ∈ sources, ∀ other ∈ sources,
      source.same other = true ↔ source = other)
    (keeps : world.Keeps sources number carried gives kept)
    (reads : (world.look (.object number carried)).read (.text memoKey) .null =
      .ok memo)
    (member : source ∈ sources) (who : Value) :
    memo.recall source operation = some who ↔
      kept = some ⟨source, operation, who⟩ := by
  obtain ⟨memo', reads', holds⟩ := keeps.memo
  cases reads.symm.trans reads'
  cases kept with
  | none =>
      constructor
      · intro recalls
        obtain ⟨known, isMemo, _⟩ := Identity.eq_memo_of_recall recalls
        exact absurd isMemo (holds known operation who)
      · exact nofun
  | some known =>
      obtain ⟨rfl, knownMember⟩ := holds
      constructor
      · intro recalls
        obtain ⟨other, isMemo, same⟩ := Identity.eq_memo_of_recall recalls
        obtain ⟨knownSource, knownOperation, knownWho⟩ := known
        cases isMemo
        have sameSource : knownSource = source :=
          (distinct _ knownMember _ member).mp same
        subst sameSource
        rfl
      · intro isKept
        cases isKept
        have itself := (distinct source member source member).mpr rfl
        simp [Value.recall, itself]

/-- Writing the memo keeps what was invoked, if the context gives it back. -/
theorem World.Keeps.write {world : World} {source who written : Value}
    {operation : Option String}
    (keeps : world.Keeps sources number carried gives kept)
    (member : source ∈ sources)
    (writes : (world.held (.object number carried)).write (.text memoKey)
      (.memo source operation who) = .ok written) :
    (world.replace (.object number carried) written).Keeps sources number
      carried gives
      (if gives then some ⟨source, operation, who⟩ else kept) := by
  have stored := keeps.stored
  have taken := Value.writes_of_write writes
  have held := World.held_replace_stored stored carried written
  have look := World.look_replace_stored stored carried written
  refine ⟨?_, ?_, ?_, ?_⟩
  · simpa [World.replace] using stored
  · rw [held]
    exact taken.accepts
  · rw [held, taken.retains_eq]
    exact keeps.retains
  · rw [look]
    cases gives with
    | true => exact ⟨_, taken.read_retained keeps.retains number .null, rfl, member⟩
    | false =>
        rw [taken.read_lost keeps.retains number]
        exact keeps.memo

theorem World.Keeps.of_leavesMemo {before after : World}
    (keeps : before.Keeps sources number carried gives kept)
    (leaves : before.LeavesMemo (.object number carried) after) :
    after.Keeps sources number carried gives kept where
  stored := Nat.lt_of_lt_of_le keeps.stored leaves.stored
  accepts := leaves.accepts keeps.accepts
  retains := leaves.retains.trans keeps.retains
  memo := by
    rw [leaves.memo]
    exact keeps.memo

theorem World.Keeps.of_objects {world other : World}
    (keeps : world.Keeps sources number carried gives kept)
    (same : other.objects = world.objects) :
    other.Keeps sources number carried gives kept :=
  keeps.of_leavesMemo (.of_objects same _)

/-- A source that does not abort has an answer, which is none if it fails. -/
theorem exists_answer {operation : Act Value} {world called : World}
    {ending : Except Stop Value}
    (ended : runFrom operation world = (ending, called))
    (contained : ∀ message, ending ≠ .error (.abort message))
    (awaited : ∀ answer, ending = .ok answer →
      (called.look answer).isPending = true → called.loopRunning = true) :
    ∃ answer after,
      runFrom (withoutFailure operation) world = (.ok answer, after) ∧
      after.objects = called.objects ∧
      ((after.look answer).isPending = true → after.loopRunning = true) := by
  rw [Identity.runFrom_withoutFailure, ended]
  cases ending with
  | ok answer => exact ⟨answer, called, rfl, rfl, awaited answer rfl⟩
  | error stop =>
      cases stop with
      | fault fault => exact ⟨.null, _, rfl, rfl, fun waits => nomatch waits⟩
      | abort message => exact absurd rfl (contained message)

/-- A moment either recalls what is kept or invokes its source, and then what it
returns is kept in its place. -/
theorem World.Keeps.moment {world : World} {step : Step} {source : Value}
    {operation : Option String}
    (distinct : ∀ source ∈ sources, ∀ other ∈ sources,
      source.same other = true ↔ source = other)
    (keeps : world.Keeps sources number carried gives kept)
    (member : source ∈ sources)
    (asks : (step.moment call world).Asks (.object number carried) source
      operation)
    (orderly : (step.moment call world).Orderly call) :
    ∃ who, (step.moment call world).outcome = .ok who ∧
      ((kept = some ⟨source, operation, who⟩ ∧
          ¬ (step.moment call world).Invokes ∧
          (step.moment call world).after.Keeps sources number carried gives
            kept) ∨
        ((∀ known, kept ≠ some ⟨source, operation, known⟩) ∧
          (step.moment call world).Invokes ∧
          (step.moment call world).after.Keeps sources number carried gives
            (if gives then some ⟨source, operation, who⟩ else kept))) := by
  obtain ⟨key, resolver, isStep, gets, callable⟩ := asks
  change step = _ at isStep
  subst isStep
  let context := Value.object number carried
  let moment := (Step.resolve context key resolver operation).moment call world
  have getsNow : Identity.sourceIn world context key resolver = .ok source :=
    gets
  have goes := Identity.course_of_callable getsNow callable operation
  obtain ⟨memo, reads, _⟩ := keeps.memo
  have recalls_iff (who : Value) : memo.recall source operation = some who ↔
      kept = some ⟨source, operation, who⟩ :=
    keeps.recall_eq distinct reads member who
  have ended : runFrom (Identity.resolveBy call context key resolver operation)
      world = (moment.outcome, moment.after) := rfl
  rw [Identity.runFrom_resolveBy] at ended
  cases recalls : memo.recall source operation with
  | some who =>
      simp only [context, reads, recalls] at goes
      simp only [context, goes] at ended
      obtain ⟨returned, unchanged⟩ := Prod.mk.inj ended
      refine ⟨who, returned.symm, .inl ⟨(recalls_iff who).mp recalls, ?_, ?_⟩⟩
      · rintro ⟨_, _, _, _, _, isStep, goes'⟩
        cases isStep
        cases goes.symm.trans goes'
      · change moment.after.Keeps sources number carried gives kept
        rw [← unchanged]
        exact keeps
  | none =>
      simp only [context, reads, recalls] at goes
      cases answered : runFrom (call source context) world with
      | mk ending called =>
          obtain ⟨contained, awaited, leaves⟩ := orderly context key resolver
            operation source ending called rfl goes answered
          obtain ⟨answer, after, answers, sameObjects, runs⟩ :=
            exists_answer answered contained awaited
          have keepsAfter := (keeps.of_leavesMemo leaves).of_objects sameObjects
          obtain ⟨who, ready, _, sameReady, remembers | ⟨waits, stopped, _⟩⟩ :=
            Identity.runFrom_keep context source operation answer after
          · have keepsReady := keepsAfter.of_objects sameReady
            obtain ⟨written, writes⟩ :=
              keepsReady.accepts (.memo source operation who)
            rw [Identity.runFrom_rememberAs, writes] at remembers
            simp only [context, goes] at ended
            rw [runFrom_bind_ok answers, remembers] at ended
            obtain ⟨returned, replaced⟩ := Prod.mk.inj ended
            refine ⟨who, returned.symm, .inr ⟨fun known isKept => ?_, ?_, ?_⟩⟩
            · rw [(recalls_iff known).mpr isKept] at recalls
              cases recalls
            · exact ⟨context, key, resolver, operation, source, rfl, goes⟩
            · change moment.after.Keeps sources number carried gives _
              rw [← replaced]
              exact keepsReady.write member writes
          · rw [runs waits] at stopped
            cases stopped

/-- A session runs as a context that keeps one identity. -/
theorem World.Keeps.runs {world : World} {steps : List Step}
    (distinct : ∀ source ∈ sources, ∀ other ∈ sources,
      source.same other = true ↔ source = other)
    (keeps : world.Keeps sources number carried gives kept)
    (asks : ∀ moment ∈ history call world steps,
      (∃ v, moment.step = .await v) ∨ ∃ source ∈ sources, ∃ operation,
        moment.Asks (.object number carried) source operation)
    (orderly : ∀ moment ∈ history call world steps, moment.Orderly call) :
    Runs gives (.object number carried) kept (history call world steps) := by
  induction steps generalizing world kept with
  | nil => exact .nil
  | cons step steps ih =>
      rw [history] at asks orderly ⊢
      have asksLater := fun moment later =>
        asks moment (List.mem_cons_of_mem _ later)
      have orderlyLater := fun moment later =>
        orderly moment (List.mem_cons_of_mem _ later)
      rcases asks _ List.mem_cons_self with
        ⟨v, isStep⟩ | ⟨source, member, operation, asksNow⟩
      · change step = .await v at isStep
        subst isStep
        have awaited : ((Step.await v).moment call world).after.objects =
            world.objects := v.keeps_await still_objects world
        apply Runs.idle
        · rintro source operation ⟨_, _, isResolve, _⟩
          cases isResolve
        · exact ih (keeps.of_objects awaited) asksLater orderlyLater
      · obtain ⟨who, returns, ⟨rfl, recalls, keepsAfter⟩ |
          ⟨unkept, invokes, keepsAfter⟩⟩ :=
          keeps.moment distinct member asksNow (orderly _ List.mem_cons_self)
        · exact .recalled asksNow returns recalls
            (ih keepsAfter asksLater orderlyLater)
        · exact .invoked asksNow returns invokes unkept
            (ih keepsAfter asksLater orderlyLater)

/-- In a session every source is invoked once for each operation, and gives
everyone the same identity, exactly when the context gives memos back and no
request comes between two that are the same, or no request is repeated. -/
theorem Session.resolvedOnce_iff {world : World} {steps : List Step}
    (session : Session call sources number carried world steps) :
    ResolvedOnce (.object number carried) (history call world steps) ↔
      Uninterrupted (world.held (.object number carried)).retains
        (.object number carried) (history call world steps) := by
  have keeps : world.Keeps sources number carried
      (world.held (.object number carried)).retains none :=
    ⟨session.stored, session.accepts, rfl, session.unremembered⟩
  exact (keeps.runs session.distinct session.asks
    session.orderly).once_iff_uninterrupted

end

/-- Two operations that take turns on one context with one source. -/
def turns : List Step :=
  [some "A", some "B", some "A"].map fun operation =>
    .resolve (.object 0 (.map [])) (.text "user") (.resolver 0 none) operation

def turnsWorld : World :=
  { World.initial .bare false with
    objects := [.map []]
    resolvers := [⟨"who", false,
      [.value (.identity (.text "ADMIN") .null),
        .value (.identity (.text "DEVELOPER") .null),
        .value (.identity (.text "GUEST") .null)], 0⟩] }

theorem session_turns :
    Session callValue [.resolver 0 none] 0 (.map []) turnsWorld turns where
  stored := Nat.zero_lt_one
  accepts _ := ⟨_, rfl⟩
  unremembered := by
    refine ⟨.null, rfl, fun _ _ _ isMemo => ?_⟩
    cases isMemo
  distinct := by
    intro source member other otherMember
    rw [List.mem_singleton.mp member, List.mem_singleton.mp otherMember]
    exact ⟨fun _ => rfl, fun _ => rfl⟩
  asks := by
    intro moment member
    refine .inr ⟨_, List.mem_cons_self, ?_⟩
    simp only [turns, List.map_cons, List.map_nil, history, List.mem_cons,
      List.not_mem_nil, or_false] at member
    rcases member with rfl | rfl | rfl
    · exact ⟨_, _, _, rfl, rfl, rfl⟩
    · exact ⟨_, _, _, rfl, rfl, rfl⟩
    · exact ⟨_, _, _, rfl, rfl, rfl⟩
  orderly := by
    intro moment member context key resolver operation source ending called
      isStep goes answered
    simp only [turns, List.map_cons, List.map_nil, history, List.mem_cons,
      List.not_mem_nil, or_false] at member
    rcases member with rfl | rfl | rfl
    all_goals
      cases isStep
      cases goes
      have sameObjects := congrArg (fun ended => ended.2.objects) answered
      rw [objects_callValue_resolver] at sameObjects
      have left := World.LeavesMemo.of_objects sameObjects.symm
        (.object 0 (.map []))
      cases answered
      refine ⟨?_, ?_, left⟩
      · intro message isAbort
        cases isAbort
      · intro answer isAnswer waits
        cases isAnswer
        cases waits

theorem turns_resolvedOnce_iff :
    Session callValue [.resolver 0 none] 0 (.map []) turnsWorld turns ∧
      (ResolvedOnce (.object 0 (.map [])) (history callValue turnsWorld turns) ↔
        Uninterrupted true (.object 0 (.map []))
          (history callValue turnsWorld turns)) :=
  ⟨session_turns, session_turns.resolvedOnce_iff⟩

/-- Turns of two operations invoke the source twice for the first one, which
gets two identities. -/
theorem turns_not_resolvedOnce :
    Session callValue [.resolver 0 none] 0 (.map []) turnsWorld turns ∧
      ¬ ResolvedOnce (.object 0 (.map []))
        (history callValue turnsWorld turns) := by
  refine ⟨session_turns, fun once => ?_⟩
  have resolvedOnce := once [] _ [_] _ [] rfl
    ⟨.resolver 0 none, some "A", ⟨_, _, rfl, rfl, rfl⟩, ⟨_, _, rfl, rfl, rfl⟩⟩
  apply resolvedOnce.1
  exact ⟨⟨_, _, _, _, _, rfl, rfl⟩, ⟨_, _, _, _, _, rfl, rfl⟩⟩

end RoleGuard
