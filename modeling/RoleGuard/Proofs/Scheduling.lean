import Mathlib.Data.List.Forall2
import RoleGuard.Execution
import RoleGuard.Proofs.Running

/-!
# Fields that take turns

The fields of an operation are started, and resumed when something that they
await is there, in any order.  A field needs up to three turns: it starts, goes
on with an identity that it has awaited, and awaits its result.  `Execution.run`
is one of the orders.
-/

namespace RoleGuard

theorem set_of_found {α : Type} {items : List α} {position : Nat} {item : α}
    (found : items[position]? = some item) :
    items.set position item = items := by
  obtain ⟨inRange, rfl⟩ := List.getElem?_eq_some_iff.mp found
  exact List.set_getElem_self inRange

theorem countP_set {α : Type} (p : α → Bool) {items : List α} {position : Nat}
    {old : α} (new : α) (found : items[position]? = some old) :
    (items.set position new).countP p + (if p old then 1 else 0) =
      items.countP p + (if p new then 1 else 0) := by
  obtain ⟨inRange, isOld⟩ := List.getElem?_eq_some_iff.mp found
  rw [List.countP_set inRange, isOld]
  split
  · rename_i counts
    have positive : 0 < items.countP p :=
      List.countP_pos_iff.mpr ⟨old, List.mem_of_getElem? found, counts⟩
    omega
  · omega

/-- Where a field stands that takes turns with others. -/
inductive Standing where
  | unstarted
  | waiting (rule identity : Value)
  | settled (result : Value)
  | ended (ending : Except Stop Value)

namespace Standing

/-- The turns that a field has no more need of. -/
def turnsTaken : Standing → Nat
  | .unstarted => 0
  | .waiting _ _ => 1
  | .settled _ => 2
  | .ended _ => 3

def isUnstarted : Standing → Bool
  | .unstarted => true
  | _ => false

/-- Where a field stands after a step: it goes on, unless the step stopped. -/
def after (goesOn : α → Standing) : Except Stop α → Standing
  | .ok a => goesOn a
  | .error stop => .ended (.error stop)

def ofProgress : Progress → Standing
  | .settled result => .settled result
  | .waiting rule identity => .waiting rule identity

end Standing

/-- A field of an operation and what resolves it. -/
structure Selection where
  call : FieldCall
  next : FieldResolver

namespace Guard

open Standing (turnsTaken)

/-- Gives a field its turn. -/
def advance (guard : Guard) (selection : Selection) :
    Standing → Act Standing
  | .unstarted => do
      let started ← Act.observe (guard.start selection.call selection.next)
      return .after .ofProgress started
  | .waiting rule identity => do
      let resumed ← Act.observe do
        let identity ← identity.await
        guard.authorize rule identity selection.call
        selection.next selection.call
      return .after .settled resumed
  | .settled result => do
      let ending ← Act.observe result.await
      return .ended ending
  | .ended ending => return .ended ending

/-- Gives the field at a position its turn. -/
def turn (guard : Guard) (fields : List (Selection × Standing))
    (position : Nat) : Act (List (Selection × Standing)) :=
  match fields[position]? with
  | some (selection, standing) => do
      let standing ← guard.advance selection standing
      return fields.set position (selection, standing)
  | none => return fields

/-- Gives fields their turns in the order of the given positions. -/
def takeTurns (guard : Guard) (turns : List Nat)
    (fields : List (Selection × Standing)) : Act (List (Selection × Standing)) :=
  turns.foldlM guard.turn fields

section

variable (guard : Guard) (selection : Selection) (world : World)

theorem runFrom_advance_unstarted :
    runFrom (guard.advance selection .unstarted) world =
      (.ok (.after .ofProgress
          (runFrom (guard.start selection.call selection.next) world).1),
        (runFrom (guard.start selection.call selection.next) world).2) :=
  runFrom_bind_ok (Act.runFrom_observe _ world)

theorem runFrom_advance_waiting (rule identity : Value) :
    runFrom (guard.advance selection (.waiting rule identity)) world =
      let resumed := runFrom (do
        let identity ← identity.await
        guard.authorize rule identity selection.call
        selection.next selection.call) world
      (.ok (.after .settled resumed.1), resumed.2) :=
  runFrom_bind_ok (Act.runFrom_observe _ world)

theorem runFrom_advance_settled (result : Value) :
    runFrom (guard.advance selection (.settled result)) world =
      (.ok (.ended (runFrom result.await world).1),
        (runFrom result.await world).2) :=
  runFrom_bind_ok (Act.runFrom_observe _ world)

/-- A turn brings a field on. -/
theorem advance_advances (standing : Standing) :
    ∃ later after,
      runFrom (guard.advance selection standing) world = (.ok later, after) ∧
      min 3 (standing.turnsTaken + 1) ≤ later.turnsTaken := by
  cases standing with
  | unstarted =>
      refine ⟨_, _, guard.runFrom_advance_unstarted selection world, ?_⟩
      match (runFrom (guard.start selection.call selection.next) world).1 with
      | .ok (.settled _) => simp [Standing.after, Standing.ofProgress, turnsTaken]
      | .ok (.waiting _ _) =>
          simp [Standing.after, Standing.ofProgress, turnsTaken]
      | .error _ => simp [Standing.after, turnsTaken]
  | waiting rule identity =>
      refine ⟨_, _, guard.runFrom_advance_waiting selection world rule identity,
        ?_⟩
      cases (runFrom (do
        let identity ← identity.await
        guard.authorize rule identity selection.call
        selection.next selection.call) world).1 with
      | ok _ => simp [Standing.after, turnsTaken]
      | error _ => simp [Standing.after, turnsTaken]
  | settled result =>
      exact ⟨_, _, guard.runFrom_advance_settled selection world result,
        by simp [turnsTaken]⟩
  | ended ending => exact ⟨.ended ending, world, rfl, by simp [turnsTaken]⟩

variable {guard selection world}

theorem runFrom_turn {fields : List (Selection × Standing)} {position : Nat}
    {standing later : Standing} {after : World}
    (found : fields[position]? = some (selection, standing))
    (advanced : runFrom (guard.advance selection standing) world =
      (.ok later, after)) :
    runFrom (guard.turn fields position) world =
      (.ok (fields.set position (selection, later)), after) := by
  unfold turn
  rw [found]
  exact runFrom_bind_ok advanced

theorem runFrom_turn_none {fields : List (Selection × Standing)}
    {position : Nat} (absent : fields[position]? = none) (world : World) :
    runFrom (guard.turn fields position) world = (.ok fields, world) := by
  unfold turn
  rw [absent]
  rfl

theorem runFrom_takeTurns_cons {fields later : List (Selection × Standing)}
    {position : Nat} {between : World} (turns : List Nat)
    (turned : runFrom (guard.turn fields position) world =
      (.ok later, between)) :
    runFrom (guard.takeTurns (position :: turns) fields) world =
      runFrom (guard.takeTurns turns later) between := by
  unfold takeTurns
  rw [List.foldlM_cons]
  exact runFrom_bind_ok turned

theorem runFrom_takeTurns_step {fields : List (Selection × Standing)}
    {position : Nat} {standing later : Standing} {after : World}
    (turns : List Nat)
    (found : fields[position]? = some (selection, standing))
    (advanced : runFrom (guard.advance selection standing) world =
      (.ok later, after)) :
    runFrom (guard.takeTurns (position :: turns) fields) world =
      runFrom (guard.takeTurns turns (fields.set position (selection, later)))
        after :=
  runFrom_takeTurns_cons turns (runFrom_turn found advanced)

/-- A turn changes nothing where a field has ended. -/
theorem runFrom_takeTurns_rest {fields : List (Selection × Standing)}
    {position : Nat} {ending : Except Stop Value} (turns : List Nat)
    (found : fields[position]? = some (selection, .ended ending))
    (world : World) :
    runFrom (guard.takeTurns (position :: turns) fields) world =
      runFrom (guard.takeTurns turns fields) world := by
  rw [runFrom_takeTurns_step turns found rfl, set_of_found found]

/-- Whatever the start of a field has come to, two turns bring it to its end. -/
theorem runFrom_takeTurns_finish {fields : List (Selection × Standing)}
    {position : Nat} {progress : Except Stop Progress} (turns : List Nat)
    (found : fields[position]? = some (selection, .after .ofProgress progress))
    (world : World) :
    runFrom (guard.takeTurns (position :: position :: turns) fields) world =
      let finished := runFrom (Execution.finish
        ⟨.field guard selection.call selection.next, progress⟩) world
      runFrom (guard.takeTurns turns
        (fields.set position (selection, .ended finished.1))) finished.2 := by
  have inRange := (List.getElem?_eq_some_iff.mp found).1
  have placed (standing : Standing) :
      (fields.set position (selection, standing))[position]? =
        some (selection, standing) :=
    List.getElem?_set_self inRange
  match progress with
  | .error stop =>
      rw [runFrom_takeTurns_rest _ found, runFrom_takeTurns_rest _ found]
      exact congrArg (fun later => runFrom (guard.takeTurns turns later) world)
        (set_of_found found).symm
  | .ok (.settled result) =>
      rw [runFrom_takeTurns_step _ found
          (guard.runFrom_advance_settled selection world result),
        runFrom_takeTurns_rest _ (placed _)]
      rfl
  | .ok (.waiting rule identity) =>
      have resumes : guard.resume rule identity selection.call
          selection.next = (do
            let identity ← identity.await
            guard.authorize rule identity selection.call
            selection.next selection.call) >>= Value.await := by
        unfold resume
        simp only [bind_assoc]
      rw [runFrom_takeTurns_step _ found
        (guard.runFrom_advance_waiting selection world rule identity)]
      simp only [Execution.finish, Job.finish, finish, resumes]
      cases resumed : runFrom (do
          let identity ← identity.await
          guard.authorize rule identity selection.call
          selection.next selection.call) world with
      | mk ending between =>
          cases ending with
          | error stop =>
              rw [runFrom_bind_error resumed]
              exact runFrom_takeTurns_rest _ (placed _) between
          | ok result =>
              rw [runFrom_bind_ok resumed]
              refine (runFrom_takeTurns_step _ (placed (.settled result))
                (guard.runFrom_advance_settled selection between result)).trans ?_
              rw [List.set_set]

/-- A number of turns bring a field on as a step does for what has its seat, which
then goes to what the step gives. -/
def BringsOn (guard : Guard) (often : Nat)
    (seats : α → Selection × Standing → Prop) (step : α → Act β)
    (seatsLater : β → Selection × Standing → Prop) : Prop :=
  ∀ item fields position field world, seats item field →
    fields[position]? = some field → ∃ result later after,
      runFrom (step item) world = (.ok result, after) ∧
      seatsLater result later ∧
      ∀ turns, runFrom (guard.takeTurns
          (List.replicate often position ++ turns) fields) world =
        runFrom (guard.takeTurns turns (fields.set position later)) after

/-- They bring fields on one after another as the steps do one after another. -/
theorem BringsOn.mapM {often : Nat} {seats : α → Selection × Standing → Prop}
    {step : α → Act β} {seatsLater : β → Selection × Standing → Prop}
    (brings : guard.BringsOn often seats step seatsLater)
    {items : List α} {fields : List (Selection × Standing)}
    (seated : List.Forall₂ seats items fields)
    (done : List (Selection × Standing)) (world : World) :
    ∃ results later after,
      runFrom (items.mapM step) world = (.ok results, after) ∧
      List.Forall₂ seatsLater results later ∧ later.length = fields.length ∧
      ∀ turns, runFrom (guard.takeTurns
          ((List.range' done.length fields.length).flatMap
            (List.replicate often) ++ turns) (done ++ fields)) world =
        runFrom (guard.takeTurns turns (done ++ later)) after := by
  induction seated generalizing done world with
  | nil => exact ⟨[], [], world, rfl, .nil, rfl, fun _ => rfl⟩
  | @cons item field items fields seat _ ih =>
      have found : (done ++ field :: fields)[done.length]? = some field := by
        simp
      obtain ⟨result, later, between, stepped, seatLater, turned⟩ :=
        brings item (done ++ field :: fields) done.length field world seat found
      obtain ⟨results, latest, after, ran, seatedLater, sameLength, turnedAll⟩ :=
        ih (done ++ [later]) between
      refine ⟨result :: results, later :: latest, after, ?_,
        .cons seatLater seatedLater, by simp [sameLength], fun turns => ?_⟩
      · rw [List.mapM_cons, runFrom_bind_ok stepped, runFrom_bind_ok ran]
        rfl
      · have placed : (done ++ field :: fields).set done.length later =
            done ++ [later] ++ fields := by
          simp
        rw [List.length_cons, List.range'_succ, List.flatMap_cons,
          List.append_assoc, turned, placed]
        have restTurned := turnedAll turns
        rw [List.length_append, List.length_singleton] at restTurned
        rw [restTurned, List.append_assoc]
        rfl

/-- The job of resolving a field. -/
def job (guard : Guard) (selection : Selection) : Job :=
  .field guard selection.call selection.next

/-- A job that is to be started, and the field that it resolves. -/
structure Waits (guard : Guard) (job : Job) (field : Selection × Standing) :
    Prop where
  isJob : job = guard.job field.1
  standing : field.2 = .unstarted
  named : Job.checkNames field.1.call.arguments = .ok ()

/-- A job that has been started, and the field that it resolves. -/
structure Begun (guard : Guard) (started : Execution.Started)
    (field : Selection × Standing) : Prop where
  isJob : started.job = guard.job field.1
  standing : field.2 = .after .ofProgress started.progress

/-- The first turn of a field starts its job. -/
theorem bringsOn_start (guard : Guard) :
    guard.BringsOn 1 guard.Waits
      (fun job => return ⟨job, ← Act.observe job.start⟩) guard.Begun := by
  rintro _ fields position ⟨selection, _⟩ world ⟨rfl, rfl, named⟩ found
  have start : (guard.job selection).start =
      guard.start selection.call selection.next := by
    change (do Act.ofExcept (Job.checkNames _); guard.start _ _) = _
    rw [named]
    rfl
  let begun := runFrom (guard.start selection.call selection.next) world
  have observed : runFrom (Act.observe (guard.job selection).start) world =
      (.ok begun.1, begun.2) := by
    rw [start]
    exact Act.runFrom_observe _ world
  exact ⟨⟨guard.job selection, _⟩, (selection, _), _, runFrom_bind_ok observed,
    ⟨rfl, rfl⟩, fun turns => runFrom_takeTurns_step turns found
      (guard.runFrom_advance_unstarted selection world)⟩

/-- Two more turns bring the job to its end. -/
theorem bringsOn_finish (guard : Guard) :
    guard.BringsOn 2 guard.Begun
      (fun started => Act.observe (Execution.finish started))
      fun outcome field => field.2 = .ended outcome := by
  rintro ⟨job, progress⟩ fields position ⟨selection, standing⟩ world
    ⟨isJob, isStanding⟩ found
  obtain rfl : job = guard.job selection := isJob
  obtain rfl : standing = .after .ofProgress progress := isStanding
  exact ⟨_, (selection, .ended _), _, Act.runFrom_observe _ world, rfl,
    fun turns => runFrom_takeTurns_finish turns found world⟩

/-- Fields take turns in order if all start, one after another, and then each of
them is brought to its end. -/
def inOrder (count : Nat) : List Nat :=
  (List.range' 0 count).flatMap (List.replicate 1) ++
    (List.range' 0 count).flatMap (List.replicate 2)

/-- In order, everyone has three turns. -/
theorem count_inOrder {position count : Nat} (inRange : position < count) :
    (inOrder count).count position = 3 := by
  have counts (often start length : Nat) :
      ((List.range' start length).flatMap (List.replicate often)).count
          position =
        if start ≤ position ∧ position < start + length then often else 0 := by
    induction length generalizing start with
    | zero =>
        rw [if_neg (by omega)]
        rfl
    | succ length ih =>
        rw [List.range'_succ, List.flatMap_cons, List.count_append,
          List.count_replicate, ih]
        by_cases isFirst : start = position
        · have passed : ¬ (start + 1 ≤ position ∧
              position < start + 1 + length) := by
            omega
          rw [if_neg passed]
          simp [isFirst]
        · have later : start + 1 ≤ position ∧ position < start + 1 + length ↔
              start ≤ position ∧ position < start + (length + 1) := by
            omega
          simp only [beq_iff_eq, isFirst, if_false, later, Nat.zero_add]
  rw [inOrder, List.count_append, counts, counts]
  simp [inRange]

/-- An execution of fields gives each of them its three turns. -/
theorem exists_turns_run (guard : Guard) {selections : List Selection}
    (named : ∀ selection ∈ selections,
      Job.checkNames selection.call.arguments = .ok ()) (world : World) :
    ∃ turns : List Nat,
      (∀ position < selections.length, turns.count position = 3) ∧
      ∃ outcomes fields after,
        runFrom (Execution.run (selections.map guard.job)) world =
          (.ok outcomes, after) ∧
        runFrom (guard.takeTurns turns
          (selections.map fun selection => (selection, .unstarted))) world =
            (.ok fields, after) ∧
        List.Forall₂ (fun outcome field => field.2 = .ended outcome) outcomes
          fields := by
  have seated : List.Forall₂ guard.Waits (selections.map guard.job)
      (selections.map fun selection => (selection, .unstarted)) := by
    rw [List.forall₂_map_left_iff, List.forall₂_map_right_iff,
      List.forall₂_same]
    exact fun selection member => ⟨rfl, rfl, named selection member⟩
  obtain ⟨started, begun, between, startedAll, seatedBegun, sameLength, turned⟩ :=
    guard.bringsOn_start.mapM seated [] world
  obtain ⟨outcomes, fields, after, endedAll, seatedEnd, _, turnedToEnd⟩ :=
    guard.bringsOn_finish.mapM seatedBegun [] between
  refine ⟨inOrder selections.length, fun _ => count_inOrder, outcomes, fields,
    after, (runFrom_bind_ok startedAll).trans endedAll, ?_, seatedEnd⟩
  rw [List.length_map] at sameLength
  have toEnd := turnedToEnd []
  rw [sameLength, List.append_nil] at toEnd
  have toBegun := turned
    ((List.range' 0 selections.length).flatMap (List.replicate 2))
  rw [List.length_map] at toBegun
  exact toBegun.trans toEnd

/-- A turn brings the field that has it closer to its end, and leaves the others
as many turns. -/
theorem enough_set {fields : List (Selection × Standing)} {position : Nat}
    {standing later : Standing} {turns : List Nat}
    (found : fields[position]? = some (selection, standing))
    (brings : min 3 (standing.turnsTaken + 1) ≤ later.turnsTaken)
    (enough : ∀ other selection standing,
      fields[other]? = some (selection, standing) →
        3 ≤ standing.turnsTaken + (position :: turns).count other) :
    ∀ other otherSelection otherStanding,
      (fields.set position (selection, later))[other]? =
        some (otherSelection, otherStanding) →
      3 ≤ otherStanding.turnsTaken + turns.count other := by
  intro other otherSelection otherStanding isOther
  by_cases same : position = other
  · subst same
    have inRange := (List.getElem?_eq_some_iff.mp found).1
    rw [List.getElem?_set_self inRange] at isOther
    cases isOther
    have taken := enough position selection standing found
    rw [List.count_cons_self] at taken
    omega
  · rw [List.getElem?_set_ne same] at isOther
    have taken := enough other otherSelection otherStanding isOther
    rwa [List.count_cons_of_ne same] at taken

/-- What the turn of each field preserves holds when turns have been taken, and
whoever has had three turns by then has ended. -/
theorem takeTurns_preserves
    (holds : List (Selection × Standing) → World → Prop)
    (preserved : ∀ fields world position selection standing later after,
      holds fields world →
      fields[position]? = some (selection, standing) →
      runFrom (guard.advance selection standing) world = (.ok later, after) →
      holds (fields.set position (selection, later)) after)
    (turns : List Nat) (fields : List (Selection × Standing))
    (initially : holds fields world)
    (enough : ∀ position selection standing,
      fields[position]? = some (selection, standing) →
        3 ≤ standing.turnsTaken + turns.count position) :
    ∃ later after,
      runFrom (guard.takeTurns turns fields) world = (.ok later, after) ∧
      holds later after ∧ later.map Prod.fst = fields.map Prod.fst ∧
      ∀ field ∈ later, ∃ ending, field.2 = .ended ending := by
  induction turns generalizing fields world with
  | nil =>
      refine ⟨fields, world, rfl, initially, rfl, fun field member => ?_⟩
      obtain ⟨position, found⟩ := List.mem_iff_getElem?.mp member
      have taken := enough position field.1 field.2 found
      match ends : field.2 with
      | .ended ending => exact ⟨ending, rfl⟩
      | .unstarted | .waiting _ _ | .settled _ =>
          simp [ends, turnsTaken] at taken
  | cons position turns ih =>
      cases found : fields[position]? with
      | none =>
          rw [runFrom_takeTurns_cons turns (runFrom_turn_none found world)]
          refine ih fields initially fun other selection standing isOther => ?_
          have different : position ≠ other := by
            rintro rfl
            cases found.symm.trans isOther
          have taken := enough other selection standing isOther
          rwa [List.count_cons_of_ne different] at taken
      | some field =>
          obtain ⟨selection, standing⟩ := field
          obtain ⟨later, between, advanced, brings⟩ :=
            guard.advance_advances selection world standing
          have sameSelections : (fields.set position (selection, later)).map
              Prod.fst = fields.map Prod.fst := by
            rw [List.map_set]
            exact set_of_found (by simp [found])
          obtain ⟨last, after, ran, stillHolds, sameLast, allEnded⟩ :=
            ih (fields.set position (selection, later))
              (preserved fields world position selection standing later between
                initially found advanced) (enough_set found brings enough)
          rw [runFrom_takeTurns_cons turns (runFrom_turn found advanced)]
          exact ⟨last, after, ran, stillHolds, sameLast.trans sameSelections,
            allEnded⟩

end

end Guard

end RoleGuard
