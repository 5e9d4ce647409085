import RoleGuard.World

/-!
# Running computations

Computations that note events and operations on a world both carry a state and
may fail.  `runFrom` gives how one ends and the state that it leaves, and each
way of putting computations together has one equation for it.  `Keeps` says
that a part of the state is the same afterwards, however the computation ends;
`Succeeds` and `Fails` say how a computation ends in every state.
-/

namespace RoleGuard

/-- A result that goes on is ok exactly if both of its parts are. -/
theorem bind_eq_ok_iff {ε α β : Type} {result : Except ε α}
    {next : α → Except ε β} {b : β} :
    (result >>= next) = .ok b ↔ ∃ a, result = .ok a ∧ next a = .ok b := by
  cases result with
  | error fault =>
      constructor
      · intro ended
        cases ended
      · rintro ⟨_, ended, _⟩
        cases ended
  | ok a =>
      constructor
      · exact fun ended => ⟨a, rfl, ended⟩
      · rintro ⟨_, same, ended⟩
        cases same
        exact ended

/-- How a computation ends when it starts in a state, and the state that it
leaves. -/
def runFrom (computation : ExceptT ε (StateM σ) α) (state : σ) :
    Except ε α × σ :=
  Id.run ((ExceptT.run computation).run state)

section

variable {ε σ α β : Type}

@[simp] theorem runFrom_pure (a : α) (state : σ) :
    runFrom (pure a : ExceptT ε (StateM σ) α) state = (.ok a, state) :=
  rfl

@[simp] theorem runFrom_throw (failure : ε) (state : σ) :
    runFrom (throw failure : ExceptT ε (StateM σ) α) state =
      (.error failure, state) :=
  rfl

@[simp] theorem runFrom_get (state : σ) :
    runFrom (get : ExceptT ε (StateM σ) σ) state = (.ok state, state) :=
  rfl

@[simp] theorem runFrom_modify (change : σ → σ) (state : σ) :
    runFrom (modify change : ExceptT ε (StateM σ) Unit) state =
      (.ok (), change state) :=
  rfl

@[simp] theorem runFrom_lift (result : Except ε α) (state : σ) :
    runFrom (liftM result : ExceptT ε (StateM σ) α) state = (result, state) :=
  rfl

theorem runFrom_bind (first : ExceptT ε (StateM σ) α)
    (next : α → ExceptT ε (StateM σ) β) (state : σ) :
    runFrom (first >>= next) state =
      match runFrom first state with
      | (.ok a, after) => runFrom (next a) after
      | (.error failure, after) => (.error failure, after) := by
  change (match (runFrom first state).1 with
    | .ok a => next a
    | .error failure => pure (.error failure) : StateM σ (Except ε β))
      (runFrom first state).2 = _
  obtain ⟨ending, after⟩ := runFrom first state
  cases ending <;> rfl

theorem runFrom_bind_ok {first : ExceptT ε (StateM σ) α}
    {next : α → ExceptT ε (StateM σ) β} {state after : σ} {a : α}
    (ended : runFrom first state = (.ok a, after)) :
    runFrom (first >>= next) state = runFrom (next a) after := by
  rw [runFrom_bind, ended]

theorem runFrom_bind_error {first : ExceptT ε (StateM σ) α}
    {next : α → ExceptT ε (StateM σ) β} {state after : σ} {failure : ε}
    (ended : runFrom first state = (.error failure, after)) :
    runFrom (first >>= next) state = (.error failure, after) := by
  rw [runFrom_bind, ended]

/-- What a successful computation went through. -/
theorem runFrom_bind_eq_ok {first : ExceptT ε (StateM σ) α}
    {next : α → ExceptT ε (StateM σ) β} {state after : σ} {b : β}
    (ended : runFrom (first >>= next) state = (.ok b, after)) :
    ∃ a between, runFrom first state = (.ok a, between) ∧
      runFrom (next a) between = (.ok b, after) := by
  rw [runFrom_bind] at ended
  generalize runFrom first state = started at ended ⊢
  obtain ⟨ending, between⟩ := started
  cases ending with
  | ok a => exact ⟨a, between, rfl, ended⟩
  | error _ => cases ended

theorem runFrom_map_eq_ok {f : α → β} {first : ExceptT ε (StateM σ) α}
    {state after : σ} {b : β}
    (ended : runFrom (f <$> first) state = (.ok b, after)) :
    ∃ a, runFrom first state = (.ok a, after) ∧ f a = b := by
  rw [map_eq_pure_bind] at ended
  obtain ⟨a, between, started, rest⟩ := runFrom_bind_eq_ok ended
  cases rest
  exact ⟨a, started, rfl⟩

theorem runFrom_tryCatch (body : ExceptT ε (StateM σ) α)
    (handler : ε → ExceptT ε (StateM σ) α) (state : σ) :
    runFrom (tryCatch body handler) state =
      match runFrom body state with
      | (.ok a, after) => (.ok a, after)
      | (.error failure, after) => runFrom (handler failure) after := by
  change (match (runFrom body state).1 with
    | .ok a => pure (.ok a)
    | .error failure => handler failure : StateM σ (Except ε α))
      (runFrom body state).2 = _
  obtain ⟨ending, after⟩ := runFrom body state
  cases ending <;> rfl

/-- Failures can be renamed without touching what a computation does. -/
theorem runFrom_adapt {ε' : Type} (rename : ε → ε')
    (computation : ExceptT ε (StateM σ) α) (state : σ) :
    runFrom (computation.adapt rename) state =
      ((runFrom computation state).1.mapError rename,
        (runFrom computation state).2) :=
  rfl

/-- A part of the state that a computation leaves as it is. -/
def Keeps (part : σ → κ) (computation : ExceptT ε (StateM σ) α) : Prop :=
  ∀ state, part (runFrom computation state).2 = part state

namespace Keeps

variable {κ : Type} {part : σ → κ}

theorem pure (a : α) : Keeps part (pure a : ExceptT ε (StateM σ) α) :=
  fun _ => rfl

theorem throw (failure : ε) :
    Keeps part (throw failure : ExceptT ε (StateM σ) α) :=
  fun _ => rfl

theorem get : Keeps part (get : ExceptT ε (StateM σ) σ) :=
  fun _ => rfl

theorem modify {change : σ → σ}
    (kept : ∀ state, part (change state) = part state) :
    Keeps part (modify change : ExceptT ε (StateM σ) Unit) :=
  kept

theorem bind {first : ExceptT ε (StateM σ) α}
    {next : α → ExceptT ε (StateM σ) β} (firstKept : Keeps part first)
    (nextKept : ∀ a, Keeps part (next a)) : Keeps part (first >>= next) := by
  intro state
  have kept := firstKept state
  rw [runFrom_bind]
  generalize runFrom first state = ended at kept ⊢
  obtain ⟨ending, after⟩ := ended
  cases ending with
  | ok a => exact (nextKept a after).trans kept
  | error _ => exact kept

theorem tryCatch {body : ExceptT ε (StateM σ) α}
    {handler : ε → ExceptT ε (StateM σ) α} (bodyKept : Keeps part body)
    (handlerKept : ∀ failure, Keeps part (handler failure)) :
    Keeps part (tryCatch body handler) := by
  intro state
  have kept := bodyKept state
  rw [runFrom_tryCatch]
  generalize runFrom body state = ended at kept ⊢
  obtain ⟨ending, after⟩ := ended
  cases ending with
  | ok _ => exact kept
  | error failure => exact (handlerKept failure after).trans kept

theorem forM {items : List β} {body : β → ExceptT ε (StateM σ) PUnit}
    (bodyKept : ∀ item, Keeps part (body item)) :
    Keeps part (items.forM body) := by
  induction items with
  | nil => exact pure _
  | cons item items ih => exact bind (bodyKept item) fun _ => ih

end Keeps

/-- A computation that returns, whatever state it starts in. -/
def Succeeds (computation : ExceptT ε (StateM σ) α) : Prop :=
  ∀ state, ∃ a after, runFrom computation state = (.ok a, after)

/-- A computation that ends with this failure, whatever state it starts in. -/
def Fails (computation : ExceptT ε (StateM σ) α) (failure : ε) : Prop :=
  ∀ state, (runFrom computation state).1 = .error failure

namespace Succeeds

theorem pure (a : α) : Succeeds (pure a : ExceptT ε (StateM σ) α) :=
  fun state => ⟨a, state, rfl⟩

theorem bind {first : ExceptT ε (StateM σ) α}
    {next : α → ExceptT ε (StateM σ) β} (begins : Succeeds first)
    (goesOn : ∀ a, Succeeds (next a)) : Succeeds (first >>= next) := by
  intro state
  obtain ⟨a, between, ended⟩ := begins state
  rw [runFrom_bind_ok ended]
  exact goesOn a between

theorem bind_fails {first : ExceptT ε (StateM σ) α}
    {next : α → ExceptT ε (StateM σ) β} {failure : ε}
    (begins : Succeeds first) (fails : ∀ a, Fails (next a) failure) :
    Fails (first >>= next) failure := by
  intro state
  obtain ⟨a, between, ended⟩ := begins state
  rw [runFrom_bind_ok ended]
  exact fails a between

theorem map {f : α → β} {first : ExceptT ε (StateM σ) α}
    (begins : Succeeds first) : Succeeds (f <$> first) := by
  rw [map_eq_pure_bind]
  exact begins.bind fun a => .pure (f a)

end Succeeds

namespace Fails

theorem throw (failure : ε) :
    Fails (throw failure : ExceptT ε (StateM σ) α) failure :=
  fun _ => rfl

theorem bind {first : ExceptT ε (StateM σ) α} {failure : ε}
    (fails : Fails first failure) (next : α → ExceptT ε (StateM σ) β) :
    Fails (first >>= next) failure := by
  intro state
  have ended := fails state
  rw [runFrom_bind]
  generalize runFrom first state = started at ended ⊢
  obtain ⟨ending, after⟩ := started
  cases ended
  rfl

theorem map {f : α → β} {first : ExceptT ε (StateM σ) α} {failure : ε}
    (fails : Fails first failure) : Fails (f <$> first) failure := by
  rw [map_eq_pure_bind]
  exact fails.bind _

end Fails

end

@[simp] theorem Logged.runFrom_note {ε : Type} (event : Event)
    (journal : Journal) :
    runFrom (note event : ExceptT ε (StateM Journal) Unit) journal =
      (.ok (), journal ++ [event]) :=
  rfl

namespace Act

@[simp] theorem runFrom_fail (fault : Fault) (world : World) :
    runFrom (fail fault : Act α) world = (.error (.fault fault), world) :=
  rfl

@[simp] theorem runFrom_ofExcept_ok (a : α) (world : World) :
    runFrom (ofExcept (.ok a)) world = (.ok a, world) :=
  rfl

@[simp] theorem runFrom_note (event : Event) (world : World) :
    runFrom (note event) world =
      (.ok (), { world with journal := world.journal ++ [event] }) :=
  rfl

@[simp] theorem runFrom_look (v : Value) (world : World) :
    runFrom (look v) world = (.ok (world.look v), world) :=
  rfl

@[simp] theorem runFrom_refresh (v : Value) (world : World) :
    runFrom (refresh v) world = (.ok (world.refresh v), world) :=
  rfl

theorem runFrom_ofLogged (computation : Logged α) (world : World) :
    runFrom (ofLogged computation) world =
      match runFrom computation world.journal with
      | (.ok a, journal) => (.ok a, { world with journal })
      | (.error fault, journal) =>
          (.error (.fault fault), { world with journal }) := by
  change runFrom (ofExcept (runFrom computation world.journal).1)
    { world with journal := (runFrom computation world.journal).2 } = _
  obtain ⟨ending, journal⟩ := runFrom computation world.journal
  cases ending <;> rfl

theorem runFrom_tolerate (operation : Act α) (handler : Fault → Act α)
    (world : World) :
    runFrom (tolerate operation handler) world =
      match runFrom operation world with
      | (.error (.fault fault), after) => runFrom (handler fault) after
      | ended => ended := by
  rw [tolerate, runFrom_tryCatch]
  obtain ⟨ending, after⟩ := runFrom operation world
  cases ending with
  | ok _ => rfl
  | error stop => cases stop <;> rfl

theorem runFrom_observe (operation : Act α) (world : World) :
    runFrom (observe operation) world =
      (.ok (runFrom operation world).1, (runFrom operation world).2) := by
  rw [observe, runFrom_tryCatch, map_eq_pure_bind, runFrom_bind]
  obtain ⟨ending, after⟩ := runFrom operation world
  cases ending <;> rfl

end Act

namespace Keeps

variable {α κ : Type} {part : World → κ}

theorem fail (fault : Fault) : Keeps part (Act.fail fault : Act α) :=
  fun _ => rfl

theorem abort (message : String) : Keeps part (Act.abort message : Act α) :=
  fun _ => rfl

theorem look (v : Value) : Keeps part (Act.look v) :=
  fun _ => rfl

theorem refresh (v : Value) : Keeps part (Act.refresh v) :=
  fun _ => rfl

theorem ofExcept (result : Except Fault α) :
    Keeps part (Act.ofExcept result) := by
  cases result <;> exact fun _ => rfl

theorem tolerate {operation : Act α} {handler : Fault → Act α}
    (operationKept : Keeps part operation)
    (handlerKept : ∀ fault, Keeps part (handler fault)) :
    Keeps part (Act.tolerate operation handler) := by
  apply tryCatch operationKept
  intro stop
  cases stop with
  | fault fault => exact handlerKept fault
  | abort message => exact abort message

theorem observe {operation : Act α} (operationKept : Keeps part operation) :
    Keeps part (Act.observe operation) := by
  intro world
  rw [Act.runFrom_observe]
  exact operationKept world

theorem ofLogged (computation : Logged α)
    (kept : ∀ world journal, part { world with journal } = part world) :
    Keeps part (Act.ofLogged computation) := by
  intro world
  rw [Act.runFrom_ofLogged]
  obtain ⟨ending, journal⟩ := runFrom computation world.journal
  cases ending <;> exact kept world journal

end Keeps

end RoleGuard
