import RoleGuard.Proofs.Resolution

/-!
# Awaiting tasks

A task settles what it awaits, once, and keeps how that ended.
`World.Advances` says what running tasks may change; after all of them have run,
every task has ended, and whoever awaits one gets what it ended with.
-/

namespace RoleGuard

/-- What awaiting leaves as it is: everything but the tasks and the journal. -/
def World.backdrop (world : World) : World :=
  { world with tasks := [], journal := [] }

theorem World.still_backdrop : Still backdrop where
  noting _ _ := rfl
  tasking _ _ := rfl

theorem World.objects_of_backdrop {world other : World}
    (same : other.backdrop = world.backdrop) :
    other.objects = world.objects := by
  have objects := congrArg World.objects same
  exact objects

/-- Every task has run. -/
def World.NoneWaits (world : World) : Prop :=
  ∀ (index : Nat) (body : Pending), world.tasks[index]? ≠ some ⟨body, none⟩

/-- A later world, in which tasks have run that had not run before. -/
structure World.Advances (world after : World) : Prop where
  backdrop : after.backdrop = world.backdrop
  length : after.tasks.length = world.tasks.length
  ended : ∀ (index : Nat) body result,
    world.tasks[index]? = some ⟨body, some result⟩ →
    after.tasks[index]? = some ⟨body, some result⟩
  waiting : ∀ (index : Nat) body, world.tasks[index]? = some ⟨body, none⟩ →
    after.tasks[index]? = some ⟨body, none⟩ ∨
    ∃ between : World, between.backdrop = world.backdrop ∧
      after.tasks[index]? = some ⟨body, some (runFrom body.settle between).1⟩

namespace World.Advances

variable {world between after : World}

theorem refl (world : World) : world.Advances world :=
  ⟨rfl, rfl, fun _ _ _ => id, fun _ _ => .inl⟩

theorem trans (first : world.Advances between)
    (second : between.Advances after) : world.Advances after where
  backdrop := second.backdrop.trans first.backdrop
  length := second.length.trans first.length
  ended index body result held :=
    second.ended index body result (first.ended index body result held)
  waiting index body held := by
    rcases first.waiting index body held with waits | ⟨ran, same, ended⟩
    · rcases second.waiting index body waits with still | ⟨ran, same, ended⟩
      · exact .inl still
      · exact .inr ⟨ran, same.trans first.backdrop, ended⟩
    · exact .inr ⟨ran, same, second.ended index body _ ended⟩

end World.Advances

namespace Task

theorem runFrom_run (index : Nat) (world : World) :
    runFrom (run index) world =
      match world.tasks[index]? with
      | some ⟨body, none⟩ =>
          let settled := (runFrom body.settle world).2
          (.ok (), { settled with
            tasks := settled.tasks.set index
              ⟨body, some (runFrom body.settle world).1⟩ })
      | _ => (.ok (), world) := by
  rw [run, runFrom_bind_ok (runFrom_get world)]
  match world.tasks[index]? with
  | some ⟨body, none⟩ =>
      simp only
      rw [runFrom_bind_ok (Act.runFrom_observe _ world)]
      rfl
  | some ⟨_, some _⟩ => rfl
  | none => rfl

theorem runFrom_isWaiting (index : Nat) (world : World) :
    runFrom (isWaiting index) world =
      (.ok (match world.tasks[index]? with
        | some ⟨_, none⟩ => true
        | _ => false), world) := by
  rw [isWaiting, runFrom_bind_ok (runFrom_get world)]
  match world.tasks[index]? with
  | some ⟨_, none⟩ => rfl
  | some ⟨_, some _⟩ => rfl
  | none => rfl

theorem runFrom_run_ended {index : Nat} {world : World}
    (ended : ∀ body, world.tasks[index]? ≠ some ⟨body, none⟩) :
    runFrom (run index) world = (.ok (), world) := by
  rw [runFrom_run]
  split
  · rename_i body waits
    exact absurd waits (ended body)
  · rfl

/-- Running a task ends it and leaves every other one alone. -/
theorem advances_run (index : Nat) (world : World) :
    ∃ after, runFrom (run index) world = (.ok (), after) ∧
      world.Advances after ∧
      ∀ body, after.tasks[index]? ≠ some ⟨body, none⟩ := by
  by_cases ended : ∀ body, world.tasks[index]? ≠ some ⟨body, none⟩
  · exact ⟨world, runFrom_run_ended ended, .refl world, ended⟩
  · obtain ⟨body, waits⟩ := Classical.not_forall_not.mp ended
    obtain ⟨inRange, _⟩ := List.getElem?_eq_some_iff.mp waits
    have same : (runFrom body.settle world).2.tasks = world.tasks :=
      body.keeps_settle (fun _ _ => rfl) world
    have kept : (runFrom body.settle world).2.backdrop = world.backdrop :=
      body.keeps_settle World.still_backdrop.noting world
    let task : Task := ⟨body, some (runFrom body.settle world).1⟩
    let ran : World := { (runFrom body.settle world).2 with
      tasks := world.tasks.set index task }
    have runs : runFrom (run index) world = (.ok (), ran) := by
      rw [runFrom_run, waits]
      simp only [same]
      rfl
    have stored (other : Nat) : ran.tasks[other]? =
        if other = index then some task else world.tasks[other]? := by
      by_cases isIndex : other = index
      · subst isIndex
        simp [ran, inRange]
      · simp [ran, isIndex, List.getElem?_set_ne (Ne.symm isIndex)]
    refine ⟨ran, runs, ⟨kept, ?_, ?_, ?_⟩, ?_⟩
    · simp [ran]
    · intro other otherBody result held
      rw [stored, if_neg]
      · exact held
      · rintro rfl
        cases held.symm.trans waits
    · intro other otherBody held
      rw [stored]
      split
      · rename_i isIndex
        subst isIndex
        cases held.symm.trans waits
        exact .inr ⟨world, rfl, rfl⟩
      · exact .inl held
    · intro other
      rw [stored, if_pos rfl]
      simp [task]

theorem advances_forM (indices : List Nat) (world : World) :
    ∃ after, runFrom (indices.forM run) world = (.ok (), after) ∧
      world.Advances after ∧
      ∀ index ∈ indices, ∀ body, after.tasks[index]? ≠ some ⟨body, none⟩ := by
  induction indices generalizing world with
  | nil => exact ⟨world, rfl, .refl world, fun _ member => nomatch member⟩
  | cons index indices ih =>
      obtain ⟨between, ran, first, ended⟩ := advances_run index world
      obtain ⟨after, rest, second, endedToo⟩ := ih between
      refine ⟨after, (runFrom_bind_ok ran).trans rest, first.trans second, ?_⟩
      intro other member body waits
      rcases List.mem_cons.mp member with rfl | later
      · -- what has ended stays so, hence it cannot wait again
        have inRange := (List.getElem?_eq_some_iff.mp waits).1
        rw [second.length] at inRange
        match held : between.tasks[other]? with
        | none => simp [inRange] at held
        | some ⟨body', none⟩ => exact ended body' held
        | some ⟨body', some result⟩ =>
            cases (second.ended other body' result held).symm.trans waits
      · exact endedToo other later body waits

theorem advances_runAll (world : World) :
    ∃ after, runFrom runAll world = (.ok (), after) ∧
      world.Advances after ∧ after.NoneWaits := by
  obtain ⟨after, ran, advances, ended⟩ :=
    advances_forM (List.range world.tasks.length) world
  refine ⟨after, (runFrom_bind_ok (runFrom_get world)).trans ran, advances, ?_⟩
  intro index body waits
  have inRange := (List.getElem?_eq_some_iff.mp waits).1
  rw [advances.length] at inRange
  exact ended index (List.mem_range.mpr inRange) body waits

theorem runFrom_settle_ended {index : Nat} {body : Pending}
    {result : Except Stop Value} {world : World}
    (ended : world.tasks[index]? = some ⟨body, some result⟩) :
    runFrom (Pending.task index).settle world = (result, world) := by
  rw [Pending.settle, runFrom_bind_ok (runFrom_get world), ended]
  cases result <;> rfl

/-- Awaiting a task that has ended gives what it ended with. -/
theorem runFrom_await_ended {index : Nat} {body : Pending}
    {result : Except Stop Value} {world : World}
    (ended : world.tasks[index]? = some ⟨body, some result⟩) :
    runFrom (Value.pending (.task index)).await world = (result, world) := by
  have checked : runFrom (isWaiting index) world = (.ok false, world) := by
    rw [runFrom_isWaiting, ended]
  exact (runFrom_bind_ok (Act.runFrom_look _ world)).trans
    ((runFrom_bind_ok checked).trans (runFrom_settle_ended ended))

/-- Awaiting a task that waits lets all tasks run and gives what it ends
with. -/
theorem runFrom_await_waiting {index : Nat} {body : Pending} {world : World}
    (waits : world.tasks[index]? = some ⟨body, none⟩) :
    ∃ result after between,
      runFrom (Value.pending (.task index)).await world = (result, after) ∧
      world.Advances after ∧ after.NoneWaits ∧
      between.backdrop = world.backdrop ∧
      (runFrom body.settle between).1 = result ∧
      after.tasks[index]? = some ⟨body, some result⟩ := by
  obtain ⟨after, ran, advances, noneWaits⟩ := advances_runAll world
  rcases advances.waiting index body waits with still | ⟨between, same, ended⟩
  · exact absurd still (noneWaits index body)
  · have checked : runFrom (isWaiting index) world = (.ok true, world) := by
      rw [runFrom_isWaiting, waits]
    refine ⟨_, after, between, ?_, advances, noneWaits, same, rfl, ended⟩
    refine (runFrom_bind_ok (Act.runFrom_look _ world)).trans
      ((runFrom_bind_ok checked).trans ?_)
    exact (runFrom_bind_ok ran).trans (runFrom_settle_ended ended)

/-- Running other tasks leaves a task as it is. -/
theorem getElem?_forM_run {indices : List Nat} {index : Nat}
    (absent : index ∉ indices) (world : World) :
    (runFrom (indices.forM run) world).2.tasks[index]? =
      world.tasks[index]? := by
  induction indices generalizing world with
  | nil => rfl
  | cons other indices ih =>
      obtain ⟨different, absent⟩ : index ≠ other ∧ index ∉ indices := by
        simpa using absent
      have first : (runFrom (run other) world).2.tasks[index]? =
          world.tasks[index]? := by
        rw [runFrom_run]
        split
        · rename_i body _
          have same : (runFrom body.settle world).2.tasks = world.tasks :=
            body.keeps_settle (fun _ _ => rfl) world
          simp [same, List.getElem?_set_ne different.symm]
        · rfl
      obtain ⟨between, ran, _⟩ := advances_run other world
      rw [ran] at first
      have rest : runFrom ((other :: indices).forM run) world =
          runFrom (indices.forM run) between := runFrom_bind_ok ran
      rw [rest]
      exact (ih absent between).trans first

/-- Awaiting a task that waits settles what it awaits once the tasks made before
it have run. -/
theorem runFrom_await_after {index : Nat} {body : Pending} {world : World}
    (waits : world.tasks[index]? = some ⟨body, none⟩) :
    ∃ between after,
      runFrom (Value.pending (.task index)).await world =
        ((runFrom body.settle between).1, after) ∧
      world.Advances between ∧
      (∀ earlier < index, ∀ other,
        between.tasks[earlier]? ≠ some ⟨other, none⟩) ∧
      after.backdrop = world.backdrop := by
  obtain ⟨between, ran, advances, ended⟩ :=
    advances_forM (List.range index) world
  have waitsStill : between.tasks[index]? = some ⟨body, none⟩ := by
    have absent : index ∉ List.range index := List.not_mem_range_self
    have kept := getElem?_forM_run absent world
    rw [ran] at kept
    exact kept.trans waits
  have inRange : index < world.tasks.length :=
    (List.getElem?_eq_some_iff.mp waits).1
  -- the tasks are those made before this one, this one and the rest
  obtain ⟨rest, split⟩ : ∃ rest, List.range world.tasks.length =
      List.range index ++ index :: rest := by
    obtain ⟨later, isLater⟩ := Nat.exists_eq_add_of_lt inRange
    refine ⟨(List.range later).map fun more => index + (more + 1), ?_⟩
    rw [isLater, Nat.add_assoc, List.range_add, List.range_succ_eq_map]
    simp
  let settled := (runFrom body.settle between).2
  let done : World := { settled with
    tasks := settled.tasks.set index
      ⟨body, some (runFrom body.settle between).1⟩ }
  have sameTasks : settled.tasks = between.tasks :=
    body.keeps_settle (fun _ _ => rfl) between
  have sameBackdrop : done.backdrop = between.backdrop :=
    body.keeps_settle World.still_backdrop.noting between
  have runs : runFrom (run index) between = (.ok (), done) := by
    rw [runFrom_run, waitsStill]
  have inRangeStill : index < settled.tasks.length := by
    rw [sameTasks]
    exact (List.getElem?_eq_some_iff.mp waitsStill).1
  have isDone : done.tasks[index]? =
      some ⟨body, some (runFrom body.settle between).1⟩ := by
    simp [done, inRangeStill]
  obtain ⟨after, ranRest, advancesThen, _⟩ := advances_forM rest done
  have runsAll : runFrom runAll world = (.ok (), after) := by
    rw [runAll, runFrom_bind_ok (runFrom_get world), split]
    change runFrom (forM (List.range index ++ index :: rest) run : Act PUnit)
      world = _
    rw [List.forM_append]
    exact (runFrom_bind_ok ran).trans ((runFrom_bind_ok runs).trans ranRest)
  have checked : runFrom (isWaiting index) world = (.ok true, world) := by
    rw [runFrom_isWaiting, waits]
  refine ⟨between, after, ?_, advances,
    fun earlier before => ended earlier (List.mem_range.mpr before),
    advancesThen.backdrop.trans (sameBackdrop.trans advances.backdrop)⟩
  refine (runFrom_bind_ok (Act.runFrom_look _ world)).trans
    ((runFrom_bind_ok checked).trans ?_)
  exact (runFrom_bind_ok runsAll).trans
    (runFrom_settle_ended (advancesThen.ended index body _ isDone))

end Task

namespace Value

theorem runFrom_await_settled {v : Value} {world : World}
    (settled : (world.look v).isPending = false) :
    runFrom v.await world = (.ok v, world) := by
  rw [await, runFrom_bind_ok (Act.runFrom_look v world)]
  split
  · rename_i awaitable isPending
    simp [isPending, Value.isPending] at settled
  · rfl

theorem runFrom_await_guarded (awaitable : Pending) (world : World) :
    runFrom (Value.pending (.guarded awaitable)).await world =
      runFrom (Pending.guarded awaitable).settle world :=
  rfl

end Value

end RoleGuard
