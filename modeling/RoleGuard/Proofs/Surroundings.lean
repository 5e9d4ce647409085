import RoleGuard.Identity
import RoleGuard.Proofs.Running

/-!
# What serving requests leaves alone

Awaiting notes events and runs tasks.  Calling a value also counts calls of
resolvers and may write contexts, and resolving an identity schedules tasks as
well.  None of them changes any other part of the world.
-/

namespace RoleGuard

/-- A part of the world that awaiting leaves alone: it depends neither on the
journal nor on tasks. -/
structure Still (part : World → κ) : Prop where
  noting : ∀ world journal, part { world with journal } = part world
  tasking : ∀ world tasks, part { world with tasks } = part world

/-- A part of the world that serving requests leaves alone: it depends on
nothing that they change. -/
structure Fixed (part : World → κ) : Prop extends Still part where
  counting : ∀ world resolvers, part { world with resolvers } = part world
  writing : ∀ world objects, part { world with objects } = part world

theorem still_objects : Still World.objects where
  noting _ _ := rfl
  tasking _ _ := rfl

theorem fixed_visits : Fixed World.visits where
  noting _ _ := rfl
  tasking _ _ := rfl
  counting _ _ := rfl
  writing _ _ := rfl

namespace World

variable {world other : World}

theorem held_of_objects (same : other.objects = world.objects)
    (context : Value) : other.held context = world.held context := by
  cases context with
  | object number last => simp only [held, same]
  | _ => rfl

theorem look_of_objects (same : other.objects = world.objects) (v : Value) :
    other.look v = world.look v := by
  cases v with
  | object number last => simp only [look, same]
  | _ => rfl

/-- What a value and every object in it hold depends on the objects alone. -/
theorem refresh_of_objects (same : other.objects = world.objects) (v : Value) :
    other.refresh v = world.refresh v := by
  have within (depth : Nat) : ∀ outer v,
      other.refreshWithin depth outer v =
        world.refreshWithin depth outer v := by
    induction depth with
    | zero => exact fun _ _ => rfl
    | succ depth ih =>
        intro outer v
        simp only [refreshWithin, same, ih]
  unfold refresh
  rw [same]
  exact within _ [] v

theorem refresh_journal (world : World) (journal : Journal) (v : Value) :
    refresh { world with journal } v = world.refresh v := by
  have same : ({ world with journal } : World).objects = world.objects := rfl
  exact refresh_of_objects same v

end World

/-- Calling what answers by itself leaves a part of the world as it is. -/
structure Caller.Spares (part : World → κ) (caller : Caller Act) : Prop where
  fail : ∀ fault, Keeps part (caller.fail fault)
  leaf : ∀ callee argument, Keeps part (caller.leaf callee argument)
  holds : ∀ answer, Keeps part (caller.holds answer)

namespace Value

variable {κ : Type} {part : World → κ} {caller : Caller Act}

theorem keeps_callFirst (spares : caller.Spares part) (items : List Value) :
    Keeps part (callFirst caller items) := by
  cases items with
  | nil => exact .pure _
  | cons item items => exact spares.fail _

mutual

theorem keeps_callBy (spares : caller.Spares part) (v argument : Value) :
    Keeps part (v.callBy caller argument) := by
  cases v with
  | object _ v =>
      rw [callBy]
      exact keeps_callBy spares v argument
  | extended v attributes =>
      rw [callBy]
      split
      · exact keeps_callNamed spares attributes _ _ _ argument
      · exact keeps_callBy spares v argument
  | classed inherited own =>
      rw [callBy]
      exact keeps_callNamed spares inherited _ _ _ argument
  | slotted slots attributes =>
      rw [callBy]
      exact keeps_callNamed spares attributes _ _ _ argument
  | bound receiver function =>
      rw [callBy]
      exact spares.fail _
  | method receiver name =>
      rw [callBy]
      split
      · exact keeps_callBy spares receiver argument
      · exact spares.leaf _ _
  | disjunction source =>
      rw [callBy]
      exact keeps_callItems spares source argument
  | _ =>
      simp only [callBy]
      exact spares.leaf _ _

theorem keeps_callNamed (spares : caller.Spares part)
    (attributes : List (String × Value)) (name : String) (binds : Bool)
    (typeName : String) (argument : Value) :
    Keeps part (callNamed caller attributes name binds typeName argument) := by
  cases attributes with
  | nil =>
      rw [callNamed]
      exact spares.fail _
  | cons entry attributes =>
      obtain ⟨given, v⟩ := entry
      rw [callNamed]
      split
      · split
        · exact spares.fail _
        · exact keeps_callBy spares v argument
      · exact keeps_callNamed spares attributes _ _ _ argument

theorem keeps_callItems (spares : caller.Spares part) (v argument : Value) :
    Keeps part (callItems caller v argument) := by
  cases v with
  | object _ v =>
      rw [callItems]
      exact keeps_callItems spares v argument
  | extended v _ =>
      rw [callItems]
      exact keeps_callItems spares v argument
  | sequence _ items =>
      rw [callItems]
      exact keeps_callEach spares items argument
  | set items =>
      rw [callItems]
      exact keeps_callEach spares items argument
  | map entries =>
      rw [callItems]
      exact keeps_callKeys spares entries argument
  | proxy entries =>
      rw [callItems]
      exact keeps_callKeys spares entries argument
  | annotatedMap entries _ =>
      rw [callItems]
      exact keeps_callKeys spares entries argument
  | range start stop =>
      rw [callItems]
      exact keeps_callFirst spares _
  | elided text =>
      by_cases empty : text = ""
      · subst empty
        rw [callItems]
        exact spares.fail _
      · rw [callItems]
        · exact spares.fail _
        · exact empty
  | _ =>
      simp only [callItems]
      split
      · exact keeps_callFirst spares _
      · exact spares.fail _

theorem keeps_callEach (spares : caller.Spares part) (items : List Value)
    (argument : Value) : Keeps part (callEach caller items argument) := by
  cases items with
  | nil =>
      rw [callEach]
      exact .pure _
  | cons v rest =>
      rw [callEach]
      apply (keeps_callBy spares v argument).bind
      intro answer
      apply (spares.holds answer).bind
      intro isTrue
      split
      · exact .pure _
      · exact keeps_callEach spares rest argument

theorem keeps_callKeys (spares : caller.Spares part)
    (entries : List (Value × Value)) (argument : Value) :
    Keeps part (callKeys caller entries argument) := by
  cases entries with
  | nil =>
      rw [callKeys]
      exact .pure _
  | cons entry rest =>
      obtain ⟨k, _⟩ := entry
      rw [callKeys]
      apply (keeps_callBy spares k argument).bind
      intro answer
      apply (spares.holds answer).bind
      intro isTrue
      split
      · exact .pure _
      · exact keeps_callKeys spares rest argument

end

end Value

section

variable {κ : Type} {part : World → κ}

theorem World.part_replace (writing : ∀ world objects,
    part { world with objects } = part world) (world : World)
    (target v : Value) : part (world.replace target v) = part world := by
  unfold World.replace
  split
  · exact writing world _
  · rfl

theorem Act.keeps_note (noting : ∀ world journal,
    part { world with journal } = part world) (event : Event) :
    Keeps part (Act.note event) :=
  Keeps.modify fun world => noting world _

theorem Context.keeps_read (context key default : Value) :
    Keeps part (Context.read context key default) := by
  apply (Keeps.look context).bind
  intro now
  exact Keeps.ofExcept _

theorem Context.keeps_write (fixed : Fixed part) (context key v : Value) :
    Keeps part (Context.write context key v) := by
  apply Keeps.get.bind
  intro world
  apply (Keeps.ofExcept _).bind
  intro written
  exact Keeps.modify fun world => World.part_replace fixed.writing world _ _

theorem Context.keeps_forget (fixed : Fixed part) (context : Value) :
    Keeps part (Context.forget context) := by
  apply Keeps.get.bind
  intro world
  apply (Keeps.ofExcept _).bind
  intro forgotten
  exact Keeps.modify fun world => World.part_replace fixed.writing world _ _

theorem Outcome.keeps_run (outcome : Outcome) (context : Value) :
    Keeps part (outcome.run context) := by
  cases outcome with
  | value v => exact .pure v
  | raise kind message => exact .fail _
  | abort message => exact .abort message
  | lookUp key =>
      apply (Keeps.look context).bind
      intro now
      exact Keeps.ofExcept _

theorem keeps_callRegistered (counting : ∀ world resolvers,
    part { world with resolvers } = part world) (index : Nat)
    (context : Value) : Keeps part (callRegistered index context) := by
  apply Keeps.get.bind
  intro world
  split
  · exact .pure _
  · split
    · exact .fail _
    · apply (Keeps.modify fun world => counting world _).bind
      intro _
      split
      · exact .pure _
      · exact Outcome.keeps_run _ context

theorem Operation.keeps_perform (fixed : Fixed part) (operation : Operation)
    (argument : Value) : Keeps part (operation.perform argument) := by
  have logged {α : Type} (computation : Logged α) :
      Keeps part (Act.ofLogged computation) :=
    Keeps.ofLogged computation fixed.noting
  apply (Keeps.refresh argument).bind
  intro now
  cases operation with
  | readRole => exact (logged _).bind fun _ => .pure _
  | buildRoleRules | makeTree | makePath =>
      exact (Keeps.ofExcept _).bind fun _ => .pure _
  | anyOfItems => exact .ofExcept _
  | loadPolicyFile => exact Keeps.get.bind fun _ => logged _
  | normalizeRoles => exact logged _
  | forgetIdentity =>
      exact (Context.keeps_forget fixed argument).bind fun _ => .pure _
  | _ => exact .pure _

theorem Calling.keeps_answer (fixed : Fixed part) (calling : Calling)
    (typeName : String) (argument : Value) :
    Keeps part (calling.answer typeName argument) := by
  cases calling with
  | performs operation => exact Operation.keeps_perform fixed operation argument
  | _ => exact .fail _

theorem Act.spares_caller (fixed : Fixed part) : Act.caller.Spares part where
  fail := .fail
  leaf callee argument := by
    cases callee with
    | resolver index _ => exact keeps_callRegistered fixed.counting index argument
    | named _ typeName calling =>
        exact Calling.keeps_answer fixed calling typeName argument
    | rule r =>
        exact (Keeps.look argument).bind fun now =>
          Keeps.ofLogged _ fixed.noting
    | _ => exact Keeps.get.bind fun world => .ofExcept _
  holds answer := (Keeps.look answer).bind fun _ => .pure _

theorem keeps_callSimply (fixed : Fixed part) (source context : Value) :
    Keeps part (callSimply source context) :=
  (Keeps.refresh source).bind fun now =>
    now.keeps_callBy (Act.spares_caller fixed) context

theorem keeps_withoutFailure (noting : ∀ world journal,
    part { world with journal } = part world) {operation : Act Value}
    (kept : Keeps part operation) : Keeps part (withoutFailure operation) :=
  kept.tolerate fun fault =>
    (Act.keeps_note noting (.resolverFailed fault)).bind fun _ => .pure _

theorem Pending.keeps_settle (noting : ∀ world journal,
    part { world with journal } = part world) (awaitable : Pending) :
    Keeps part awaitable.settle := by
  induction awaitable using Pending.settle.induct with
  | case1 outcome => exact outcome.keeps_run .null
  | case2 context outcome => exact outcome.keeps_run context
  | case3 inner ih => exact keeps_withoutFailure noting ih
  | case4 typeName => exact .fail _
  | case5 index =>
      apply Keeps.get.bind
      intro world
      split
      · exact .pure _
      · exact .throw _
      · exact .pure _

theorem Task.keeps_run (still : Still part) (index : Nat) :
    Keeps part (Task.run index) := by
  apply Keeps.get.bind
  intro world
  split
  · rename_i body _
    apply (body.keeps_settle still.noting).observe.bind
    intro result
    exact Keeps.modify fun world => still.tasking world _
  · exact .pure _

theorem Pending.keeps_await (still : Still part) (awaitable : Pending) :
    Keeps part awaitable.await := by
  have settled := awaitable.keeps_settle still.noting
  cases awaitable with
  | task index =>
      have checked : Keeps part (Task.isWaiting index) := by
        apply Keeps.get.bind
        intro world
        split
        · exact .pure _
        · exact .pure _
      have ran : Keeps part Task.runAll :=
        Keeps.get.bind fun world => Keeps.forM (Task.keeps_run still)
      apply checked.bind
      intro waits
      split
      · exact ran.bind fun _ => settled
      · exact (Keeps.pure ()).bind fun _ => settled
  | _ => exact (Keeps.pure ()).bind fun _ => settled

theorem Value.keeps_await (still : Still part) (v : Value) :
    Keeps part v.await := by
  apply (Keeps.look v).bind
  intro now
  split
  · exact Pending.keeps_await still _
  · exact .pure v

namespace Identity

theorem keeps_source (context key resolver : Value) :
    Keeps part (source context key resolver) := by
  cases resolver with
  | null => exact Context.keeps_read context key .null
  | _ => exact .pure _

theorem keeps_remember (fixed : Fixed part) (context memo : Value) :
    Keeps part (remember context memo) := by
  apply (Context.keeps_write fixed context _ memo).tolerate
  intro fault
  split
  · exact .pure _
  · exact .fail fault

theorem keeps_keep (fixed : Fixed part) (context source : Value)
    (operation : Option String) (answer : Value) :
    Keeps part (keep context source operation answer) := by
  have scheduled (body : Pending) : Keeps part (Task.schedule body) := by
    intro world
    exact fixed.tasking world _
  apply (Keeps.look answer).bind
  intro now
  split
  · apply Keeps.get.bind
    intro world
    split
    · apply (scheduled _).bind
      intro task
      exact (keeps_remember fixed context _).bind fun _ => .pure task
    · exact .pure _
  · exact (keeps_remember fixed context _).bind fun _ => .pure answer

theorem keeps_resolveBy (fixed : Fixed part) {call : Value → Value → Act Value}
    (calls : ∀ source context, Keeps part (call source context))
    (context key resolver : Value) (operation : Option String) :
    Keeps part (resolveBy call context key resolver operation) := by
  apply (keeps_source context key resolver).bind
  intro source
  split
  · apply (Context.keeps_read context _ .null).bind
    intro memo
    split
    · exact .pure _
    · apply (keeps_withoutFailure fixed.noting (calls source context)).bind
      intro answer
      exact keeps_keep fixed context source operation answer
  · exact .pure source

end Identity

theorem keeps_callValue (fixed : Fixed part) (source context : Value) :
    Keeps part (callValue source context) := by
  unfold callValue
  split
  · exact Identity.keeps_resolveBy fixed (keeps_callSimply fixed) context _ _ _
  · exact keeps_callSimply fixed source context

theorem Identity.keeps_resolve (fixed : Fixed part)
    (context key resolver : Value) (operation : Option String) :
    Keeps part (resolve context key resolver operation) :=
  keeps_resolveBy fixed (keeps_callValue fixed) context key resolver operation

end

/-- Calling what an application has registered leaves all objects alone. -/
theorem objects_callValue_resolver (index : Nat) (likeness : Option String)
    (context : Value) (world : World) :
    (runFrom (callValue (.resolver index likeness) context) world).2.objects =
      world.objects := by
  have kept : Keeps World.objects (callRegistered index context) :=
    keeps_callRegistered (fun _ _ => rfl) index context
  exact kept world

end RoleGuard
