import RoleGuard.Proofs.Noting
import RoleGuard.Settings.Policy

/-!
# Building a policy only notes

Reading a table, compiling it and loading a policy file note the same and end
in the same way, whatever has been noted before.  Building the policy that
settings describe therefore depends on the store of objects and on the host
alone, and changes nothing but the journal.
-/

namespace RoleGuard

/-- Two worlds with the same objects on the same host. -/
structure World.SameStore (world other : World) : Prop where
  objects : other.objects = world.objects
  host : other.host = world.host

namespace World

theorem SameStore.refl (world : World) : world.SameStore world :=
  ⟨rfl, rfl⟩

theorem SameStore.trans {world between after : World}
    (first : world.SameStore between) (second : between.SameStore after) :
    world.SameStore after :=
  ⟨second.objects.trans first.objects, second.host.trans first.host⟩

theorem sameStore_noted (world : World) (events : Journal) :
    world.SameStore (world.noted events) :=
  ⟨rfl, rfl⟩

theorem lasting_sameStore : Lasting SameStore :=
  fun _ _ _ same => ⟨same.objects, same.host⟩

end World

/-- A computation that ends in the same way and notes the same events, whatever
has been noted before. -/
def Logged.Uniform {ε α : Type} (computation : ExceptT ε (StateM Journal) α) :
    Prop :=
  Logged.Agree computation computation

namespace Logged.Uniform

variable {ε α β : Type}

theorem pure (a : α) : Uniform (pure a : ExceptT ε (StateM Journal) α) :=
  Agree.pure a

theorem throw (failure : ε) :
    Uniform (throw failure : ExceptT ε (StateM Journal) α) :=
  Agree.throw failure

theorem note (event : Event) :
    Uniform (note event : ExceptT ε (StateM Journal) Unit) :=
  ⟨.ok (), [event], fun _ => ⟨rfl, rfl⟩⟩

theorem lift (result : Except ε α) :
    Uniform (liftM result : ExceptT ε (StateM Journal) α) :=
  ⟨result, [], fun journal => by simp⟩

theorem bind {first : ExceptT ε (StateM Journal) α}
    {next : α → ExceptT ε (StateM Journal) β} (begins : Uniform first)
    (goesOn : ∀ a, Uniform (next a)) : Uniform (first >>= next) :=
  Agree.bind begins goesOn

theorem map {first : ExceptT ε (StateM Journal) α} (f : α → β)
    (begins : Uniform first) : Uniform (f <$> first) := by
  rw [map_eq_pure_bind]
  exact begins.bind fun a => .pure (f a)

theorem adapt {ε' : Type} {computation : ExceptT ε (StateM Journal) α}
    (uniform : Uniform computation) (rename : ε → ε') :
    Uniform (computation.adapt rename) := by
  obtain ⟨ending, events, ended⟩ := uniform
  refine ⟨ending.mapError rename, events, fun journal => ?_⟩
  rw [runFrom_adapt, (ended journal).1]
  exact ⟨rfl, rfl⟩

end Logged.Uniform

theorem uniform_allowedRoles (declared : List String) (location : String)
    (field : Option String) (kept : List String) (items : List Value) :
    Logged.Uniform (allowedRoles declared location field kept items) := by
  induction items generalizing kept with
  | nil => exact .pure kept
  | cons item items ih =>
      cases item with
      | text name =>
          rw [allowedRoles]
          split
          · exact .throw _
          · split
            · exact (Logged.Uniform.note _).bind fun _ => ih kept
            · exact ih (kept ++ [name])
      | _ => exact .throw _

theorem uniform_allowedFields (declared : List String) (location : String)
    (entries : List (Value × Value)) :
    Logged.Uniform (allowedFields declared location entries) := by
  induction entries with
  | nil => exact .pure []
  | cons entry entries ih =>
      obtain ⟨key, roles⟩ := entry
      cases key with
      | text field =>
          rw [allowedFields]
          split
          · exact .throw _
          · split
            · exact .throw _
            · apply (uniform_allowedRoles declared location _ [] _).bind
              intro names
              exact ih.bind fun fields => .pure _
      | _ => exact .throw _

theorem uniform_readEntry (declared : List String) (location : String)
    (entry : Value) : Logged.Uniform (readEntry declared location entry) := by
  unfold readEntry
  split
  · exact (uniform_allowedRoles declared location none [] _).map _
  · split
    · exact (uniform_allowedFields declared location _).map _
    · exact .throw _

theorem uniform_readEntries (declared : List String)
    (entries : List (Value × Value)) :
    Logged.Uniform (readEntries declared entries) := by
  induction entries with
  | nil => exact .pure []
  | cons entry entries ih =>
      obtain ⟨key, v⟩ := entry
      cases key with
      | text location =>
          rw [readEntries]
          split
          · exact .throw _
          · apply (uniform_readEntry declared location v).bind
            intro entry
            exact ih.bind fun entries => .pure _
      | _ => exact .throw _

theorem uniform_readTable (declared : List String) (table : Value) :
    Logged.Uniform (readTable declared table) := by
  have entriesRead : Logged.Uniform (tableEntries table) := by
    unfold tableEntries
    split
    · exact .pure _
    · exact .throw _
  exact entriesRead.bind (uniform_readEntries declared)

theorem PermissionTree.uniform_compile (roles table : Value) :
    Logged.Uniform (compile roles table) := by
  have built : Logged.Uniform (build roles table) := by
    unfold build
    apply (Logged.Uniform.lift _).bind
    intro declared
    apply (uniform_readTable _ table).bind
    intro entries
    exact (Logged.Uniform.note _).bind fun _ => .pure _
  exact built.adapt _

theorem Policy.uniform_compile (source : PolicySource) :
    Logged.Uniform (compile source) := by
  unfold compile
  split
  · exact .throw _
  · split
    · exact .throw _
    · exact (PermissionTree.uniform_compile _ _).bind fun tree => .pure _

theorem PolicyFile.uniform_load (host : Host) (path : Value) :
    Logged.Uniform (load host path) := by
  unfold load
  apply (Logged.Uniform.lift _).bind
  intro path
  apply (Logged.Uniform.lift _).bind
  intro source
  apply (Logged.Uniform.lift _).bind
  intro document
  split
  · exact .throw _
  · exact (Logged.Uniform.note _).bind fun _ => .pure _

namespace Notes

variable {alike : World → World → Prop}

theorem fail (fault : Fault) : Notes alike (Act.fail fault : Act α) :=
  .throw _

theorem logged {computation : Logged α} (uniform : Logged.Uniform computation) :
    Notes alike (Act.ofLogged computation) := by
  have notes : Notes alike
      (do Act.ofLogged ((fun _ : World => computation) (← get))) :=
    Notes.ofLogged fun _ _ _ => uniform
  exact notes

theorem look (v : Value) : Notes World.SameStore (Act.look v) :=
  Notes.read fun _ _ same => by rw [World.look_of_objects same.objects]

theorem refresh (v : Value) : Notes World.SameStore (Act.refresh v) :=
  Notes.read fun _ _ same => by rw [World.refresh_of_objects same.objects]

end Notes

theorem Settings.notes_resolveGetUser (settings : Settings) :
    Notes World.SameStore settings.resolveGetUser := by
  unfold resolveGetUser
  split
  · exact .pure _
  · split
    · apply Notes.readOn
      · intro world other same
        rw [same.host]
      · intro world
        split
        · exact .pure _
        · split
          · exact .fail _
          · exact .fail _
    · exact .fail _
    · exact .fail _
    · exact (Notes.refresh _).bind World.lasting_sameStore fun _ => .fail _

theorem Settings.notes_resolveFallbackRule (settings : Settings) :
    Notes World.SameStore settings.resolveFallbackRule := by
  unfold resolveFallbackRule
  split
  · exact .pure _
  · split
    · exact .pure _
    · exact .pure _
    · exact (Notes.refresh _).bind World.lasting_sameStore fun _ => .fail _

namespace Policy

theorem notes_firstGiven (first second : Value) :
    Notes World.SameStore (firstGiven first second) :=
  (Notes.look first).bind World.lasting_sameStore fun _ => .pure _

theorem notes_rolesAndSchema (settings : Settings) :
    Notes World.SameStore (rolesAndSchema settings) := by
  unfold rolesAndSchema
  apply (Notes.look settings.schemaFile).bind World.lasting_sameStore
  intro named
  split
  · apply (Notes.look settings.schemaFile).bind World.lasting_sameStore
    intro path
    have reads : Notes World.SameStore
        (do return (← get).host : Act Host) :=
      Notes.read fun _ _ same => same.host
    have loads : Notes World.SameStore (do
        let host ← (do return (← get).host : Act Host)
        let file ← Act.ofLogged (PolicyFile.load host path)
        return (← firstGiven settings.roles file.roles,
          ← firstGiven settings.schema file.schema) : Act (Value × Value)) := by
      apply reads.bind World.lasting_sameStore
      intro host
      apply (Notes.logged (PolicyFile.uniform_load host path)).bind
        World.lasting_sameStore
      intro file
      apply (notes_firstGiven _ _).bind World.lasting_sameStore
      intro roles
      exact (notes_firstGiven _ _).bind World.lasting_sameStore fun _ => .pure _
    exact loads
  · exact .pure _

theorem notes_make (source : PolicySource) :
    Notes World.SameStore (make source) := by
  unfold make
  apply (Notes.refresh source.roles).bind World.lasting_sameStore
  intro roles
  apply (Notes.refresh source.schema).bind World.lasting_sameStore
  intro schema
  exact (Notes.logged (uniform_compile _)).bind World.lasting_sameStore
    fun policy => .pure _

/-- Building the policy that settings describe only notes. -/
theorem notes_ofSettings (settings : Settings) :
    Notes World.SameStore (ofSettings settings) := by
  unfold ofSettings
  apply (notes_rolesAndSchema settings).bind World.lasting_sameStore
  rintro ⟨roles, schema⟩
  apply settings.notes_resolveGetUser.bind World.lasting_sameStore
  intro getUser
  apply settings.notes_resolveFallbackRule.bind World.lasting_sameStore
  intro fallbackRule
  exact notes_make _

end Policy

end RoleGuard
