import Mathlib.Data.List.Nodup
import RoleGuard.Proofs.Configuration
import RoleGuard.Proofs.DefaultPolicy
import RoleGuard.Proofs.Loading

/-!
# How a setting, a policy file and the defaults combine

The policy of a setting is the one made directly from the values that are in
effect: those of the setting and, where it says nothing, the defaults.  Roles
and table that are not given inline come from the policy file that the setting
names, each by itself.  Making the policy only notes, so its parts can be told
apart: it succeeds exactly if every part does.
-/

namespace RoleGuard

/-- What follows a computation that only notes ends as it would without it. -/
theorem Notes.ending_bind {first : Act α} {next : α → Act β}
    (begins : Notes World.SameStore first)
    (goesOn : ∀ a, Notes World.SameStore (next a)) (world : World) :
    (runFrom (first >>= next) world).1 = (do
      let a ← (runFrom first world).1
      (runFrom (next a) world).1) := by
  obtain ⟨ending, events, ran⟩ := begins.uniform (.refl world)
  rw [ran world (.refl world)]
  cases ending with
  | error stop =>
      rw [runFrom_bind_error (ran world (.refl world))]
      rfl
  | ok a =>
      obtain ⟨ending, more, rest⟩ := (goesOn a).uniform (.refl world)
      rw [runFrom_bind_ok (ran world (.refl world)),
        rest _ (world.sameStore_noted events)]
      exact (congrArg Prod.fst (rest world (.refl world))).symm

/-- Every role that the table of a well-formed configuration lists is
declared. -/
theorem WellFormed.declared {roles table : Value}
    (wellFormed : WellFormed roles table) {type field : String}
    {items : List Value} (listed : table.listed? type field = some items)
    {role : Value} (member : role ∈ items) :
    role ∈ roles.elements?.getD [] := by
  obtain ⟨names, entries, ⟨isList, _⟩, isMapping, sound⟩ := wellFormed
  have declared {v : Value} {read : List Value} (soundRoles : SoundRoles names v)
      (isRead : v.roleItems? = some read) (among : role ∈ read) :
      role ∈ roles.elements?.getD [] := by
    obtain ⟨others, isOthers, all⟩ := roleItems?_of_soundRoles soundRoles
    cases isRead.symm.trans isOthers
    obtain ⟨name, isName, rfl⟩ := all role among
    rw [isList]
    exact List.mem_map_of_mem isName
  unfold Value.listed? at listed
  rw [isMapping] at listed
  split at listed
  · cases listed
  · rename_i entry found
    obtain ⟨key, inTable⟩ := Value.mem_of_find? found
    obtain ⟨_, soundEntry⟩ := sound _ inTable
    split at listed
    · rename_i read isRead
      cases listed
      rcases soundEntry with soundRoles | ⟨fields, isFields, _⟩
      · exact declared soundRoles isRead member
      · have noList := Value.roleItems?_eq_none
          (elements?_eq_none_of_entries? isFields)
        cases noList.symm.trans isRead
    · rename_i noList
      obtain ⟨v, foundField, rfl⟩ := Option.map_eq_some_iff.mp listed
      rcases soundEntry with soundRoles | ⟨fields, isFields, soundFields⟩
      · obtain ⟨read, isRead, _⟩ := roleItems?_of_soundRoles soundRoles
        cases noList.symm.trans isRead
      · rw [isFields] at foundField
        obtain ⟨name, inFields⟩ := Value.mem_of_find? foundField
        obtain ⟨_, soundRoles⟩ := soundFields _ inFields
        obtain ⟨read, isRead, _⟩ := roleItems?_of_soundRoles soundRoles
        rw [isRead] at member
        exact declared soundRoles isRead member

/-- Making a policy ends as compiling what its roles and table hold now. -/
theorem Policy.ending_make (source : PolicySource) (world : World) :
    (runFrom (make source) world).1 =
      ((runFrom (compile { source with
          roles := world.refresh source.roles
          schema := world.refresh source.schema }) world.journal).1.map
        fun policy => { policy with schema := source.schema }).mapError
          .fault := by
  unfold make
  rw [runFrom_bind_ok (Act.runFrom_refresh _ world),
    runFrom_bind_ok (Act.runFrom_refresh _ world), runFrom_bind,
    Act.runFrom_ofLogged]
  generalize runFrom (compile _) world.journal = ended
  obtain ⟨ending, journal⟩ := ended
  cases ending <;> rfl

/-- No policy is made from a configuration that is not well formed. -/
theorem Policy.fails_make {source : PolicySource} {world : World}
    (illFormed : ¬ WellFormed (world.refresh source.roles)
      (world.refresh source.schema)) :
    ∃ cause : Misconfiguration,
      (runFrom (make source) world).1 = .error (.fault cause.fault) := by
  have fails : ∃ cause : Misconfiguration, Fails (compile { source with
      roles := world.refresh source.roles
      schema := world.refresh source.schema }) cause.fault := by
    unfold compile
    split
    · exact ⟨.resolverNotCallable, .throw _⟩
    · split
      · exact ⟨.fallbackNotRule, .throw _⟩
      · obtain ⟨violation, first⟩ :=
          (wellFormed_or_firstViolation _ _).resolve_left illFormed
        obtain ⟨cause, _, fails⟩ := fails_compile first
        exact ⟨cause, fails.bind _⟩
  obtain ⟨cause, fails⟩ := fails
  refine ⟨cause, ?_⟩
  rw [ending_make, fails world.journal]
  rfl

namespace Settings

/-- What is in effect under each known name: what the entries of a setting have
there, and the default if they have nothing. -/
def inEffect (entries : List (Value × Value)) : List (String × Value) :=
  ({} : Settings).toEntries.map fun entry =>
    (entry.1, (Value.find? entries (.text entry.1)).getD entry.2)

theorem toEntries_ofLookUp (entries : List (Value × Value)) :
    (ofLookUp fun name => Value.find? entries (.text name)).toEntries =
      inEffect entries :=
  rfl

theorem toEntries_injective {settings other : Settings}
    (same : settings.toEntries = other.toEntries) : settings = other := by
  cases settings
  cases other
  simpa [toEntries] using same

/-- The identity resolver of settings: the one given, or what the host has
under the path given. -/
inductive Resolves (settings : Settings) (host : Host) : Value → Prop where
  | given : settings.getUser.isCallable = true →
      Resolves settings host settings.getUser
  | imported {path : String} {v : Value} :
      settings.getUser.isCallable = false →
      settings.getUser.content = .text path →
      host.importPath path = .ok v → Resolves settings host v

/-- The fallback rule of settings: the one given, or one of the two known by
name. -/
inductive FallsBack (settings : Settings) : Value → Prop where
  | given : settings.fallbackRule.isRule = true →
      FallsBack settings settings.fallbackRule
  | allow : settings.fallbackRule = .text "allow" →
      FallsBack settings (.rule .allow)
  | deny : settings.fallbackRule = .text "deny" →
      FallsBack settings (.rule .deny)

/-- The roles and the table of settings.  Where a policy file is named, each of
the two is taken from it if it is not given inline. -/
inductive Chooses (settings : Settings) (world : World) :
    Value → Value → Prop where
  | inline : (world.look settings.schemaFile).truthy = false →
      Chooses settings world settings.roles settings.schema
  | file {file : PolicyFile} :
      (world.look settings.schemaFile).truthy = true →
      (runFrom (PolicyFile.load world.host
        (world.look settings.schemaFile)) world.journal).1 = .ok file →
      Chooses settings world
        (if (world.look settings.roles).truthy then settings.roles
          else file.roles)
        (if (world.look settings.schema).truthy then settings.schema
          else file.schema)

/-- What the policy of settings is made from. -/
structure Sources (settings : Settings) (world : World)
    (source : PolicySource) : Prop where
  chosen : settings.Chooses world source.roles source.schema
  getUser : settings.Resolves world.host source.getUser
  fallbackRule : settings.FallsBack source.fallbackRule
  contextKey : source.contextKey = settings.contextKey
  fallbackError : source.fallbackError = settings.fallbackError
  debug : source.debug = settings.debug

section

variable {settings : Settings} {world : World} {v : Value}

/-- What looking for a resolver by its path comes to. -/
theorem runFrom_resolveGetUser_path {path : String}
    (notCallable : settings.getUser.isCallable = false)
    (isPath : settings.getUser.content = .text path) :
    runFrom settings.resolveGetUser world =
      (match world.host.importPath path with
        | .ok v => .ok v
        | .error fault =>
            if fault.kind = .failedImport then
              .error (.fault
                (.configuration (.resolverNotImported path fault.message)))
            else .error (.fault fault), world) := by
  unfold resolveGetUser
  rw [notCallable, if_neg Bool.false_ne_true, isPath]
  dsimp only
  rw [runFrom_bind_ok (runFrom_get world)]
  cases world.host.importPath path with
  | ok v => rfl
  | error fault =>
      dsimp only
      split <;> rfl

theorem resolveGetUser_eq_ok_iff :
    (runFrom settings.resolveGetUser world).1 = .ok v ↔
      settings.Resolves world.host v := by
  constructor
  · intro given
    cases callable : settings.getUser.isCallable with
    | true =>
        rw [resolveGetUser, if_pos callable] at given
        cases given
        exact .given callable
    | false =>
        cases isPath : settings.getUser.content with
        | text path =>
            rw [runFrom_resolveGetUser_path callable isPath] at given
            dsimp only at given
            split at given
            · rename_i imports
              cases given
              exact .imported callable isPath imports
            · split at given <;> cases given
        | _ =>
            simp [resolveGetUser, callable, isPath, Act.fail, runFrom_bind,
              Act.runFrom_refresh] at given
  · intro resolves
    cases resolves with
    | given callable =>
        rw [resolveGetUser, if_pos callable]
        rfl
    | imported notCallable isPath imports =>
        rw [runFrom_resolveGetUser_path notCallable isPath, imports]

theorem resolveFallbackRule_eq_ok_iff :
    (runFrom settings.resolveFallbackRule world).1 = .ok v ↔
      settings.FallsBack v := by
  unfold resolveFallbackRule
  constructor
  · intro given
    split at given
    · rename_i isRule
      cases given
      exact .given isRule
    · split at given
      · rename_i isWord
        cases given
        exact .allow isWord
      · rename_i isWord
        cases given
        exact .deny isWord
      · simp [Act.fail, runFrom_bind, Act.runFrom_refresh] at given
  · intro fallsBack
    cases fallsBack with
    | given isRule =>
        rw [if_pos isRule]
        rfl
    | allow isWord =>
        rw [isWord]
        rfl
    | deny isWord =>
        rw [isWord]
        rfl

/-- What naming a policy file that loads comes to. -/
theorem runFrom_rolesAndSchema_file
    (isNamed : (world.look settings.schemaFile).truthy = true) :
    (runFrom (Policy.rolesAndSchema settings) world).1 =
      ((runFrom (PolicyFile.load world.host
          (world.look settings.schemaFile)) world.journal).1.map fun file =>
        (if (world.look settings.roles).truthy then settings.roles
            else file.roles,
          if (world.look settings.schema).truthy then settings.schema
            else file.schema)).mapError .fault := by
  have begun : runFrom (Policy.rolesAndSchema settings) world =
      runFrom (do
        let file ← Act.ofLogged (PolicyFile.load world.host
          (world.look settings.schemaFile))
        return (← Policy.firstGiven settings.roles file.roles,
          ← Policy.firstGiven settings.schema file.schema)) world := by
    unfold Policy.rolesAndSchema
    rw [runFrom_bind_ok (Act.runFrom_look _ world), if_pos isNamed,
      runFrom_bind_ok (Act.runFrom_look _ world)]
    rfl
  rw [begun, runFrom_bind, Act.runFrom_ofLogged]
  cases runFrom (PolicyFile.load world.host
      (world.look settings.schemaFile)) world.journal with
  | mk ending journal =>
      cases ending with
      | error fault => rfl
      | ok file => rfl

/-- Without a policy file, roles and table are those given inline. -/
theorem runFrom_rolesAndSchema_inline
    (notNamed : (world.look settings.schemaFile).truthy = false) :
    runFrom (Policy.rolesAndSchema settings) world =
      (.ok (settings.roles, settings.schema), world) := by
  unfold Policy.rolesAndSchema
  rw [runFrom_bind_ok (Act.runFrom_look _ world), notNamed]
  rfl

theorem rolesAndSchema_eq_ok_iff {roles schema : Value} :
    (runFrom (Policy.rolesAndSchema settings) world).1 = .ok (roles, schema) ↔
      settings.Chooses world roles schema := by
  cases isNamed : (world.look settings.schemaFile).truthy with
  | false =>
      rw [runFrom_rolesAndSchema_inline isNamed]
      constructor
      · intro given
        cases given
        exact .inline isNamed
      · intro chooses
        cases chooses with
        | inline => rfl
        | file named => simp [isNamed] at named
  | true =>
      rw [runFrom_rolesAndSchema_file isNamed]
      constructor
      · intro given
        cases loaded : (runFrom (PolicyFile.load world.host
            (world.look settings.schemaFile)) world.journal).1 with
        | error fault =>
            rw [loaded] at given
            cases given
        | ok file =>
            rw [loaded] at given
            cases given
            exact .file isNamed loaded
      · intro chooses
        cases chooses with
        | inline notNamed => simp [isNamed] at notNamed
        | file _ loaded =>
            rw [loaded]
            rfl

/-- The policy of settings ends as its parts do. -/
theorem ending_ofSettings :
    (runFrom (Policy.ofSettings settings) world).1 = (do
      let chosen ← (runFrom (Policy.rolesAndSchema settings) world).1
      let getUser ← (runFrom settings.resolveGetUser world).1
      let fallbackRule ← (runFrom settings.resolveFallbackRule world).1
      (runFrom (Policy.make {
        roles := chosen.1, schema := chosen.2, getUser, fallbackRule
        contextKey := settings.contextKey
        fallbackError := settings.fallbackError
        debug := settings.debug }) world).1) := by
  have fallsBackNotes := settings.notes_resolveFallbackRule
  have resolvesNotes := settings.notes_resolveGetUser
  unfold Policy.ofSettings
  rw [Notes.ending_bind (Policy.notes_rolesAndSchema settings)]
  · apply bind_congr
    rintro ⟨roles, schema⟩
    rw [Notes.ending_bind resolvesNotes]
    · apply bind_congr
      intro getUser
      rw [Notes.ending_bind fallsBackNotes fun _ => Policy.notes_make _]
    · intro getUser
      exact fallsBackNotes.bind World.lasting_sameStore
        fun _ => Policy.notes_make _
  · rintro ⟨roles, schema⟩
    apply resolvesNotes.bind World.lasting_sameStore
    intro getUser
    exact fallsBackNotes.bind World.lasting_sameStore
      fun _ => Policy.notes_make _

/-- Once its parts are there, the policy is made directly from them. -/
theorem Sources.ending_ofSettings {source : PolicySource}
    (sources : settings.Sources world source) :
    (runFrom (Policy.ofSettings settings) world).1 =
      (runFrom (Policy.make source) world).1 := by
  obtain ⟨roles, schema, getUser, contextKey, fallbackRule, fallbackError,
    debug⟩ := source
  obtain ⟨chosen, resolves, fallsBack, rfl, rfl, rfl⟩ := sources
  rw [Settings.ending_ofSettings, rolesAndSchema_eq_ok_iff.mpr chosen,
    resolveGetUser_eq_ok_iff.mpr resolves,
    resolveFallbackRule_eq_ok_iff.mpr fallsBack]
  rfl

/-- The policy of settings is made if all of its parts are there and it can be
made from them. -/
theorem ofSettings_eq_ok_iff {policy : Policy} :
    (runFrom (Policy.ofSettings settings) world).1 = .ok policy ↔
      ∃ source, settings.Sources world source ∧
        (runFrom (Policy.make source) world).1 = .ok policy := by
  constructor
  · intro made
    simp only [ending_ofSettings, bind_eq_ok_iff] at made
    obtain ⟨⟨roles, schema⟩, chosen, getUser, resolves, fallbackRule, fallsBack,
      makes⟩ := made
    exact ⟨_, ⟨rolesAndSchema_eq_ok_iff.mp chosen,
      resolveGetUser_eq_ok_iff.mp resolves,
      resolveFallbackRule_eq_ok_iff.mp fallsBack, rfl, rfl, rfl⟩, makes⟩
  · rintro ⟨source, sources, makes⟩
    rw [sources.ending_ofSettings, makes]

end

/-- An entry that says nothing new beside others: one under a key that is no
known name, or the default under a name that they have nothing under. -/
inductive Idle (entries : List (Value × Value)) : Value → Value → Prop where
  | unknown {key v : Value} :
      (∀ name ∈ names, key.same (.text name) = false) → Idle entries key v
  | default {name : String} {v : Value} :
      (name, v) ∈ ({} : Settings).toEntries →
      Value.find? entries (.text name) = none → Idle entries (.text name) v

theorem find?_between {before after : List (Value × Value)} {key v asked : Value}
    (different : key.same asked = false) :
    Value.find? (before ++ (key, v) :: after) asked =
      Value.find? (before ++ after) asked := by
  unfold Value.find?
  rw [List.find?_append, List.find?_append,
    List.find?_cons_of_neg (by simpa using different)]

theorem find?_between_self {before after : List (Value × Value)} {name : String}
    {v : Value}
    (absent : Value.find? (before ++ after) (.text name) = none) :
    Value.find? (before ++ (.text name, v) :: after) (.text name) = some v := by
  have itself : (Value.text name).same (.text name) = true := by
    rw [Value.same_text, beq_self_eq_true]
  unfold Value.find? at absent ⊢
  rw [Option.map_eq_none_iff, List.find?_append, Option.or_eq_none_iff]
    at absent
  rw [List.find?_append, absent.1, List.find?_cons, itself]
  rfl

/-- Idle entries change nothing that is in effect. -/
theorem Idle.inEffect_eq {before after : List (Value × Value)} {key v : Value}
    (idle : Idle (before ++ after) key v) :
    inEffect (before ++ (key, v) :: after) = inEffect (before ++ after) := by
  apply List.map_congr_left
  intro entry member
  cases idle with
  | unknown other =>
      rw [find?_between (other entry.1 (List.mem_map_of_mem member))]
  | @default name v isDefault absent =>
      by_cases isName : name = entry.1
      · have distinct : (({} : Settings).toEntries.map Prod.fst).Nodup := by
          decide
        have isEntry : (name, v) = entry :=
          List.inj_on_of_nodup_map distinct isDefault member isName
        subst isEntry
        rw [find?_between_self absent, absent]
        rfl
      · have different : (Value.text name).same (.text entry.1) = false := by
          rw [Value.same_text, beq_eq_false_iff_ne]
          exact isName
        rw [find?_between different]

theorem ofSetting_of_content {setting : Value} {entries : List (Value × Value)}
    (isDict : setting.content = .map entries) :
    ofSetting setting =
      .ok (ofLookUp fun name => Value.find? entries (.text name)) := by
  unfold ofSetting Value.orElse
  cases held : setting.truthy with
  | true => rw [if_pos rfl, isDict]
  | false =>
      have isEmpty : (!(entries.map Prod.fst).isEmpty) = false := by
        unfold Value.truthy Value.items? at held
        rw [isDict] at held
        exact held
      have noEntries : entries = [] := by simpa using isEmpty
      rw [noEntries]
      rfl

end Settings

namespace Site

/-- What making a policy of the setting in place gives, and the world that it
leaves. -/
def fromSetting (site : Site) (world : World) : Except Stop Policy × World :=
  let ended := run (do Policy.ofSettings (← settings)) site world
  (ended.1.map Prod.fst, ended.2)

theorem fromSetting_eq {site : Site} {world : World}
    {entries : List (Value × Value)}
    (isDict : (world.look site.setting).content = .map entries) :
    site.fromSetting world = runFrom (Policy.ofSettings (Settings.ofLookUp
      fun name => Value.find? entries (.text name))) world := by
  unfold fromSetting
  rw [run_ofSettings, runFrom_describe, Settings.ofSetting_of_content isDict]
  dsimp only
  generalize runFrom (Policy.ofSettings _) world = ended
  obtain ⟨ending, after⟩ := ended
  cases ending <;> rfl

/-- How the policy of a setting comes about from the settings that are in
effect. -/
structure Combines (site : Site) (world : World)
    (entries : List (Value × Value)) (settings : Settings) : Prop where
  /-- Under each known name is what the setting has there, or the default. -/
  inEffect : settings.toEntries = Settings.inEffect entries
  /-- The policies that are made are those made directly from what is in effect
  and what the policy file has. -/
  makes : ∀ policy, (site.fromSetting world).1 = .ok policy ↔
    ∃ source, settings.Sources world source ∧
      (runFrom (Policy.make source) world).1 = .ok policy
  /-- A table that lists a role which is not among the roles chosen is refused,
  wherever the two come from. -/
  declares : ∀ source, settings.Sources world source →
    ∀ type field items role,
      (world.refresh source.schema).listed? type field = some items →
      role ∈ items →
      role ∉ (world.refresh source.roles).elements?.getD [] →
      ∃ cause : Misconfiguration,
        (site.fromSetting world).1 = .error (.fault cause.fault)
  /-- A policy file that is named has to load, whatever is given inline. -/
  loads : (world.look settings.schemaFile).truthy = true →
    ∀ fault, (runFrom (PolicyFile.load world.host
        (world.look settings.schemaFile)) world.journal).1 = .error fault →
      (site.fromSetting world).1 = .error (.fault fault)
  /-- Entries under other keys, and defaults that are spelled out, change
  nothing. -/
  idle : ∀ (other : Site) before after key v, entries = before ++ after →
    Settings.Idle entries key v →
    (world.look other.setting).content =
      .map (before ++ (key, v) :: after) →
    other.fromSetting world = site.fromSetting world

/-- A setting that is a dictionary, the policy file it names and the defaults
combine to one policy. -/
theorem combines_setting {site : Site} {world : World}
    {entries : List (Value × Value)}
    (isDict : (world.look site.setting).content = .map entries) :
    ∃ settings, site.Combines world entries settings := by
  refine ⟨Settings.ofLookUp fun name => Value.find? entries (.text name),
    Settings.toEntries_ofLookUp entries, ?_, ?_, ?_, ?_⟩
  · intro policy
    rw [fromSetting_eq isDict]
    exact Settings.ofSettings_eq_ok_iff
  · intro source sources type field items role listed member undeclared
    rw [fromSetting_eq isDict, sources.ending_ofSettings]
    exact Policy.fails_make fun wellFormed =>
      undeclared (wellFormed.declared listed member)
  · intro isNamed fault fails
    rw [fromSetting_eq isDict, Settings.ending_ofSettings,
      Settings.runFrom_rolesAndSchema_file isNamed, fails]
    rfl
  · intro other before after key v isAll idle isDictToo
    subst isAll
    have sameSettings := Settings.toEntries_injective
      ((Settings.toEntries_ofLookUp (before ++ (key, v) :: after)).trans
        (idle.inEffect_eq.trans
          (Settings.toEntries_ofLookUp (before ++ after)).symm))
    rw [fromSetting_eq isDict, fromSetting_eq isDictToo, sameSettings]

/-- Where the application keeps its policy file. -/
def mixedPath : FilePath := ⟨"/", ["srv", "rbac.json"]⟩

/-- A file that declares a role and has a table that says nothing. -/
def mixedText : List Char :=
  "\x7b\"roles\":[\"ADMIN\"],\"schema\":\x7b\x7d\x7d".toList

/-- The entries of a setting with a table of its own, a file for the roles and a
resolver by its path. -/
def mixedEntries : List (Value × Value) :=
  [(.text "schema", .map [(.text "Query", .texts ["ADMIN"])]),
    (.text "schema_file", .path mixedPath),
    (.text "get_user", .text "shop.accounts.requester")]

/-- A world whose host has the file and a module with the resolver. -/
def mixedWorld : World :=
  World.initial {
    files := fun path =>
      if path = mixedPath then .ok (Text.encoded mixedText)
      else .error (Host.fileAbsent path)
    names := fun
      | "shop.accounts", "requester" => .ok (.provided .alwaysAdmin)
      | modulePath, _ => .error (Host.moduleAbsent modulePath)
    nesting := 1000 } false

/-- The roles of the file govern the table of the setting. -/
def mixedSource : PolicySource where
  roles := .texts ["ADMIN"]
  schema := .map [(.text "Query", .texts ["ADMIN"])]
  getUser := .provided .alwaysAdmin

theorem contents_mixedPath :
    PolicyFile.contents mixedWorld.host mixedPath =
      .ok ⟨.texts ["ADMIN"], .map []⟩ := by
  have askable : PolicyFile.Askable mixedPath := by
    constructor <;> decide +kernel
  have hasText : PolicyFile.HasText mixedWorld.host mixedPath mixedText := by
    have unified : Text.unifyLineBreaks mixedText = mixedText :=
      Text.unifyLineBreaks_eq_self (by decide +kernel)
    exact ⟨askable, mixedText, rfl, unified.symm⟩
  have read : Document.read mixedWorld.host.nesting mixedText =
      .ok (.map [(.text "roles", .texts ["ADMIN"]),
        (.text "schema", .map [])]) := by
    cbv
  exact PolicyFile.contents_eq_ok_iff.mpr ⟨_, _, hasText, read, rfl, rfl⟩

theorem sources_mixedEntries :
    (Settings.ofLookUp fun name =>
      Value.find? mixedEntries (.text name)).Sources mixedWorld mixedSource := by
  let settings := Settings.ofLookUp fun name =>
    Value.find? mixedEntries (.text name)
  have named : mixedWorld.look settings.schemaFile = .path mixedPath := rfl
  have loaded : (runFrom (PolicyFile.load mixedWorld.host
      (mixedWorld.look settings.schemaFile)) mixedWorld.journal).1 =
        .ok ⟨.texts ["ADMIN"], .map []⟩ := by
    rw [named, PolicyFile.runFrom_load rfl, contents_mixedPath]
  have parts : Host.splitLast "shop.accounts.requester" =
      some ("shop.accounts", "requester") := by
    cbv
  have imports : mixedWorld.host.importPath "shop.accounts.requester" =
      .ok (.provided .alwaysAdmin) := by
    rw [Host.importPath, parts]
    rfl
  have chosen := Settings.Chooses.file rfl loaded
  exact ⟨chosen, .imported rfl rfl imports, .allow rfl, rfl, rfl, rfl⟩

theorem combines_mixedEntries :
    (mixedWorld.look (starting (.map mixedEntries)).setting).content =
        .map mixedEntries ∧
      (∃ settings, (starting (.map mixedEntries)).Combines mixedWorld
        mixedEntries settings) ∧
      ∃ policy, ((starting (.map mixedEntries)).fromSetting mixedWorld).1 =
        .ok policy := by
  have makes : ∃ policy,
      (runFrom (Policy.make mixedSource) mixedWorld).1 = .ok policy :=
    ⟨_, rfl⟩
  refine ⟨rfl, combines_setting rfl, ?_⟩
  rw [fromSetting_eq rfl, sources_mixedEntries.ending_ofSettings]
  exact makes

end Site

end RoleGuard
