import RoleGuard.Library
import RoleGuard.Proofs.Combining

/-!
# Settings that cannot be made a policy

Whatever is wrong with the roles, the table or the fallback rule of settings is
reported as a misconfiguration, unless the value at fault cannot be shown.  The
resolver is reported so only if it is given by a path whose module can be looked
for: any other value that cannot be called, and a path whose module cannot be
looked for, stops with a fault of its own.
-/

namespace RoleGuard

namespace Value

mutual

/-- A call with too many arguments is no misconfiguration. -/
theorem kind_surplus (v : Value) (given : Nat) :
    (v.surplus given).kind ≠ .configuration := by
  cases v with
  | object number v => exact kind_surplus v given
  | extended v attributes => exact kind_surplus v given
  | bound receiver function => exact kind_surplus function (given + 1)
  | classed inherited own => exact kind_surplusNamed inherited _ _ _
  | slotted slots attributes => exact kind_surplusNamed attributes _ _ _
  | _ => exact nofun

theorem kind_surplusNamed (attributes : List (String × Value)) (binds : Bool)
    (typeName : String) (given : Nat) :
    (surplusNamed attributes binds typeName given).kind ≠ .configuration := by
  cases attributes with
  | nil => exact nofun
  | cons entry rest =>
      obtain ⟨name, v⟩ := entry
      unfold surplusNamed
      split
      · exact kind_surplus v _
      · exact kind_surplusNamed rest binds typeName given

end

theorem kind_heldAttribute {holder v : Value} {name : String} {fault : Fault}
    (fails : heldAttribute holder v name = .error fault) :
    fault.kind ≠ .configuration := by
  unfold heldAttribute at fails
  split at fails
  · cases fails
  · cases fails
    exact nofun

/-- Nor is the lack of an attribute, or a failure to read one. -/
theorem kind_attributeOf {holder : Value} {name : String} {fault : Fault}
    (v : Value) (fails : attributeOf holder v name = .error fault) :
    fault.kind ≠ .configuration := by
  cases v with
  | object number v =>
      rw [attributeOf] at fails
      exact kind_attributeOf v fails
  | extended v attributes =>
      rw [attributeOf] at fails
      split at fails
      · cases fails
      · exact kind_attributeOf v fails
  | bound receiver function =>
      rw [attributeOf] at fails
      split at fails
      · exact kind_heldAttribute fails
      · exact kind_attributeOf function fails
  | failing failures attributes =>
      rw [attributeOf] at fails
      split at fails
      · rename_i failure _
        cases fails
        unfold FailingAttribute.fault
        split <;> simp [Fault.kind]
      · exact kind_heldAttribute fails
  | _ =>
      simp only [attributeOf] at fails
      exact kind_heldAttribute fails

/-- Nor is the call of an operation that a value is expected to have. -/
theorem kind_operationSurplus (v : Value) (name : String) (given : Nat) :
    (v.operationSurplus name given).kind ≠ .configuration := by
  unfold operationSurplus
  split
  · exact kind_surplus _ given
  · rename_i fails
    exact kind_attributeOf _ fails

/-- Of two places where an obstacle can be met each is of another kind. -/
theorem kind_orElse {first second : Option Fault}
    (inFirst : ∀ fault, first = some fault → fault.kind ≠ .configuration)
    (inSecond : ∀ fault, second = some fault → fault.kind ≠ .configuration)
    (fault : Fault) (met : (first <|> second) = some fault) :
    fault.kind ≠ .configuration := by
  cases first with
  | some found => exact inFirst fault met
  | none => exact inSecond fault met

theorem kind_digitObstacle (n : Int) (fault : Fault)
    (met : digitObstacle? n = some fault) : fault.kind ≠ .configuration := by
  unfold digitObstacle? at met
  split at met
  · cases met
    exact nofun
  · cases met

theorem kind_iterate {v : Value} {fault : Fault}
    (fails : v.iterate = .error fault) : fault.kind ≠ .configuration := by
  unfold iterate at fails
  split at fails
  · cases fails
  · cases fails
    exact nofun
  · cases fails
    exact nofun

mutual

/-- What keeps a rule from being shown is no misconfiguration. -/
theorem kind_obstacleOfRule (r : Rule) (fault : Fault)
    (met : r.obstacle? = some fault) : fault.kind ≠ .configuration := by
  cases r with
  | role name => exact kind_obstacle name fault met
  | anyOf rules => exact kind_firstObstacleOfRules rules fault met
  | answer v => exact kind_obstacle v fault met
  | _ => cases met

theorem kind_firstObstacleOfRules (rules : List Rule) (fault : Fault)
    (met : Rule.firstObstacle? rules = some fault) :
    fault.kind ≠ .configuration := by
  cases rules with
  | nil => cases met
  | cons r rest =>
      exact kind_orElse (kind_obstacleOfRule r)
        (kind_firstObstacleOfRules rest) fault met

/-- Nor is what keeps a value from being shown. -/
theorem kind_obstacle (v : Value) (fault : Fault)
    (met : v.obstacle? = some fault) : fault.kind ≠ .configuration := by
  cases v with
  | object number v => exact kind_obstacle v fault met
  | extended v attributes => exact kind_obstacle v fault met
  | int n => exact kind_digitObstacle n fault met
  | range start stop =>
      exact kind_orElse (kind_digitObstacle start) (kind_digitObstacle stop)
        fault met
  | rule r => exact kind_obstacleOfRule r fault met
  | method receiver name =>
      rw [obstacle?] at met
      split at met
      · exact kind_obstacle receiver fault met
      · cases met
  | bound receiver function => exact kind_obstacle receiver fault met
  | disjunction source => exact kind_obstacleInItems source fault met
  | sequence kind items => exact kind_firstObstacle items fault met
  | set items => exact kind_firstObstacle items fault met
  | map entries => exact kind_obstacleInEntries entries fault met
  | proxy entries => exact kind_obstacleInEntries entries fault met
  | annotatedMap entries attributes =>
      exact kind_obstacleInEntries entries fault met
  | identity role user =>
      exact kind_orElse (kind_obstacle role) (kind_obstacle user) fault met
  | record attributes => exact kind_obstacleInAttributes attributes fault met
  | memo source operation who =>
      exact kind_orElse (kind_obstacle source) (kind_obstacle who) fault met
  | elided shown =>
      by_cases isEmpty : shown = ""
      · subst isEmpty
        cases met
        exact nofun
      · simp [obstacle?, isEmpty] at met
  | _ => cases met

theorem kind_obstacleInItems (v : Value) (fault : Fault)
    (met : v.obstacleInItems? = some fault) : fault.kind ≠ .configuration := by
  cases v with
  | object number v => exact kind_obstacleInItems v fault met
  | extended v attributes => exact kind_obstacleInItems v fault met
  | sequence kind items => exact kind_firstObstacle items fault met
  | set items => exact kind_firstObstacle items fault met
  | map entries => exact kind_obstacleInKeys entries fault met
  | proxy entries => exact kind_obstacleInKeys entries fault met
  | annotatedMap entries attributes =>
      exact kind_obstacleInKeys entries fault met
  | elided shown =>
      by_cases isEmpty : shown = ""
      · subst isEmpty
        cases met
        exact nofun
      · simp only [obstacleInItems?, Option.some.injEq] at met
        cases met
        exact nofun
  | _ =>
      simp only [obstacleInItems?] at met
      split at met
      · cases met
      · rename_i fails
        cases met
        exact kind_iterate fails

theorem kind_firstObstacle (items : List Value) (fault : Fault)
    (met : firstObstacle? items = some fault) :
    fault.kind ≠ .configuration := by
  cases items with
  | nil => cases met
  | cons v rest =>
      exact kind_orElse (kind_obstacle v) (kind_firstObstacle rest) fault met

theorem kind_obstacleInKeys (entries : List (Value × Value)) (fault : Fault)
    (met : obstacleInKeys? entries = some fault) :
    fault.kind ≠ .configuration := by
  cases entries with
  | nil => cases met
  | cons entry rest =>
      exact kind_orElse (kind_obstacle entry.1) (kind_obstacleInKeys rest) fault
        met

theorem kind_obstacleInEntries (entries : List (Value × Value)) (fault : Fault)
    (met : obstacleInEntries? entries = some fault) :
    fault.kind ≠ .configuration := by
  cases entries with
  | nil => cases met
  | cons entry rest =>
      exact kind_orElse (kind_obstacle entry.1)
        (kind_orElse (kind_obstacle entry.2) (kind_obstacleInEntries rest))
        fault met

theorem kind_obstacleInAttributes (attributes : List (String × Value))
    (fault : Fault) (met : obstacleInAttributes? attributes = some fault) :
    fault.kind ≠ .configuration := by
  cases attributes with
  | nil => cases met
  | cons entry rest =>
      exact kind_orElse (kind_obstacle entry.2)
        (kind_obstacleInAttributes rest) fault met

end

end Value

/-- What reporting a misconfiguration ends in is one exactly if the value at fault
can be shown. -/
theorem Misconfiguration.kind_fault_iff {cause : Misconfiguration} :
    cause.fault.kind = .configuration ↔ cause.shown.obstacle? = none := by
  cases met : cause.shown.obstacle? with
  | none =>
      rw [Misconfiguration.fault_of_shown met]
      exact ⟨fun _ => rfl, fun _ => rfl⟩
  | some fault =>
      rw [Misconfiguration.fault_of_obstacle met]
      exact ⟨fun same => absurd same (Value.kind_obstacle _ fault met), nofun⟩

/-- A stop that says that what is configured is wrong. -/
def Stop.IsMisconfiguration : Stop → Prop
  | .fault cause => cause.kind = .configuration
  | .abort _ => False

/-- An ending that is a result or a misconfiguration. -/
def Reported (ending : Except Stop α) : Prop :=
  ∀ stop, ending = .error stop → stop.IsMisconfiguration

theorem reported_ok (a : α) : Reported (.ok a) :=
  nofun

theorem reported_fault_iff {fault : Fault} :
    Reported (.error (.fault fault) : Except Stop α) ↔
      fault.kind = .configuration := by
  constructor
  · exact fun reported => reported _ rfl
  · rintro configures stop ⟨⟩
    exact configures

/-- What goes on with a result is reported if both parts are. -/
theorem reported_bind_iff {α β : Type} {ending : Except Stop α}
    {next : α → Except Stop β} :
    Reported (ending >>= next) ↔
      Reported ending ∧ ∀ a, ending = .ok a → Reported (next a) := by
  cases ending with
  | ok a =>
      rw [ok_bind, and_iff_right (reported_ok a)]
      constructor
      · rintro reported _ ⟨⟩
        exact reported
      · exact fun reported => reported a rfl
  | error stop =>
      constructor
      · intro reported
        refine ⟨?_, nofun⟩
        rintro _ ⟨⟩
        exact reported stop rfl
      · rintro ⟨reported, _⟩ _ ⟨⟩
        exact reported stop rfl

/-- What a policy is made from can be shown where it is at fault: the first
violation of roles and table can, if the resolver and the fallback rule let
compiling come to it. -/
def PolicySource.ShowsViolation (source : PolicySource) (world : World) : Prop :=
  source.getUser.isCallable = true → source.fallbackRule.isRule = true →
    ∀ violation, FirstViolation (world.refresh source.roles)
      (world.refresh source.schema) violation →
      violation.shown.obstacle? = none

namespace Policy

variable {source : PolicySource} {world : World}

theorem reported_make_iff_compile :
    Reported (runFrom (make source) world).1 ↔
      ∀ fault, (runFrom (compile { source with
          roles := world.refresh source.roles
          schema := world.refresh source.schema }) world.journal).1 =
            .error fault → fault.kind = .configuration := by
  rw [ending_make]
  cases (runFrom (compile _) world.journal).1 with
  | ok policy => exact ⟨fun _ => nofun, fun _ => reported_ok _⟩
  | error fault =>
      refine reported_fault_iff.trans ⟨?_, fun all => all fault rfl⟩
      rintro configures _ ⟨⟩
      exact configures

/-- What keeps a policy from being made is reported exactly if it can be
shown. -/
theorem reported_make_iff :
    Reported (runFrom (make source) world).1 ↔ source.ShowsViolation world := by
  rw [reported_make_iff_compile, PolicySource.ShowsViolation]
  unfold compile
  cases callable : source.getUser.isCallable with
  | false =>
      refine ⟨fun _ => nofun, fun _ => ?_⟩
      rintro fault ⟨⟩
      rfl
  | true =>
      cases isRule : source.fallbackRule.isRule with
      | false =>
          refine ⟨fun _ _ => nofun, fun _ => ?_⟩
          rintro fault ⟨⟩
          rfl
      | true =>
          simp only [Bool.not_true, Bool.false_eq_true, if_false, forall_const]
          rcases wellFormed_or_firstViolation (world.refresh source.roles)
              (world.refresh source.schema) with wellFormed | ⟨violation, first⟩
          · obtain ⟨tree, after, compiles⟩ :=
              succeeds_compile wellFormed world.journal
            rw [runFrom_bind_ok compiles]
            constructor
            · intro _ violation first
              exact absurd first (wellFormed.not_firstViolation violation)
            · exact fun _ => nofun
          · obtain ⟨cause, rfl, fails⟩ := fails_compile first
            rw [fails.bind _ world.journal]
            constructor
            · intro reports other otherFirst
              rw [first.unique otherFirst]
              exact Misconfiguration.kind_fault_iff.mp (reports _ rfl)
            · rintro shows _ ⟨⟩
              exact Misconfiguration.kind_fault_iff.mpr (shows _ first)

end Policy

namespace Settings

variable {settings : Settings} {world : World}

/-- Settings give a resolver to call, or a path whose module the host finds or
reports as missing or misconfigured. -/
inductive NamesResolver (host : Host) (settings : Settings) : Prop where
  | given : settings.getUser.isCallable = true → NamesResolver host settings
  | path {path : String} :
      settings.getUser.content = .text path →
      (∀ before name fault, Host.splitLast path = some (before, name) →
        host.names before name = .error fault →
        fault.meansAbsent = true ∨ fault.kind = .failedImport ∨
          fault.kind = .configuration) →
      NamesResolver host settings

/-- An import that does not say so itself has failed to find the module. -/
theorem importPath_error {host : Host} {path : String} {fault : Fault}
    (failed : host.importPath path = .error fault) :
    fault.kind = .failedImport ∨
      ∃ before name, Host.splitLast path = some (before, name) ∧
        host.names before name = .error fault ∧
        fault.meansAbsent = false := by
  unfold Host.importPath at failed
  split at failed
  · cases failed
    exact .inl rfl
  · rename_i before name parts
    split at failed
    · cases failed
    · rename_i fails
      split at failed
      · cases failed
        exact .inl rfl
      · rename_i present
        cases failed
        exact .inr ⟨before, name, parts, fails, by simpa using present⟩

theorem importPath_of_names {host : Host} {path before name : String}
    {fault : Fault} (parts : Host.splitLast path = some (before, name))
    (fails : host.names before name = .error fault)
    (present : fault.meansAbsent = false) :
    host.importPath path = .error fault := by
  simp only [Host.importPath, parts, fails, present, Bool.false_eq_true,
    if_false]

/-- What is neither callable nor text is no resolver, and not reported. -/
theorem not_reported_of_content (notCallable : settings.getUser.isCallable = false)
    (noPath : ∀ path, settings.getUser.content ≠ .text path) :
    ¬ Reported (runFrom settings.resolveGetUser world).1 := by
  have stops : ∃ fault, (runFrom settings.resolveGetUser world).1 =
      .error (.fault fault) ∧ fault.kind ≠ .configuration := by
    unfold resolveGetUser
    rw [notCallable, if_neg Bool.false_ne_true]
    split
    · rename_i path isPath
      exact absurd isPath (noPath path)
    · exact ⟨_, rfl, nofun⟩
    · exact ⟨_, rfl, nofun⟩
    · exact ⟨_, rfl, Value.kind_operationSurplus _ _ _⟩
  obtain ⟨fault, stopped, other⟩ := stops
  rw [stopped, reported_fault_iff]
  exact other

/-- Looking for the resolver is reported exactly if the settings name one so. -/
theorem reported_resolveGetUser_iff :
    Reported (runFrom settings.resolveGetUser world).1 ↔
      settings.NamesResolver world.host := by
  constructor
  · intro reported
    cases callable : settings.getUser.isCallable with
    | true => exact .given callable
    | false =>
        by_cases isText : ∃ path, settings.getUser.content = .text path
        · obtain ⟨path, isPath⟩ := isText
          refine .path isPath fun before name fault parts fails => ?_
          cases present : fault.meansAbsent with
          | true => exact .inl rfl
          | false =>
              rw [runFrom_resolveGetUser_path callable isPath,
                importPath_of_names parts fails present] at reported
              dsimp only at reported
              split at reported
              · rename_i isFailedImport
                exact .inr (.inl isFailedImport)
              · exact .inr (.inr (reported_fault_iff.mp reported))
        · exact absurd reported
            (not_reported_of_content callable (not_exists.mp isText))
  · intro names
    cases callable : settings.getUser.isCallable with
    | true =>
        rw [resolveGetUser, if_pos callable]
        exact reported_ok _
    | false =>
        cases names with
        | given isCallable => cases callable.symm.trans isCallable
        | path isPath finds =>
            rw [runFrom_resolveGetUser_path callable isPath]
            dsimp only
            split
            · exact reported_ok _
            · rename_i fault failed
              split
              · exact reported_fault_iff.mpr rfl
              · rename_i other
                obtain ⟨before, name, parts, fails, present⟩ :=
                  (importPath_error failed).resolve_left other
                rw [reported_fault_iff]
                rcases finds before name fault parts fails with
                  absent | isFailedImport | configures
                · cases present.symm.trans absent
                · exact absurd isFailedImport other
                · exact configures

/-- Settings name no fallback rule that is unknown and cannot be shown. -/
def ShowsFallback (settings : Settings) (world : World) : Prop :=
  (∀ v, ¬ settings.FallsBack v) →
    (world.refresh settings.fallbackRule).obstacle? = none

theorem reported_resolveFallbackRule_iff :
    Reported (runFrom settings.resolveFallbackRule world).1 ↔
      settings.ShowsFallback world := by
  by_cases known : ∃ v, settings.FallsBack v
  · obtain ⟨v, fallsBack⟩ := known
    rw [resolveFallbackRule_eq_ok_iff.mpr fallsBack]
    exact ⟨fun _ unknown => absurd fallsBack (unknown v), fun _ => reported_ok v⟩
  · have unknown := not_exists.mp known
    have stops : (runFrom settings.resolveFallbackRule world).1 =
        .error (.fault (Misconfiguration.fallbackNotKnown
          (world.refresh settings.fallbackRule)).fault) := by
      unfold resolveFallbackRule
      split
      · rename_i isRule
        exact absurd (.given isRule) (unknown _)
      · split
        · rename_i isWord
          exact absurd (.allow isWord) (unknown _)
        · rename_i isWord
          exact absurd (.deny isWord) (unknown _)
        · rfl
    rw [stops, reported_fault_iff, Misconfiguration.kind_fault_iff]
    exact ⟨fun shows _ => shows, fun shows => shows unknown⟩

/-- What is wrong with settings is reported: they name a resolver so, and
whatever is then at fault can be shown, be it an unknown fallback rule or what
roles and table violate first. -/
structure Reportable (settings : Settings) (world : World) : Prop where
  names : settings.NamesResolver world.host
  showsFallback : ∀ getUser, settings.Resolves world.host getUser →
    settings.ShowsFallback world
  showsViolation : ∀ getUser fallbackRule,
    settings.Resolves world.host getUser → settings.FallsBack fallbackRule →
    PolicySource.ShowsViolation {
      roles := settings.roles, schema := settings.schema
      getUser, fallbackRule } world

end Settings

/-- The setting of a site names no policy file. -/
def Site.NamesNoFile (site : Site) (world : World) : Prop :=
  ∀ settings, Settings.ofSetting (world.look site.setting) = .ok settings →
    (world.look settings.schemaFile).truthy = false

/-- Whatever keeps a site's setting from describing a policy is reported as a
misconfiguration. -/
def Site.Reports (site : Site) (world : World) : Prop :=
  Reported (runFrom site.describe world).1

namespace Site

variable {site : Site} {world : World} {settings : Settings}

/-- Without a policy file the policy of settings ends as resolver, fallback rule
and what is made from them do. -/
theorem ending_ofSettings_inline
    (unfiled : (world.look settings.schemaFile).truthy = false) :
    (runFrom (Policy.ofSettings settings) world).1 = (do
      let getUser ← (runFrom settings.resolveGetUser world).1
      let fallbackRule ← (runFrom settings.resolveFallbackRule world).1
      (runFrom (Policy.make {
        roles := settings.roles, schema := settings.schema
        getUser, fallbackRule
        contextKey := settings.contextKey
        fallbackError := settings.fallbackError
        debug := settings.debug }) world).1) := by
  rw [Settings.ending_ofSettings,
    Settings.runFrom_rolesAndSchema_inline unfiled]
  rfl

theorem reported_ofSettings_iff
    (unfiled : (world.look settings.schemaFile).truthy = false) :
    Reported (runFrom (Policy.ofSettings settings) world).1 ↔
      settings.Reportable world := by
  simp only [ending_ofSettings_inline unfiled, reported_bind_iff,
    Settings.reported_resolveGetUser_iff,
    Settings.reported_resolveFallbackRule_iff, Policy.reported_make_iff,
    Settings.resolveGetUser_eq_ok_iff, Settings.resolveFallbackRule_eq_ok_iff]
  constructor
  · rintro ⟨names, rest⟩
    exact ⟨names, fun getUser resolves => (rest getUser resolves).1,
      fun getUser fallbackRule resolves =>
        (rest getUser resolves).2 fallbackRule⟩
  · intro reportable
    exact ⟨reportable.names, fun getUser resolves =>
      ⟨reportable.showsFallback getUser resolves, fun fallbackRule =>
        reportable.showsViolation getUser fallbackRule resolves⟩⟩

/-- Of a setting that names no policy file every fault is reported as a
misconfiguration exactly if the resolver can be called or is given by a path
whose module can be looked for, and the value at fault can be shown. -/
theorem reports_iff_reportable (unfiled : site.NamesNoFile world) :
    site.Reports world ↔ ∀ settings,
      Settings.ofSetting (world.look site.setting) = .ok settings →
        settings.Reportable world := by
  rw [Reports, runFrom_describe]
  cases reads : Settings.ofSetting (world.look site.setting) with
  | error cause =>
      exact ⟨fun _ => nofun, fun _ => reported_fault_iff.mpr rfl⟩
  | ok settings =>
      dsimp only
      rw [reported_ofSettings_iff (unfiled settings reads)]
      constructor
      · rintro reportable _ ⟨⟩
        exact reportable
      · exact fun all => all settings rfl

/-- A setting that names a resolver that its module does not have. -/
def strangerSetting : Value :=
  .map [(.text "get_user", .text "rail_rbac.identity.nobody"),
    (.text "fallback_rule", .texts ["allow"])]

theorem reports_strangerSetting :
    (starting strangerSetting).NamesNoFile (World.initial Library.host false) ∧
      (starting strangerSetting).Reports (World.initial Library.host false) := by
  have unfiled : (starting strangerSetting).NamesNoFile
      (World.initial Library.host false) := by
    rintro settings ⟨⟩
    rfl
  refine ⟨unfiled, (reports_iff_reportable unfiled).mpr ?_⟩
  rintro settings ⟨⟩
  refine ⟨.path rfl ?_, fun _ _ _ => rfl, ?_⟩
  · rintro before name fault ⟨⟩ ⟨⟩
    exact .inl rfl
  · intro getUser fallbackRule _ fallsBack
    cases fallsBack with
    | given isRule => cases isRule
    | allow isWord => cases isWord
    | deny isWord => cases isWord

/-- A setting that names a number as its resolver. -/
def numberSetting : Value := .map [(.text "get_user", .int 5)]

/-- It is not reported as a misconfiguration, though a fallback rule that is no
word is. -/
theorem not_reports_numberSetting :
    (starting numberSetting).NamesNoFile (World.initial .bare false) ∧
      (runFrom (starting numberSetting).describe (World.initial .bare false)).1 =
        .error (.fault (.attributeAbsent "int" "rsplit")) ∧
      ¬ (starting numberSetting).Reports (World.initial .bare false) := by
  have stops : (runFrom (starting numberSetting).describe
      (World.initial .bare false)).1 =
      .error (.fault (.attributeAbsent "int" "rsplit")) := rfl
  refine ⟨?_, stops, fun reports => ?_⟩
  · rintro settings ⟨⟩
    rfl
  · cases reports _ stops

end Site

end RoleGuard
