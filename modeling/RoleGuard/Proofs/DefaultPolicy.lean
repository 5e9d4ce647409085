import Mathlib
import RoleGuard.Proofs.Building
import RoleGuard.Site

/-!
# The default policy follows the setting

A site makes its default policy from its setting and keeps it until it hears of
a change or is told to forget it.  `Site.Reflects` says that a default policy is
the one that the setting describes as things stand; every step keeps this, also
one that fails.
-/

namespace RoleGuard

namespace Site

/-- How an operation on a site ends, and the world that it leaves. -/
def run (operation : SiteAct α) (site : Site) (world : World) :
    Except Stop (α × Site) × World :=
  runFrom (operation.run site) world

section

variable {site : Site} {world : World}

theorem run_bind (first : SiteAct α) (next : α → SiteAct β) :
    run (first >>= next) site world =
      match run first site world with
      | (.ok (a, between), after) => run (next a) between after
      | (.error stop, after) => (.error stop, after) := by
  rw [run, StateT.run_bind, runFrom_bind]
  unfold run
  generalize runFrom (first.run site) world = started
  obtain ⟨ending, after⟩ := started
  cases ending <;> rfl

theorem run_bind_ok {first : SiteAct α} {next : α → SiteAct β} {a : α}
    {between : Site} {after : World}
    (ended : run first site world = (.ok (a, between), after)) :
    run (first >>= next) site world = run (next a) between after := by
  rw [run_bind, ended]

theorem run_get : run get site world = (.ok (site, site), world) := rfl

theorem run_look (v : Value) :
    run (do Act.look v) site world = (.ok (world.look v, site), world) := rfl

theorem run_map (f : α → β) (operation : SiteAct α) :
    run (f <$> operation) site world =
      ((run operation site world).1.map fun made => (f made.1, made.2),
        (run operation site world).2) := by
  rw [map_eq_pure_bind, run_bind]
  generalize run operation site world = ended
  obtain ⟨ending, after⟩ := ended
  cases ending <;> rfl

theorem run_lift (operation : Act α) :
    run (do operation) site world =
      ((runFrom operation world).1.map fun a => (a, site),
        (runFrom operation world).2) := by
  change runFrom (operation >>= fun a => pure (a, site)) world = _
  rw [runFrom_bind]
  generalize runFrom operation world = ended
  obtain ⟨ending, after⟩ := ended
  cases ending <;> rfl

end

/-- The policy that the setting of a site describes. -/
def describe (site : Site) : Act Policy := do
  match Settings.ofSetting (← Act.look site.setting) with
  | .ok settings => Policy.ofSettings settings
  | .error cause => Act.fail (.configuration cause)

theorem notes_describe (site : Site) :
    Notes World.SameStore site.describe := by
  apply (Notes.look site.setting).bind World.lasting_sameStore
  intro setting
  split
  · exact Policy.notes_ofSettings _
  · exact .fail _

section

variable (site : Site) (world : World)

theorem run_settings :
    run settings site world =
      match Settings.ofSetting (world.look site.setting) with
      | .ok settings => (.ok (settings, site), world)
      | .error cause => (.error (.fault (.configuration cause)), world) := by
  rw [settings, run_bind_ok run_get, run_bind_ok (run_look site.setting)]
  cases Settings.ofSetting (world.look site.setting) <;> rfl

theorem runFrom_describe :
    runFrom site.describe world =
      match Settings.ofSetting (world.look site.setting) with
      | .ok settings => runFrom (Policy.ofSettings settings) world
      | .error cause => (.error (.fault (.configuration cause)), world) := by
  rw [describe, runFrom_bind_ok (Act.runFrom_look _ world)]
  cases Settings.ofSetting (world.look site.setting) <;> rfl

/-- Making a policy of the settings in place makes the one that is described. -/
theorem run_ofSettings :
    run (do Policy.ofSettings (← settings)) site world =
      ((runFrom site.describe world).1.map fun policy => (policy, site),
        (runFrom site.describe world).2) := by
  rw [run_bind, run_settings, runFrom_describe]
  cases Settings.ofSetting (world.look site.setting) with
  | error cause => rfl
  | ok settings =>
      exact run_lift (Policy.ofSettings settings)

theorem run_defaultPolicy_made {current : NumberedPolicy}
    (made : site.current = some current) :
    run defaultPolicy site world = (.ok (current, site), world) := by
  rw [defaultPolicy, run_bind_ok run_get, made]
  rfl

/-- The site with a default policy that has just been made. -/
def withPolicy (policy : Policy) : Site :=
  { site with
    current := some ⟨site.made, policy⟩
    made := site.made + 1 }

theorem run_defaultPolicy_absent (absent : site.current = none) :
    run defaultPolicy site world =
      match runFrom site.describe world with
      | (.ok policy, after) =>
          (.ok (⟨site.made, policy⟩, site.withPolicy policy), after)
      | (.error stop, after) => (.error stop, after) := by
  have made : run defaultPolicy site world = run (do
      let policy ← (do Policy.ofSettings (← settings) : SiteAct Policy)
      let site ← get
      let current : NumberedPolicy := ⟨site.made, policy⟩
      set { site with current := some current, made := site.made + 1 }
      return current) site world := by
    rw [defaultPolicy, run_bind_ok run_get, absent]
    simp only [bind_assoc]
  rw [made, run_bind, run_ofSettings]
  generalize runFrom site.describe world = ended
  obtain ⟨ending, after⟩ := ended
  cases ending <;> rfl

/-- Whether settings say anything to enforce, as things stand. -/
def configured (settings : Settings) : Bool :=
  [settings.roles, settings.schema, settings.schemaFile].any
    fun v => (world.look v).truthy

/-- Whether settings want a default policy at start-up, as things stand. -/
def wants (settings : Settings) : Bool :=
  (world.look settings.validateOnStartup).truthy && configured world settings

theorem runFrom_isConfigured (settings : Settings) :
    runFrom settings.isConfigured world =
      (.ok (configured world settings), world) := by
  have anyLooked (values : List Value) :
      runFrom (values.anyM fun v => return (← Act.look v).truthy) world =
        (.ok (values.any fun v => (world.look v).truthy), world) := by
    induction values with
    | nil => rfl
    | cons v values ih =>
        have looked : runFrom (do return (← Act.look v).truthy) world =
            (.ok (world.look v).truthy, world) := rfl
        rw [List.anyM_cons, runFrom_bind_ok looked, List.any_cons]
        cases (world.look v).truthy with
        | true => rfl
        | false => exact ih
  exact anyLooked _

/-- Validation asks for the default policy where the settings want one, and
nothing else. -/
theorem run_validate :
    run validate site world =
      match Settings.ofSetting (world.look site.setting) with
      | .error cause => (.error (.fault (.configuration cause)), world)
      | .ok settings =>
          if wants world settings then
            ((run defaultPolicy site world).1.map fun made =>
                (some made.1, made.2),
              (run defaultPolicy site world).2)
          else (.ok (none, site), world) := by
  rw [validate, run_bind, run_settings]
  cases Settings.ofSetting (world.look site.setting) with
  | error cause => rfl
  | ok settings =>
      have asked : run (do settings.isConfigured) site world =
          (.ok (configured world settings, site), world) := by
        rw [run_lift, runFrom_isConfigured]
        rfl
      change run (do
        let asked ← (do Act.look settings.validateOnStartup : SiteAct Value)
        let isConfigured ← (do settings.isConfigured : SiteAct Bool)
        if asked.truthy && isConfigured then return some (← defaultPolicy)
        else return none : SiteAct (Option NumberedPolicy)) site world = _
      rw [run_bind_ok (run_look settings.validateOnStartup),
        run_bind_ok asked]
      change run (if wants world settings then do return some (← defaultPolicy)
        else return none : SiteAct (Option NumberedPolicy)) site world = _
      dsimp only
      split
      · rw [← map_eq_pure_bind, run_map]
      · rfl

end

/-- What can happen to a site: one of the application's settings is given a
value and the change is announced by name, the default policy is asked for or
forgotten, and the setting is validated, by itself or because the application is
ready. -/
inductive Step where
  | change (name : String) (v : Value)
  | get
  | reset
  | validate
  | ready

/-- Where an operation leaves a site: one that fails leaves it as it was. -/
def outcome (site : Site) : Except Stop (α × Site) × World → Site × World
  | (.ok (_, after), world) => (after, world)
  | (.error _, world) => (site, world)

theorem outcome_map (site : Site) (f : α → β)
    (ended : Except Stop (α × Site) × World) :
    outcome site (ended.1.map fun made => (f made.1, made.2), ended.2) =
      outcome site ended := by
  obtain ⟨ending, world⟩ := ended
  cases ending <;> rfl

namespace Step

/-- Carries out a step and gives the default policy that it returns, if any. -/
def perform : Step → SiteAct (Option NumberedPolicy)
  | .change name v => do
      if name = settingName then assign v
      settingChanged name
      return none
  | .get => some <$> defaultPolicy
  | .reset => do
      Site.reset
      return none
  | .validate => Site.validate
  | .ready => (fun _ => none) <$> Site.validate

/-- The site and the world after a step. -/
def after (step : Step) (now : Site × World) : Site × World :=
  outcome now.1 (run step.perform now.1 now.2)

/-- Whether a step gives the site's setting a value. -/
def Reassigns : Step → Prop
  | .change name _ => name = settingName
  | _ => False

/-- Whether a step gives the site's setting a value or forgets its policy. -/
def Discards : Step → Prop
  | .reset => True
  | step => step.Reassigns

end Step

/-- The site and the world after some steps. -/
def afterAll (steps : List Step) (now : Site × World) : Site × World :=
  steps.foldl (fun now step => step.after now) now

section

variable {site : Site} {world : World}

/-- What describing a policy has come to it comes to again, as long as the store
and the directory are the same. -/
theorem describe_again {other : World} {ending : Except Stop Policy}
    (ended : (runFrom site.describe world).1 = ending)
    (same : world.SameStore other) :
    ∃ events, runFrom site.describe other = (ending, other.noted events) := by
  obtain ⟨uniform, events, all⟩ := site.notes_describe.uniform (.refl world)
  rw [all world (.refl world)] at ended
  cases ended
  exact ⟨events, all other same⟩

/-- Where a step leads to: the setting has a new value, the policy is forgotten,
it has been made as described, or nothing is new but notes. -/
inductive Leads (site : Site) (world : World) : Step → Site × World → Prop where
  | changed (v : Value) :
      Leads site world (.change settingName v)
        ({ site with setting := v, current := none }, world)
  | forgotten :
      Leads site world .reset ({ site with current := none }, world)
  | made {step : Step} {policy : Policy} {events : Journal} :
      ¬ step.Discards → site.current = none →
      runFrom site.describe world = (.ok policy, world.noted events) →
      Leads site world step (site.withPolicy policy, world.noted events)
  | kept {step : Step} (events : Journal) :
      ¬ step.Discards → Leads site world step (site, world.noted events)

theorem Leads.stays {step : Step} (keeps : ¬ step.Discards) :
    Leads site world step (site, world) := by
  have noted : Leads site world step (site, world.noted []) := .kept [] keeps
  rw [World.noted_nil] at noted
  exact noted

theorem after_elsewhere {name : String} (other : name ≠ settingName)
    (v : Value) : (Step.change name v).after (site, world) = (site, world) := by
  rw [Step.after, Step.perform, if_neg other, settingChanged, if_neg other]
  rfl

theorem leads_defaultPolicy {step : Step} (keeps : ¬ step.Discards) :
    Leads site world step (outcome site (run defaultPolicy site world)) := by
  cases current : site.current with
  | some current' =>
      rw [run_defaultPolicy_made site world current]
      exact .stays keeps
  | none =>
      rw [run_defaultPolicy_absent site world current]
      obtain ⟨events, ended⟩ : ∃ events, runFrom site.describe world =
          ((runFrom site.describe world).1, world.noted events) :=
        describe_again rfl (.refl world)
      rw [ended]
      cases described : (runFrom site.describe world).1 with
      | ok policy =>
          rw [described] at ended
          exact .made keeps current ended
      | error stop => exact .kept events keeps

theorem leads_validate {step : Step} (keeps : ¬ step.Discards) :
    Leads site world step (outcome site (run Site.validate site world)) := by
  rw [run_validate]
  split
  · exact .stays keeps
  · split
    · rw [outcome_map]
      exact leads_defaultPolicy keeps
    · exact .stays keeps

theorem leads_after (step : Step) :
    Leads site world step (step.after (site, world)) := by
  cases step with
  | change name v =>
      by_cases own : name = settingName
      · subst own
        exact .changed v
      · rw [after_elsewhere own]
        exact .stays own
  | get =>
      rw [Step.after, Step.perform, run_map, outcome_map]
      exact leads_defaultPolicy id
  | reset => exact .forgotten
  | validate => exact leads_validate id
  | ready =>
      rw [Step.after, Step.perform, run_map,
        outcome_map site fun _ => (none : Option NumberedPolicy)]
      exact leads_validate id

/-- The default policy, if there is one, is what the setting describes as things
stand, and no policy made later will have its number. -/
structure Reflects (site : Site) (world : World) : Prop where
  describes : ∀ current, site.current = some current →
    (runFrom site.describe world).1 = .ok current.policy
  numbered : ∀ current, site.current = some current →
    current.serial < site.made

theorem Reflects.of_absent (absent : site.current = none) :
    site.Reflects world := by
  constructor
  · intro current isCurrent
    cases absent.symm.trans isCurrent
  · intro current isCurrent
    cases absent.symm.trans isCurrent

/-- Every step leaves a default policy that reflects the setting. -/
theorem Leads.reflects {step : Step} {now : Site × World}
    (leads : Leads site world step now) (reflects : site.Reflects world) :
    now.1.Reflects now.2 := by
  cases leads with
  | changed v => exact .of_absent rfl
  | forgotten => exact .of_absent rfl
  | @made _ policy events _ absent ended =>
      refine ⟨fun current isCurrent => ?_, fun current isCurrent => ?_⟩
      · cases isCurrent
        obtain ⟨_, again⟩ := describe_again (congrArg Prod.fst ended)
          (world.sameStore_noted events)
        exact congrArg Prod.fst again
      · cases isCurrent
        exact Nat.lt_succ_self site.made
  | kept events _ =>
      refine ⟨fun current isCurrent => ?_, reflects.numbered⟩
      obtain ⟨_, again⟩ := describe_again
        (reflects.describes current isCurrent) (world.sameStore_noted events)
      exact congrArg Prod.fst again

theorem reflects_afterAll (steps : List Step)
    (reflects : site.Reflects world) :
    (afterAll steps (site, world)).1.Reflects
      (afterAll steps (site, world)).2 := by
  induction steps generalizing site world with
  | nil => exact reflects
  | cons step steps ih => exact ih ((leads_after step).reflects reflects)

/-- A default policy outlasts every step that does not discard it. -/
theorem Leads.current_eq {step : Step} {now : Site × World}
    {current : NumberedPolicy} (leads : Leads site world step now)
    (keeps : ¬ step.Discards) (made : site.current = some current) :
    now.1.current = some current := by
  cases leads with
  | changed v => exact absurd rfl keeps
  | forgotten => exact absurd trivial keeps
  | made _ absent _ => cases absent.symm.trans made
  | kept _ _ => exact made

theorem current_afterAll {steps : List Step} {current : NumberedPolicy}
    (keep : ∀ step ∈ steps, ¬ step.Discards)
    (made : site.current = some current) :
    (afterAll steps (site, world)).1.current = some current := by
  induction steps generalizing site world with
  | nil => exact made
  | cons step steps ih =>
      obtain ⟨keeps, keepRest⟩ := List.forall_mem_cons.mp keep
      exact ih keepRest ((leads_after step).current_eq keeps made)

/-- Asking for the default policy leaves it as the current one. -/
theorem current_of_defaultPolicy {current : NumberedPolicy} {after : Site}
    (given : (run defaultPolicy site world).1 = .ok (current, after)) :
    (Step.get.after (site, world)).1.current = some current := by
  rw [Step.after, Step.perform, run_map, outcome_map]
  generalize ran : run defaultPolicy site world = ended at given
  obtain ⟨ending, known⟩ := ended
  cases given
  cases isCurrent : site.current with
  | some current' =>
      rw [run_defaultPolicy_made site world isCurrent] at ran
      cases ran
      exact isCurrent
  | none =>
      rw [run_defaultPolicy_absent site world isCurrent] at ran
      split at ran
      · cases ran
        rfl
      · cases ran

theorem defaultPolicy_ok_of_current {current : NumberedPolicy}
    (made : site.current = some current) :
    (run defaultPolicy site world).1 = .ok (current, site) :=
  congrArg Prod.fst (run_defaultPolicy_made site world made)

/-- A step that fails leaves no default policy behind. -/
theorem absent_of_fails (reflects : site.Reflects world) {step : Step}
    {stop : Stop}
    (fails : (run step.perform site world).1 = .error stop) :
    site.current = none := by
  cases isCurrent : site.current with
  | none => rfl
  | some current =>
      have gives : (run defaultPolicy site world).1 = .ok (current, site) :=
        defaultPolicy_ok_of_current isCurrent
      -- the setting in place has been read, or there would be no policy
      have validates : ∃ validated,
          (run Site.validate site world).1 = .ok validated := by
        have described := reflects.describes current isCurrent
        rw [runFrom_describe] at described
        rw [run_validate]
        cases reads : Settings.ofSetting (world.look site.setting) with
        | error cause =>
            rw [reads] at described
            cases described
        | ok settings =>
            dsimp only
            split
            · exact ⟨_, congrArg (Except.map _) gives⟩
            · exact ⟨_, rfl⟩
      obtain ⟨validated, validates⟩ := validates
      cases step with
      | change name v =>
          by_cases own : name = settingName
          · subst own
            cases fails
          · rw [Step.perform, if_neg own, settingChanged, if_neg own] at fails
            cases fails
      | get =>
          rw [Step.perform, run_map, gives] at fails
          cases fails
      | reset => cases fails
      | validate =>
          cases validates.symm.trans fails
      | ready =>
          rw [Step.perform, run_map, validates] at fails
          cases fails

/-- How a site goes about its default policy. -/
structure Reliable (site : Site) (world : World) : Prop where
  /-- The default policy, if there is one, is what the setting in place
  describes. -/
  reflects : ∀ current, site.current = some current →
    (runFrom site.describe world).1 = .ok current.policy
  /-- Without one, what the setting in place describes is made when it is asked
  for, and nothing is made if that fails. -/
  makes : site.current = none →
    (run defaultPolicy site world).1 =
      (runFrom site.describe world).1.map fun policy =>
        (⟨site.made, policy⟩, site.withPolicy policy)
  /-- No policy made later will have its number. -/
  numbered : ∀ current, site.current = some current →
    current.serial < site.made
  /-- A step that fails leaves no default policy behind. -/
  fails : ∀ (step : Step) (stop : Stop),
    (run step.perform site world).1 = .error stop →
      (step.after (site, world)).1.current = none
  /-- What has been given once is given again, until the setting is changed or
  the default policy is forgotten. -/
  again : ∀ current after,
    (run defaultPolicy site world).1 = .ok (current, after) →
    ∀ steps : List Step, (∀ step ∈ steps, ¬ step.Discards) →
      (run defaultPolicy
          (afterAll steps (Step.get.after (site, world))).1
          (afterAll steps (Step.get.after (site, world))).2).1 =
        .ok (current, (afterAll steps (Step.get.after (site, world))).1)
  /-- A change of another setting leaves everything as it is. -/
  elsewhere : ∀ name v, name ≠ settingName →
    (Step.change name v).after (site, world) = (site, world)

theorem Reflects.reliable (reflects : site.Reflects world) :
    site.Reliable world := by
  refine ⟨reflects.describes, ?_, reflects.numbered, ?_, ?_, ?_⟩
  · intro absent
    rw [run_defaultPolicy_absent site world absent]
    generalize runFrom site.describe world = ended
    obtain ⟨ending, after⟩ := ended
    cases ending <;> rfl
  · intro step stop fails
    have absent := absent_of_fails reflects fails
    rw [Step.after]
    generalize run step.perform site world = ended at fails
    obtain ⟨ending, after⟩ := ended
    cases fails
    exact absent
  · intro current after given steps keep
    have made := current_of_defaultPolicy given
    exact defaultPolicy_ok_of_current (current_afterAll keep made)
  · intro name v other
    exact after_elsewhere other v

end

/-- A site with a setting, before a default policy has been asked for. -/
def starting (setting : Value) : Site := { initial with setting }

/-- Whatever happens to a site, its default policy reflects the setting. -/
theorem reliable_afterAll (setting : Value) (world : World)
    (steps : List Step) :
    (afterAll steps (starting setting, world)).1.Reliable
      (afterAll steps (starting setting, world)).2 :=
  (reflects_afterAll steps (.of_absent rfl)).reliable

/-- A setting whose policy lets one role read everything. -/
def roleSetting (role : String) : Value :=
  .map [(.text "roles", .texts [role]),
    (.text "schema", .map [(.text "Query", .texts [role])]),
    (.text "get_user", .provided .requestUser)]

/-- Asking for the default policy makes it, a change of the setting discards it,
and what is made when the application is ready outlasts a change of another
setting. -/
def settingChange : List Step :=
  [.get, .change settingName (roleSetting "STAFF"), .ready,
    .change "TIME_ZONE" (.text "UTC")]

/-- The site and the world after that. -/
def afterSettingChange : Site × World :=
  afterAll settingChange
    (starting (roleSetting "ADMIN"), World.initial .bare false)

theorem reliable_settingChange :
    afterSettingChange.1.Reliable afterSettingChange.2 ∧
      (afterSettingChange.1.current.map fun current =>
        (current.serial, current.policy.roles)) =
          some (1, .sequence .tuple [.text "STAFF"]) := by
  refine ⟨reliable_afterAll (roleSetting "ADMIN") (World.initial .bare false)
    settingChange, ?_⟩
  cbv

end Site

end RoleGuard
