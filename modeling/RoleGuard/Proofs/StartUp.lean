import RoleGuard.Proofs.DefaultPolicy

/-!
# Validation at start-up

Where the settings want a default policy at start-up, validating them is making
it: what keeps it from being made is found then, and once it has been made it
can be made again as long as the setting is the same.  Settings that say nothing
to enforce are not validated, so what is wrong with them is found later.
-/

namespace RoleGuard

namespace Site

variable {site : Site} {world : World}

theorem describe_congr {other : Site} (same : other.setting = site.setting) :
    other.describe = site.describe := by
  rw [describe, describe, same]

/-- A step that does not give the setting a value leaves it as it is, and the
store and the directory too. -/
theorem Leads.steady {step : Step} {now : Site × World}
    (leads : Leads site world step now) (keeps : ¬ step.Reassigns) :
    now.1.setting = site.setting ∧ world.SameStore now.2 := by
  cases leads with
  | changed v => exact absurd rfl keeps
  | forgotten => exact ⟨rfl, .refl world⟩
  | made _ _ _ => exact ⟨rfl, world.sameStore_noted _⟩
  | kept events _ => exact ⟨rfl, world.sameStore_noted events⟩

theorem steady_afterAll {steps : List Step}
    (keep : ∀ step ∈ steps, ¬ step.Reassigns) :
    (afterAll steps (site, world)).1.setting = site.setting ∧
      world.SameStore (afterAll steps (site, world)).2 := by
  induction steps generalizing site world with
  | nil => exact ⟨rfl, .refl world⟩
  | cons step steps ih =>
      obtain ⟨keeps, keepRest⟩ := List.forall_mem_cons.mp keep
      obtain ⟨setting, store⟩ := (leads_after step).steady keeps
      obtain ⟨settingThen, storeThen⟩ := ih keepRest
      exact ⟨settingThen.trans setting, store.trans storeThen⟩

/-- A site whose setting describes a policy gives one, made now or before. -/
theorem defaultPolicy_ok_of_described {policy : Policy}
    (described : (runFrom site.describe world).1 = .ok policy) :
    ∃ given, (run defaultPolicy site world).1 = .ok given := by
  cases isCurrent : site.current with
  | some current => exact ⟨_, defaultPolicy_ok_of_current isCurrent⟩
  | none =>
      rw [run_defaultPolicy_absent site world isCurrent]
      generalize runFrom site.describe world = ended at described
      obtain ⟨ending, after⟩ := ended
      cases described
      exact ⟨_, rfl⟩

theorem described_of_defaultPolicy_ok (absent : site.current = none)
    {given : NumberedPolicy × Site}
    (gives : (run defaultPolicy site world).1 = .ok given) :
    ∃ policy, (runFrom site.describe world).1 = .ok policy := by
  rw [run_defaultPolicy_absent site world absent] at gives
  generalize runFrom site.describe world = ended at gives
  obtain ⟨ending, after⟩ := ended
  cases ending with
  | ok policy => exact ⟨policy, rfl⟩
  | error stop => cases gives

/-- Validating a setting that wants a default policy is making it. -/
theorem run_validate_wanted (absent : site.current = none)
    (wanted : ∀ settings,
      Settings.ofSetting (world.look site.setting) = .ok settings →
      wants world settings = true) :
    run validate site world =
      ((run defaultPolicy site world).1.map fun made => (some made.1, made.2),
        (run defaultPolicy site world).2) := by
  rw [run_validate]
  cases reads : Settings.ofSetting (world.look site.setting) with
  | ok settings =>
      dsimp only
      rw [if_pos (wanted settings reads)]
  | error cause =>
      rw [run_defaultPolicy_absent site world absent, runFrom_describe, reads]
      rfl

/-- Without a default policy, validating a setting that wants one at start-up
ends as asking for it does; and once that has not failed, the default policy is
given whenever it is asked for, until the setting is given a value. -/
theorem validate_complete (absent : site.current = none)
    (wanted : ∀ settings,
      Settings.ofSetting (world.look site.setting) = .ok settings →
      wants world settings = true) :
    (∀ stop, (run defaultPolicy site world).1 = .error stop ↔
      (run validate site world).1 = .error stop) ∧
    (∀ validated, (run validate site world).1 = .ok validated →
      ∀ steps : List Step, (∀ step ∈ steps, ¬ step.Reassigns) →
        ∃ given, (run defaultPolicy
          (afterAll steps (Step.validate.after (site, world))).1
          (afterAll steps (Step.validate.after (site, world))).2).1 =
            .ok given) := by
  have validates := congrArg Prod.fst (run_validate_wanted absent wanted)
  constructor
  · intro stop
    rw [validates]
    cases (run defaultPolicy site world).1 <;> simp [Except.map]
  · intro validated succeeds steps keep
    obtain ⟨given, gives⟩ :
        ∃ given, (run defaultPolicy site world).1 = .ok given := by
      rw [validates] at succeeds
      cases gives : (run defaultPolicy site world).1 with
      | ok given => exact ⟨given, rfl⟩
      | error stop =>
          rw [gives] at succeeds
          cases succeeds
    obtain ⟨policy, described⟩ := described_of_defaultPolicy_ok absent gives
    obtain ⟨setting, store⟩ :
        (afterAll steps (Step.validate.after (site, world))).1.setting =
            site.setting ∧
          world.SameStore
            (afterAll steps (Step.validate.after (site, world))).2 := by
      have keepAll : ∀ step ∈ Step.validate :: steps, ¬ step.Reassigns :=
        List.forall_mem_cons.mpr ⟨id, keep⟩
      exact steady_afterAll keepAll
    obtain ⟨_, again⟩ := describe_again described store
    apply defaultPolicy_ok_of_described
    rw [describe_congr setting, again]

/-- A setting with everything to enforce, but an unknown fallback rule. -/
def unsoundSetting : Value :=
  .map [(.text "roles", .texts ["ADMIN"]),
    (.text "schema", .map [(.text "Query", .texts ["ADMIN"])]),
    (.text "get_user", .provided .alwaysAdmin),
    (.text "fallback_rule", .text "maybe")]

theorem validate_unsoundSetting :
    (starting unsoundSetting).current = none ∧
    (∀ settings,
      Settings.ofSetting ((World.initial .bare false).look
        (starting unsoundSetting).setting) = .ok settings →
      wants (World.initial .bare false) settings = true) ∧
    (run validate (starting unsoundSetting) (World.initial .bare false)).1 =
      .error (.fault (.configuration (.fallbackNotKnown (.text "maybe")))) := by
  have absent : (starting unsoundSetting).current = none := rfl
  have wanted : ∀ settings,
      Settings.ofSetting ((World.initial .bare false).look
        (starting unsoundSetting).setting) = .ok settings →
      wants (World.initial .bare false) settings = true := by
    intro settings reads
    cases reads
    rfl
  obtain ⟨alike, _⟩ := validate_complete absent wanted
  exact ⟨absent, wanted, (alike _).mp rfl⟩

/-- A setting that names a resolver that does not exist, and says nothing to
enforce. -/
def idleSetting : Value :=
  .map [(.text "get_user", .text "nowhere")]

/-- Validation does not find what keeps the default policy from being made,
though the settings ask for validation at start-up. -/
theorem validate_idleSetting :
    (∃ settings, Settings.ofSetting idleSetting = .ok settings ∧
      settings.validateOnStartup.truthy = true) ∧
    (starting idleSetting).current = none ∧
    run validate (starting idleSetting) (World.initial .bare false) =
      (.ok (none, starting idleSetting), World.initial .bare false) ∧
    (run defaultPolicy (starting idleSetting) (World.initial .bare false)).1 =
      .error (.fault (.configuration (.resolverNotImported "nowhere"
        "nowhere doesn't look like a module path"))) :=
  ⟨⟨_, rfl, rfl⟩, rfl, rfl, rfl⟩

end Site

end RoleGuard
