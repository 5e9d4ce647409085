import RoleGuard.Settings.Policy

/-!
# The default policy of a site

A site has one default policy, made from its setting when it is first asked for
and kept until the setting changes or the policy is reset.  A policy that
cannot be made leaves the site without one.  At start-up the default policy is
made at once, so that faults in the setting are found then.
-/

namespace RoleGuard

/-- A default policy with a number of its own. -/
structure NumberedPolicy where
  serial : Nat
  policy : Policy

/-- The site's setting and its default policy, if it has been made; `made`
counts the policies made so far. -/
structure Site where
  setting : Value
  current : Option NumberedPolicy
  made : Nat

/-- An operation on a site.  One that fails leaves the site as it was. -/
abbrev SiteAct (α : Type) := StateT Site Act α

namespace Site

/-- A site without a setting. -/
def initial : Site := ⟨.null, none, 0⟩

def settings : SiteAct Settings := do
  let setting ← Act.look (← get).setting
  match Settings.ofSetting setting with
  | .ok settings => return settings
  | .error cause => throw (.fault (.configuration cause))

/-- The default policy, made if there is none. -/
def defaultPolicy : SiteAct NumberedPolicy := do
  match (← get).current with
  | some current => return current
  | none => do
      let policy ← Policy.ofSettings (← settings)
      let site ← get
      let current : NumberedPolicy := ⟨site.made, policy⟩
      set { site with current := some current, made := site.made + 1 }
      return current

def reset : SiteAct Unit :=
  modify fun site => { site with current := none }

/-- Gives the site's setting a value, `null` for none. -/
def assign (v : Value) : SiteAct Unit :=
  modify fun site => { site with setting := v }

/-- Hears that the setting of a given name has changed. -/
def settingChanged (name : String) : SiteAct Unit :=
  if name = settingName then reset else return ()

/-- Makes the default policy if the settings ask for it and say anything to
enforce. -/
def validate : SiteAct (Option NumberedPolicy) := do
  let settings ← settings
  let asked := (← Act.look settings.validateOnStartup).truthy
  if asked && (← settings.isConfigured) then return some (← defaultPolicy)
  else return none

end Site

end RoleGuard
