import RoleGuard.Settings

/-!
# The policy that settings describe

Settings name an identity resolver, by itself or by the path it is found under,
and a fallback rule by a word.  Roles and table are taken from a policy file
where they are not given inline.  The file is read before the resolver and the
rule are looked up, and the first fault met is reported.
-/

namespace RoleGuard

namespace Settings

/-- The resolver that the settings name: a callable value, or what is found
under the path they give. -/
def resolveGetUser (settings : Settings) : Act Value := do
  if settings.getUser.isCallable then return settings.getUser
  else
    match settings.getUser.content with
    | .text path =>
        match (← get).host.importPath path with
        | .ok v => return v
        | .error fault =>
            if fault.kind = .failedImport then
              Act.fail
                (.configuration (.resolverNotImported path fault.message))
            else Act.fail fault
    | .bytes _ | .buffer _ => Act.fail .bytesExpected
    | _ =>
        Act.fail ((← Act.refresh settings.getUser).operationSurplus "rsplit" 2)

/-- The rule that the settings name for fields the table says nothing about. -/
def resolveFallbackRule (settings : Settings) : Act Value := do
  if settings.fallbackRule.isRule then return settings.fallbackRule
  else
    match settings.fallbackRule with
    | .text "allow" => return .rule .allow
    | .text "deny" => return .rule .deny
    | v =>
        Act.fail (Misconfiguration.fallbackNotKnown (← Act.refresh v)).fault

end Settings

namespace Policy

/-- The first value that is true in a condition, or else the second, for values
that may be references. -/
def firstGiven (first second : Value) : Act Value := do
  return if (← Act.look first).truthy then first else second

/-- The roles and the table of settings: each is taken from the policy file, if
one is named, where it is not given inline. -/
def rolesAndSchema (settings : Settings) : Act (Value × Value) := do
  if (← Act.look settings.schemaFile).truthy then
    let path ← Act.look settings.schemaFile
    let file ← Act.ofLogged (PolicyFile.load (← get).host path)
    return (← firstGiven settings.roles file.roles,
      ← firstGiven settings.schema file.schema)
  else return (settings.roles, settings.schema)

/-- The policy that settings describe. -/
def ofSettings (settings : Settings) : Act Policy := do
  let (roles, schema) ← rolesAndSchema settings
  let getUser ← settings.resolveGetUser
  let fallbackRule ← settings.resolveFallbackRule
  make {
    roles, schema, getUser, fallbackRule
    contextKey := settings.contextKey
    fallbackError := settings.fallbackError
    debug := settings.debug }

end Policy

end RoleGuard
