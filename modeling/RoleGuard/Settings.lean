import RoleGuard.Policy

/-!
# Settings

The settings of the default policy come from one setting of the application,
a mapping; what it does not name has a default.
-/

namespace RoleGuard

/-- The name of the application's setting. -/
def settingName : String := "GRAPHQL_RBAC"

/-- The settings of a policy. -/
structure Settings where
  roles : Value := .sequence .list []
  schema : Value := .map []
  schemaFile : Value := .null
  getUser : Value := .text "rail_rbac.identity.get_request_identity"
  contextKey : Value := .text "user"
  fallbackRule : Value := .text "allow"
  fallbackError : Value := .text Denial.defaultMessage
  debug : Value := .bool false
  validateOnStartup : Value := .bool true

namespace Settings

def toEntries (settings : Settings) : List (String × Value) :=
  [("roles", settings.roles), ("schema", settings.schema),
    ("schema_file", settings.schemaFile), ("get_user", settings.getUser),
    ("context_key", settings.contextKey),
    ("fallback_rule", settings.fallbackRule),
    ("fallback_error", settings.fallbackError), ("debug", settings.debug),
    ("validate_on_startup", settings.validateOnStartup)]

def names : List String := (toEntries {}).map Prod.fst

/-- Settings from values looked up by name, the others having their
defaults. -/
def ofLookUp (find? : String → Option Value) : Settings :=
  let defaults : Settings := {}
  { roles := (find? "roles").getD defaults.roles
    schema := (find? "schema").getD defaults.schema
    schemaFile := (find? "schema_file").getD defaults.schemaFile
    getUser := (find? "get_user").getD defaults.getUser
    contextKey := (find? "context_key").getD defaults.contextKey
    fallbackRule := (find? "fallback_rule").getD defaults.fallbackRule
    fallbackError := (find? "fallback_error").getD defaults.fallbackError
    debug := (find? "debug").getD defaults.debug
    validateOnStartup :=
      (find? "validate_on_startup").getD defaults.validateOnStartup }

def ofArguments (arguments : List (String × Value)) :
    Except Fault Settings := do
  checkArguments "RBACSettings.__init__" names arguments
  return ofLookUp (argument? arguments)

/-- Settings from the value of the application's setting.  Entries under other
keys are ignored; a value that is false in a condition counts as none. -/
def ofSetting (setting : Value) : Except Misconfiguration Settings :=
  match (setting.orElse (.map [])).content with
  | .map entries => .ok (ofLookUp fun name => Value.find? entries (.text name))
  | _ => .error .settingsNotMapping

/-- Whether the settings say anything to enforce. -/
def isConfigured (settings : Settings) : Act Bool := do
  let given := [settings.roles, settings.schema, settings.schemaFile]
  given.anyM fun v => return (← Act.look v).truthy

end Settings

end RoleGuard
