import RoleGuard.Settings

/-!
# What the library's own modules define

A resolver of identities can be named by its path, and everything that the
modules of the library define can be named so.  A function or type is known by
its path, the name of its own type, and how it answers a call with one argument.
What a module takes from outside the library is not listed.

`Module.get` is how names are found where a list of modules is all there is.
-/

namespace RoleGuard

/-- A module: its path, whether it has modules below it, and what it names. -/
structure Module where
  path : String
  hasSubmodules : Bool
  names : List (String × Value)

namespace Module

def find? (modules : List Module) (path : String) : Option Module :=
  modules.find? fun entry => entry.path == path

def absentText (path : String) : String :=
  "No module named " ++ Text.quoted path

/-- Why a path leads to no module: its first part that names none. -/
def absentReason (modules : List Module) (known : Option Module)
    (before : String) : List String → String
  | [] => absentText before
  | part :: rest =>
      let path := if before = "" then part else before ++ "." ++ part
      match find? modules path with
      | some found => absentReason modules (some found) path rest
      | none =>
          match known with
          | some parent =>
              if parent.hasSubmodules then absentText path
              else
                absentText path ++ "; " ++ Text.quoted parent.path ++
                  " is not a package"
          | none => absentText path

/-- What a module has under a name, or how getting it fails. -/
def get (modules : List Module) (path name : String) : Except Fault Value :=
  match find? modules path with
  | some found =>
      match Value.findAttribute? found.names name with
      | some v => .ok v
      | none =>
          .error (.attributeConcealed ("module " ++ Text.quoted path ++
            " has no attribute " ++ Text.quoted name))
  | none =>
      if path = "" then .error .moduleNameEmpty
      else if path.startsWith "." then .error (.moduleNameRelative path)
      else
        .error (.importFailed
          (absentReason modules none "" (path.splitOn ".")))

end Module

namespace Library

/-- The answer of a function that takes no argument. -/
def takesNone (name : String) : Calling :=
  .fails (name ++ "() takes 0 positional arguments but 1 was given")

/-- The answer of a type that takes no argument. -/
def bare (name : String) : Calling :=
  .fails (name ++ "() takes no arguments")

/-- The answer of a function that needs more arguments. -/
def needs (name : String) (arguments : List String) : Calling :=
  .fails (Fault.argumentsMissing name arguments).message

def entry (module typeName name : String) (calling : Calling) :
    String × Value :=
  (name, .named (module ++ "." ++ name) typeName calling)

def function (module name : String) (calling : Calling) : String × Value :=
  entry module "function" name calling

def kind (module name : String) (calling : Calling) : String × Value :=
  entry module "type" name calling

/-- Something of a module that cannot be called. -/
def inert (module typeName name : String) : String × Value :=
  entry module typeName name .refused

/-- A name for either of two types. -/
def eitherForm (module name : String) : String × Value :=
  entry module "_UnionGenericAlias" name
    (.fails "Cannot instantiate typing.Union")

/-- What a module offers to others. -/
def offered (names : List String) : String × Value :=
  ("__all__", .texts names)

def members (entries : List (String × Value)) : Value :=
  .map (entries.map fun entry => (.text entry.1, entry.2))

/-- The rules that allow and deny everyone, under their names. -/
def constantRules : List (String × Value) :=
  [("allow", .rule .allow), ("deny", .rule .deny)]

/-- A channel that events are noted on. -/
def channel (module : String) : String × Value := inert module "Logger" "logger"

def appsNames : List (String × Value) :=
  let here := "rail_rbac.apps"
  [kind here "RailRbacConfig" (needs "AppConfig.__init__" ["app_module"]),
    function here "validate_rbac_settings" (takesNone "validate_rbac_settings"),
    function here "_reset_on_setting_change" (.performs .ignore)]

def compilerNames : List (String × Value) :=
  let here := "rail_rbac.compiler"
  [entry here "ABCMeta" "PermissionTree" (.performs .makeTree),
    function here "compile_permission_tree"
      (needs "compile_permission_tree" ["table"]),
    eitherForm here "PermissionNode", channel here,
    offered ["PermissionNode", "PermissionTree", "compile_permission_tree"]]

/-- The settings that hold where an application gives none. -/
def defaultsNames : List (String × Value) :=
  [("SETTINGS_NAME", .text settingName),
    ("LIBRARY_DEFAULTS", members (Settings.toEntries {}))]

def exceptionsNames : List (String × Value) :=
  let error := fun (name : String) =>
    kind "rail_rbac.exceptions" name (.performs (.construct name "message"))
  [error "RBACError", error "RBACConfigurationError", error "PermissionDenied",
    offered ["RBACError", "RBACConfigurationError", "PermissionDenied"]]

def identityNames : List (String × Value) :=
  let here := "rail_rbac.identity"
  [kind here "Identity" (.performs .makeIdentity),
    kind here "_CachedIdentity"
      (needs "_CachedIdentity.__init__" ["operation", "identity"]),
    ("get_request_identity", .provided .requestUser),
    function here "get_context_value" (needs "get_context_value" ["key"]),
    function here "set_context_value"
      (needs "set_context_value" ["key", "value"]),
    function here "_remember" (needs "_remember" ["value"]),
    function here "clear_identity" (.performs .forgetIdentity),
    function here "_await_identity" (.performs .awaitIdentity),
    function here "resolve_identity" .resolves,
    ("IDENTITY_CACHE_KEY", .text memoKey), channel here,
    offered ["Identity", "IDENTITY_CACHE_KEY", "get_request_identity",
      "get_context_value", "set_context_value", "clear_identity",
      "resolve_identity"]]

def loaderNames : List (String × Value) :=
  let here := "rail_rbac.loader"
  [function here "load_rbac_file" (.performs .loadPolicyFile), channel here,
    offered ["load_rbac_file"]]

def middlewareNames : List (String × Value) :=
  let here := "rail_rbac.middleware"
  [kind here "PermissionMiddleware"
      (.performs (.construct "PermissionMiddleware" "tree")),
    channel here, offered ["PermissionMiddleware"]]

def policyNames : List (String × Value) :=
  let here := "rail_rbac.rbac"
  [kind here "RBAC" (needs "RBAC.__init__" ["schema", "get_user"]),
    function here "get_default_rbac" (takesNone "get_default_rbac"),
    function here "reset_default_rbac" (takesNone "reset_default_rbac"),
    ("_default_rbac", .null), inert here "lock" "_default_lock", channel here,
    offered ["RBAC", "get_default_rbac", "reset_default_rbac"]]

def rulesNames : List (String × Value) :=
  let here := "rail_rbac.rules"
  constantRules ++
  [function here "get_role" (.performs .readRole), kind here "Rule" (bare "Rule"),
    kind here "RoleRule" (.performs .makeRoleRule),
    kind here "RuleOr" (.performs .anyOfItems),
    kind here "_Constant" (.performs .makeConstant),
    function here "any_of" (.performs .anyOfOne),
    function here "build_role_rules" (.performs .buildRoleRules), channel here,
    offered ["Rule", "RoleRule", "RuleOr", "allow", "deny", "any_of",
      "build_role_rules", "get_role"]]

def schemaNames : List (String × Value) :=
  let here := "rail_rbac.schema"
  [kind here "WholeTypeRule" (.performs (.construct "WholeTypeRule" "roles")),
    kind here "FieldRule" (.performs (.construct "FieldRule" "fields")),
    eitherForm here "LocationRule",
    function here "_is_role_list" (.performs .isRoleList),
    function here "normalize_roles" (.performs .normalizeRoles),
    function here "_parse_role_list"
      (needs "_parse_role_list" ["declared", "location"]),
    function here "parse_location"
      (needs "parse_location" ["value", "declared"]),
    function here "parse_permission_table"
      (needs "parse_permission_table" ["roles"]),
    channel here,
    offered ["WholeTypeRule", "FieldRule", "LocationRule", "normalize_roles",
      "parse_location", "parse_permission_table"]]

def settingsNames : List (String × Value) :=
  let here := "rail_rbac.settings"
  [kind here "RBACSettings" (.performs (.construct "RBACSettings" "roles")),
    function here "get_rbac_settings" (takesNone "get_rbac_settings"),
    ("_FALLBACK_RULES", members constantRules),
    offered ["RBACSettings", "get_rbac_settings"]]

def viewsNames : List (String × Value) :=
  let here := "rail_rbac.views"
  [kind here "RBACGraphQLView"
      (.unmet "A Schema is required to be provided to GraphQLView."),
    channel here]

/-- The modules of the library with what they define, by their names within
it. -/
def definitions : List (String × List (String × Value)) :=
  [("apps", appsNames), ("compiler", compilerNames),
    ("defaults", defaultsNames), ("exceptions", exceptionsNames),
    ("identity", identityNames), ("loader", loaderNames),
    ("middleware", middlewareNames), ("rbac", policyNames),
    ("rules", rulesNames), ("schema", schemaNames),
    ("settings", settingsNames), ("views", viewsNames)]

/-- What the library as a whole offers, in order. -/
def offeredNames : List String :=
  ["RBAC", "get_default_rbac", "reset_default_rbac", "Rule", "RoleRule",
    "RuleOr", "allow", "deny", "any_of", "build_role_rules", "WholeTypeRule",
    "FieldRule", "parse_permission_table", "PermissionTree",
    "compile_permission_tree", "load_rbac_file", "Identity",
    "get_request_identity", "resolve_identity", "PermissionMiddleware",
    "RBACError", "RBACConfigurationError", "PermissionDenied"]

/-- The names that a module takes from others of the library and has as
well. -/
def taken : String → List String
  | "apps" => ["SETTINGS_NAME"]
  | "compiler" =>
      ["Rule", "any_of", "build_role_rules", "FieldRule", "WholeTypeRule",
        "normalize_roles", "parse_permission_table"]
  | "loader" | "schema" => ["RBACConfigurationError"]
  | "middleware" =>
      ["PermissionTree", "PermissionDenied", "resolve_identity", "Rule",
        "allow", "get_role"]
  | "rbac" =>
      ["PermissionTree", "compile_permission_tree", "RBACConfigurationError",
        "clear_identity", "set_context_value", "load_rbac_file",
        "PermissionMiddleware", "Rule", "allow"]
  | "settings" =>
      ["LIBRARY_DEFAULTS", "SETTINGS_NAME", "RBACConfigurationError", "Rule",
        "allow", "deny"]
  | "views" => ["clear_identity", "RBAC", "get_default_rbac"]
  | _ => []

/-- What is defined under a name, wherever that is. -/
def definition? (name : String) : Option (String × Value) :=
  (definitions.flatMap Prod.snd).find? fun entry => entry.1 == name

def path : String := "rail_rbac"

/-- The names that a module has for itself and for the one it is in. -/
def ownNames (module parent : String) : List (String × Value) :=
  [("__name__", .text module), ("__package__", .text parent)]

def submodule (defined : String × List (String × Value)) : Module where
  path := path ++ "." ++ defined.1
  hasSubmodules := false
  names := defined.2 ++ (taken defined.1).filterMap definition? ++
    ownNames (path ++ "." ++ defined.1) path

/-- The library's own module: what it offers and the modules below it. -/
def package : Module where
  path := path
  hasSubmodules := true
  names := offeredNames.filterMap definition? ++
    [("__version__", .text "0.1.0"), offered offeredNames] ++
    ("conf" :: definitions.map Prod.fst).map (inert path "module") ++
    ownNames path path

def modules : List Module :=
  package :: definitions.map submodule

/-- A host that has the modules of the library and no files. -/
def host : Host :=
  { Host.bare with names := Module.get modules }

/-- Everything that the library offers is found in it. -/
theorem get_offered :
    (offeredNames.all fun name => (Module.get modules path name).isOk) =
      true := by
  decide +kernel

/-- The resolver that settings name by default reads the requester from a
request. -/
theorem importPath_default :
    host.importPath "rail_rbac.identity.get_request_identity" =
      .ok (.provided .requestUser) :=
  rfl

end Library

end RoleGuard
