import RoleGuard.Guard

/-!
# Policies

A policy compiles declared roles and a permission table once.  It hands out the
guard that enforces the table and prepares the contexts that the guard reads,
and it answers for identities that have been resolved already.
-/

namespace RoleGuard

/-- A compiled policy. -/
structure Policy where
  permissions : PermissionTree
  roles : Value
  schema : Value
  getUser : Value
  contextKey : Value
  fallbackRule : Value
  fallbackError : Value
  debug : Value

/-- What a policy is made from. -/
structure PolicySource where
  roles : Value
  schema : Value
  getUser : Value
  contextKey : Value := .text "user"
  fallbackRule : Value := .rule .allow
  fallbackError : Value := .text Denial.defaultMessage
  debug : Value := .bool false

def argument? (arguments : List (String × Value)) (name : String) :
    Option Value :=
  Value.findAttribute? arguments name

/-- The name of the object that is made, which no argument may take. -/
def ownName : String := "self"

/-- Refuses arguments that are not among the given names. -/
def checkArguments (callee : String) (names : List String)
    (arguments : List (String × Value)) : Except Fault Unit :=
  match arguments.find? fun entry => !names.contains entry.1 with
  | some entry =>
      if entry.1 = ownName then .error (.argumentRepeated callee entry.1)
      else .error (.argumentUnexpected callee entry.1)
  | none => .ok ()

namespace PolicySource

/-- The arguments that have to be given. -/
def requiredNames : List String := ["roles", "schema", "get_user"]

/-- The arguments that may be given. -/
def names : List String :=
  requiredNames ++
    ["context_key", "fallback_rule", "fallback_error", "debug"]

/-- What a policy is made from, by named arguments. -/
def ofArguments (arguments : List (String × Value)) :
    Except Fault PolicySource := do
  checkArguments "RBAC.__init__" names arguments
  match argument? arguments "roles", argument? arguments "schema",
      argument? arguments "get_user" with
  | some roles, some schema, some getUser =>
      let base : PolicySource := { roles, schema, getUser }
      return { base with
        contextKey := (argument? arguments "context_key").getD base.contextKey
        fallbackRule :=
          (argument? arguments "fallback_rule").getD base.fallbackRule
        fallbackError :=
          (argument? arguments "fallback_error").getD base.fallbackError
        debug := (argument? arguments "debug").getD base.debug }
  | _, _, _ =>
      throw (.argumentsMissing "RBAC.__init__" (requiredNames.filter
        fun name => (argument? arguments name).isNone))

end PolicySource

namespace Policy

/-- Compiles a policy whose roles and table hold no references. -/
def compile (source : PolicySource) : Logged Policy := do
  if !source.getUser.isCallable then throw (.configuration .resolverNotCallable)
  else if !source.fallbackRule.isRule then throw (.configuration .fallbackNotRule)
  else
    let permissions ← PermissionTree.compile source.roles source.schema
    return {
      permissions
      roles := .sequence .tuple (source.roles.roleItems?.getD [])
      schema := source.schema
      getUser := source.getUser
      contextKey := source.contextKey
      fallbackRule := source.fallbackRule
      fallbackError := source.fallbackError
      debug := source.debug }

/-- Makes a policy.  The tree is compiled from the table as it stands; the
table itself is kept by reference. -/
def make (source : PolicySource) : Act Policy := do
  let policy ← Act.ofLogged (compile
    { source with
      roles := ← Act.refresh source.roles
      schema := ← Act.refresh source.schema })
  return { policy with schema := source.schema }

/-- The guard that enforces a policy, with a resolver to call instead of the
one that contexts hold. -/
def guard (policy : Policy) (identityResolver : Value) : Guard where
  tree := policy.permissions
  contextKey := policy.contextKey
  identityResolver := identityResolver
  fallbackRule := policy.fallbackRule
  fallbackError := policy.fallbackError
  debug := policy.debug

/-- The entries that a policy publishes in a context. -/
def contextEntries (policy : Policy) : Except Fault (List (Value × Value)) := do
  Value.checkHashable policy.contextKey
  return [(policy.contextKey, policy.getUser)]

/-- Prepares a context: the memo of an earlier request is dropped and the
resolver is published.  Without a context a new one is made. -/
def applyContext (policy : Policy) (context : Value) : Act Value := do
  let target ←
    match context with
    | .null => modifyGet fun world => world.share (.map [])
    | given => pure given
  Context.forget target
  for (key, v) in ← Act.ofExcept policy.contextEntries do
    Context.write target key v
  return target

def ruleFor (policy : Policy) (type field : Value) : Logged Value := do
  let rule ← policy.permissions.ruleFor type field
  return rule.orElse policy.fallbackRule

/-- Whether an identity may read a field, as things stand now. -/
def isAllowedNow (policy : Policy) (type field identity : Value) :
    Act Value := do
  callValue (← Act.ofLogged (policy.ruleFor type field)) identity

end Policy

end RoleGuard
