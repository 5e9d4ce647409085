import RoleGuard.Denial
import RoleGuard.Identity
import RoleGuard.Tree

/-!
# Guarding fields

A guard stands in front of every field of a schema.  It resolves the identity of
the request, asks the rule of the field and lets the field be resolved only if
the answer is true; otherwise the access is denied.  Names that start with two
underscores belong to introspection and are not guarded.  When the identity has
to be awaited, the guard stops after resolving it and goes on later.
-/

namespace RoleGuard

/-- What a guard enforces: a tree, where contexts keep the identity, a resolver
that overrides it, the rule for fields the tree says nothing about, the message
of denials and whether failures of rules are passed on. -/
structure Guard where
  tree : PermissionTree
  contextKey : Value
  identityResolver : Value
  fallbackRule : Value
  fallbackError : Value
  debug : Value

/-- A field to be resolved: its parent type and name, the context and the
operation it belongs to, the parent object and the arguments. -/
structure FieldCall where
  type : String
  field : String
  context : Value
  operation : Option String
  root : Value
  arguments : List (String × Value)

/-- What resolves a field once it is allowed. -/
abbrev FieldResolver := FieldCall → Act Value

/-- Where a guarded field stands: it has a result, or waits for an identity that
a rule will be asked about. -/
inductive Progress where
  | settled (result : Value)
  | waiting (rule identity : Value)

namespace Guard

/-- The rule of a field: what the tree says, or else the fallback rule. -/
def ruleFor (guard : Guard) (call : FieldCall) : Act Value := do
  let field := Value.text call.field
  match ← Act.ofExcept (guard.tree.get? (.text call.type)) with
  | none => return guard.fallbackRule
  | some node => do
      let answer ← Act.ofExcept
        (PermissionTree.nodeAnswer (← Act.look node) field)
      let rule ←
        match answer with
        | .rule rule => pure rule
        | .asked source => callValue source field
      return (← Act.look rule).orElse guard.fallbackRule

/-- Whether a rule allows an identity.  A rule that fails does not, unless the
guard passes failures on. -/
def allows (guard : Guard) (rule identity : Value) (call : FieldCall) :
    Act Bool :=
  Act.tolerate
    (do return (← Act.look (← callValue rule identity)).truthy)
    fun fault => do
      if (← Act.look guard.debug).truthy then Act.fail fault
      else
        Act.note (.ruleFailed call.type call.field fault)
        return false

/-- Lets an allowed identity pass and denies any other. -/
def authorize (guard : Guard) (rule identity : Value) (call : FieldCall) :
    Act Unit := do
  if ← guard.allows rule identity call then return ()
  else
    let role ← Act.ofLogged (roleOf (← Act.look identity))
    Act.note (.accessDenied call.type call.field role)
    Act.fail (.denied (Denial.ofMessage (← Act.refresh guard.fallbackError)))

/-- Whether a field belongs to introspection. -/
def isIntrospection (field : String) : Bool := field.startsWith "__"

def start (guard : Guard) (call : FieldCall) (next : FieldResolver) :
    Act Progress := do
  if isIntrospection call.field then return .settled (← next call)
  else
    let rule ← guard.ruleFor call
    let identity ← Identity.resolve call.context guard.contextKey
      guard.identityResolver call.operation
    if identity.isPending then return .waiting rule identity
    else
      guard.authorize rule identity call
      return .settled (← next call)

/-- Goes on with a field whose identity had to be awaited. -/
def resume (guard : Guard) (rule identity : Value) (call : FieldCall)
    (next : FieldResolver) : Act Value := do
  let identity ← identity.await
  guard.authorize rule identity call
  (← next call).await

def finish (guard : Guard) (call : FieldCall) (next : FieldResolver) :
    Progress → Act Value
  | .settled result => result.await
  | .waiting rule identity => guard.resume rule identity call next

def resolve (guard : Guard) (call : FieldCall) (next : FieldResolver) :
    Act Value := do
  guard.finish call next (← guard.start call next)

/-- Whether what a started field gave has to be awaited. -/
def isPending : Progress → Bool
  | .settled result => result.isPending
  | .waiting _ _ => true

end Guard

end RoleGuard
