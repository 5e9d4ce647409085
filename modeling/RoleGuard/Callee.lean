import RoleGuard.Context
import RoleGuard.PolicyFile
import RoleGuard.Tree

/-!
# Calling what the library names

Settings may name any function or type of the library as the resolver of
identities.  It is then called with the request context as its one argument and
does what it does for any argument: a reader of roles reads the role of the
context, a type makes an object, and a function of more arguments fails.
-/

namespace RoleGuard

namespace Operation

/-- The disjunction of the items of a value, whatever they are. -/
def ruleOfItems (v : Value) : Except Fault Value := do
  return .disjunction (.sequence .tuple (← v.iterate))

/-- The role names of a list as they are kept. -/
def normalizedRoles (v : Value) : Logged Value := do
  match declaredRoles v with
  | .ok names => return .sequence .tuple (names.map .text)
  | .error cause => throw cause.fault

def policyFile (host : Host) (path : Value) : Logged Value := do
  let file ← PolicyFile.load host path
  return .sequence .tuple [file.roles, file.schema]

/-- What awaiting a value gives, failures counting as no identity. -/
def guardedPending (v : Value) : Pending :=
  match v.content with
  | .pending awaitable => .guarded awaitable
  | _ => .guarded (.refused v.fullTypeName)

def perform (operation : Operation) (argument : Value) : Act Value := do
  let now ← Act.refresh argument
  match operation with
  | .readRole => return roleValue (← Act.ofLogged (roleOf now))
  | .makeIdentity => return .identity argument .null
  | .makeRoleRule => return .rule (.role argument)
  | .makeConstant => return .rule (.constant argument)
  | .anyOfItems => Act.ofExcept (ruleOfItems now)
  | .anyOfOne => return .disjunction (.sequence .tuple [argument])
  | .buildRoleRules => return .map (← Act.ofExcept (roleRules now))
  | .makeTree =>
      return .annotatedMap (← Act.ofExcept (PermissionTree.ofNodes now)).nodes []
  | .makePath => return .path (← Act.ofExcept (PolicyFile.pathOf now))
  | .loadPolicyFile =>
      Act.ofLogged (policyFile (← get).host now)
  | .normalizeRoles => Act.ofLogged (normalizedRoles now)
  | .isRoleList => return .bool now.roleItems?.isSome
  | .forgetIdentity => do
      Context.forget argument
      return .null
  | .awaitIdentity => return .pending (guardedPending now)
  | .construct typeName part => return .other typeName [(part, argument)]
  | .copy => return argument
  | .ignore => return .null

end Operation

/-- Answers a call with one argument, for what does not resolve identities
itself. -/
def Calling.answer (calling : Calling) (typeName : String) (argument : Value) :
    Act Value :=
  match calling with
  | .refused => Act.fail (.lacks .calling typeName)
  | .fails reason => Act.fail (.unsuitable reason)
  | .unmet reason => Act.fail (.unmet reason)
  | .performs operation => operation.perform argument
  | .resolves => Act.fail .endless

end RoleGuard
