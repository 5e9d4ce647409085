import RoleGuard.Resolver

/-!
# Resolving the identity of a request

The entry of a context under the configured key is the identity itself or a
resolver of it.  What a resolver gives is memoised in the context together with
the resolver and the operation, so that one operation calls a resolver once.  A
resolver that fails gives no identity.  An awaitable becomes a task that all
fields of the operation share, if an event loop is running; without one it is
handed on and not memoised.
-/

namespace RoleGuard

/-- The identity that a memo holds for a source and an operation. -/
def Value.recall (memo source : Value) (operation : Option String) :
    Option Value :=
  match memo with
  | .memo known done who =>
      if known.same source && done == operation then some who else none
  | _ => none

namespace Identity

/-- The source of identities: the given resolver, or else what the context has
under the key. -/
def source (context key resolver : Value) : Act Value :=
  match resolver with
  | .null => Context.read context key .null
  | given => return given

/-- Memoises an identity.  A context that refuses to be written is left as it
is. -/
def remember (context memo : Value) : Act Unit :=
  Act.tolerate (Context.write context (.text memoKey) memo) fun fault =>
    if fault.refusesWrite then return () else Act.fail fault

/-- Memoises what a source gave for an operation.  An awaitable becomes a task
if an event loop is running; without one it is handed on. -/
def keep (context source : Value) (operation : Option String)
    (answer : Value) : Act Value := do
  match (← Act.look answer).content with
  | .pending awaitable =>
      if (← get).loopRunning then
        let task ← Task.schedule (.guarded awaitable)
        remember context (.memo source operation task)
        return task
      else return .pending (.guarded awaitable)
  | _ => do
      remember context (.memo source operation answer)
      return answer

/-- The identity for a request, or an awaitable of it.  `call` calls a source
with the context. -/
def resolveBy (call : Value → Value → Act Value)
    (context key resolver : Value) (operation : Option String) :
    Act Value := do
  let source ← source context key resolver
  if source.isCallable then
    let memo ← Context.read context (.text memoKey) .null
    match memo.recall source operation with
    | some who => return who
    | none => do
        let answer ← withoutFailure (call source context)
        keep context source operation answer
  else return source

/-- The key under which contexts hold the identity unless another one is
given. -/
def defaultKey : Value := .text "user"

end Identity

/-- Calls a value with a context.  What resolves identities itself does so for
the context; meeting itself there again it would never end. -/
def callValue (source context : Value) : Act Value :=
  match source.content with
  | .named _ _ .resolves =>
      Identity.resolveBy callSimply context Identity.defaultKey .null none
  | _ => callSimply source context

namespace Identity

/-- The identity for a request, or an awaitable of it. -/
def resolve (context key resolver : Value) (operation : Option String) :
    Act Value :=
  resolveBy callValue context key resolver operation

end Identity

end RoleGuard
