import RoleGuard.Callee

/-!
# Resolvers, awaitables and tasks

A resolver is called with a request context and gives an identity or an
awaitable of one.  Awaitables are data: awaiting one runs its outcome.  Tasks
wait on the event loop; at the first moment that an operation has to wait for
one of them, all tasks that have not run do so, in the order of their creation.
-/

namespace RoleGuard

def Outcome.run (outcome : Outcome) (context : Value) : Act Value :=
  match outcome with
  | .value v => return v
  | .raise kind message => Act.fail (.application kind message)
  | .abort message => Act.abort message
  | .lookUp key => do
      let object ← Act.look context
      Act.ofExcept <|
        if object.isMapping then object.item key
        else
          match key with
          | .text name => object.readAttribute name
          | _ => .error (.attributeNameNotText key.fullTypeName)

namespace Resolver

/-- The outcome of a call, the last one repeating.  A script may be empty. -/
def outcome? (resolver : Resolver) (call : Nat) : Option Outcome :=
  resolver.script[call]? <|> resolver.script.getLast?

end Resolver

/-- Calls a registered resolver and counts the call.  One whose script is empty
fails. -/
def callRegistered (index : Nat) (context : Value) : Act Value := do
  match (← get).resolvers[index]? with
  | none => return .null
  | some resolver =>
      match resolver.outcome? resolver.calls with
      | none => Act.fail (.outOfRange "list index out of range")
      | some outcome => do
          modify fun world =>
            { world with
              resolvers := world.resolvers.set index
                { resolver with calls := resolver.calls + 1 } }
          if resolver.deferred then return .pending (.call context outcome)
          else outcome.run context

/-- Calls values where resolvers are counted and contexts can change: a rule
evaluates the context as an identity. -/
def Act.caller : Caller Act where
  fail := Act.fail
  leaf callee context := do
    match callee with
    | .resolver index _ => callRegistered index context
    | .named _ typeName calling => calling.answer typeName context
    | .rule r => Act.ofLogged (r.evaluate (← Act.look context))
    | _ => Act.ofExcept (callee.answerPlain (← get).look context)
  holds answer := return (← Act.look answer).truthy

/-- Calls a value with a context, unless it resolves identities itself. -/
def callSimply (source context : Value) : Act Value := do
  (← Act.refresh source).callBy Act.caller context

/-- Runs an operation; if it fails, the failure is noted and there is no
identity. -/
def withoutFailure (operation : Act Value) : Act Value :=
  Act.tolerate operation fun fault => do
    Act.note (.resolverFailed fault)
    return .null

/-- Awaits an awaitable without letting tasks run.  A task may only wait for
one made before it, which has run by then. -/
def Pending.settle : Pending → Act Value
  | .ready outcome => outcome.run .null
  | .call context outcome => outcome.run context
  | .guarded inner => withoutFailure inner.settle
  | .refused typeName =>
      Act.fail (.unsuitable
        ("object " ++ typeName ++ " can't be used in 'await' expression"))
  | .task index => do
      match (← get).tasks[index]? with
      | some ⟨_, some (.ok v)⟩ => return v
      | some ⟨_, some (.error stop)⟩ => throw stop
      | _ => return .null

namespace Task

def schedule (body : Pending) : Act Value := do
  let world ← get
  set { world with tasks := world.tasks ++ [Task.mk body none] }
  return .pending (.task world.tasks.length)

/-- Whether a task has yet to run. -/
def isWaiting (index : Nat) : Act Bool := do
  match (← get).tasks[index]? with
  | some ⟨_, none⟩ => return true
  | _ => return false

/-- Runs a task, unless it has run. -/
def run (index : Nat) : Act Unit := do
  match (← get).tasks[index]? with
  | some ⟨body, none⟩ => do
      let result ← Act.observe body.settle
      modify fun world =>
        { world with tasks := world.tasks.set index ⟨body, some result⟩ }
  | _ => return ()

/-- Runs the tasks that have not run, in the order of their creation. -/
def runAll : Act Unit := do
  (List.range (← get).tasks.length).forM run

end Task

/-- Awaits an awaitable; having to wait for a task lets all tasks run. -/
def Pending.await (awaitable : Pending) : Act Value := do
  match awaitable with
  | .task index => if ← Task.isWaiting index then Task.runAll
  | _ => pure ()
  awaitable.settle

/-- Awaits a value that is awaitable; any other value is itself. -/
def Value.await (v : Value) : Act Value := do
  match (← Act.look v).content with
  | .pending awaitable => awaitable.await
  | _ => return v

end RoleGuard
