import RoleGuard.Guard

/-!
# Executing several jobs at once

An execution starts jobs one after another without awaiting them, and then
brings them to their ends in the same order.  A job is a guarded field or the
resolution of an identity; a job whose start fails has ended.
-/

namespace RoleGuard

/-- A field whose resolution is scripted: its outcome, whether it has to be
awaited, and the ticket under which its calls are noted. -/
structure ScriptedField where
  ticket : Nat
  deferred : Bool
  outcome : Outcome

/-- Resolves a scripted field and notes the call, with what the parent object
and the arguments hold at that time. -/
def ScriptedField.resolve (field : ScriptedField) : FieldResolver :=
  fun call => do
    modify fun world =>
      { world with
        visits := world.visits ++
          [Visit.mk field.ticket (world.refresh call.root)
            (call.arguments.map fun argument =>
              (argument.1, world.refresh argument.2))] }
    if field.deferred then return .pending (.ready field.outcome)
    else field.outcome.run .null

/-- Something to be done for a request. -/
inductive Job where
  | field (guard : Guard) (call : FieldCall) (next : FieldResolver)
  | identity (context key resolver : Value) (operation : Option String)

namespace Job

/-- The names of what every field is resolved with, which its own arguments may
not have. -/
def reservedNames : List String := ["self", "next_resolver", "root", "info"]

/-- Refuses arguments of a field with reserved names. -/
def checkNames (arguments : List (String × Value)) : Except Fault Unit :=
  match arguments.find? fun argument => reservedNames.contains argument.1 with
  | some argument =>
      .error (.argumentRepeated "PermissionMiddleware.resolve" argument.1)
  | none => .ok ()

def start : Job → Act Progress
  | .field guard call next => do
      Act.ofExcept (checkNames call.arguments)
      guard.start call next
  | .identity context key resolver operation =>
      .settled <$> Identity.resolve context key resolver operation

def finish (job : Job) (progress : Progress) : Act Value :=
  match job, progress with
  | .field guard call next, progress => guard.finish call next progress
  | .identity _ _ _ _, .settled who => who.await
  | .identity _ _ _ _, .waiting _ who => who.await

end Job

namespace Execution

/-- A job together with how its start ended. -/
structure Started where
  job : Job
  progress : Except Stop Progress

/-- Starts jobs one after another. -/
def startAll (jobs : List Job) : Act (List Started) :=
  jobs.mapM fun job => return ⟨job, ← Act.observe job.start⟩

def finish (started : Started) : Act Value :=
  match started.progress with
  | .ok progress => started.job.finish progress
  | .error stop => throw stop

/-- Whether what the job gave has to be awaited. -/
def Started.isPending (started : Started) : Bool :=
  match started.progress with
  | .ok progress => Guard.isPending progress
  | .error _ => false

def run (jobs : List Job) : Act (List (Except Stop Value)) := do
  (← startAll jobs).mapM fun started => Act.observe (finish started)

end Execution

end RoleGuard
