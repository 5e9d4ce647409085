import RoleGuard.Execution
import RoleGuard.Proofs.Registration

/-!
# What resolves fields in the same way

What the application resolves a field with may be asked before or after a
context has been given a memo.  It is steady if it ends in one way then, and
notes nothing but its visits.
-/

namespace RoleGuard

/-- What a resolved field gives, at once or when it is awaited, in worlds that
are `alike`. -/
inductive Comes (alike : World → Prop) (ending : Except Stop Value) :
    Except Stop Value → Prop where
  | result {v : Value} :
      (∀ later, alike later → runFrom v.await later = (ending, later)) →
      Comes alike ending (.ok v)
  | stopped {stop : Stop} : ending = .error stop → Comes alike ending (.error stop)

/-- In worlds that are `alike` a field is resolved with one ending. -/
def Steady (alike : World → Prop) (next : FieldResolver) (call : FieldCall)
    (ending : Except Stop Value) : Prop :=
  ∀ world, alike world → ∃ given visits,
    runFrom (next call) world = (given, { world with visits }) ∧
      Comes alike ending given

/-- A scripted field is steady, unless what it gives at once is an awaitable
itself. -/
theorem ScriptedField.steady (field : ScriptedField) (call : FieldCall)
    (world : World) (context : Value)
    (settled : field.deferred = false → ∀ v,
      field.outcome.ending .null world = .ok v →
        (world.look v).isPending = false) :
    Steady (world.Memoized context) field.resolve call
      (field.outcome.ending .null world) := by
  intro other memoized
  let visited := { other with
    visits := other.visits ++ [field.visit other call] }
  have visits : runFrom (field.resolve call) other =
      runFrom (if field.deferred then return .pending (.ready field.outcome)
        else field.outcome.run .null) visited :=
    runFrom_bind_ok (runFrom_modify _ other)
  cases deferred : field.deferred with
  | true =>
      refine ⟨.ok (.pending (.ready field.outcome)), visited.visits, ?_, ?_⟩
      · rw [visits, if_pos deferred]
        rfl
      · refine .result fun later _ => ?_
        have awaits : runFrom (Value.pending (.ready field.outcome)).await later =
            runFrom (field.outcome.run .null) later := rfl
        rw [awaits, field.outcome.runFrom_run,
          field.outcome.ending_null world later]
  | false =>
      refine ⟨field.outcome.ending .null world, visited.visits, ?_, ?_⟩
      · rw [visits, if_neg (by simp [deferred]), field.outcome.runFrom_run,
          field.outcome.ending_null world visited]
      · cases ends : field.outcome.ending .null world with
        | error stop => exact .stopped rfl
        | ok v =>
            refine .result fun later memoizedLater => ?_
            apply Value.runFrom_await_settled
            rw [memoizedLater.isPending_look]
            exact settled deferred v ends

end RoleGuard
