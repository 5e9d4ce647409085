import RoleGuard.Proofs.Running
import RoleGuard.Tree

/-!
# Roles of identities and disjunctions of roles

`Value.role?` is the role that reading an identity gives, without the note that
a failing read leaves.  A rule that the compiler builds is a disjunction of
roles; asked about an identity it never fails, and it is true exactly for the
roles in it.
-/

namespace RoleGuard

namespace Value

/-- The role of an identity, if it can be read and is a non-empty text. -/
def role? (identity : Value) : Option String :=
  match readRole identity with
  | .ok role => usableRole? role
  | .error _ => none

/-- What reading the role of an identity notes. -/
def roleEvents (identity : Value) : Journal :=
  match readRole identity with
  | .ok _ => []
  | .error fault => [.roleUnreadable fault]

end Value

theorem runFrom_roleOf (identity : Value) (journal : Journal) :
    runFrom (roleOf identity) journal =
      (.ok identity.role?, journal ++ identity.roleEvents) := by
  unfold roleOf Value.role? Value.roleEvents
  cases readRole identity with
  | ok role => simp
  | error fault => rfl

theorem roleValue_same_text (role : Option String) (name : String) :
    (roleValue role).same (.text name) = (role == some name) := by
  cases role with
  | none => rfl
  | some held => rfl

namespace Rule

theorem runFrom_evaluate_role (name : String) (identity : Value)
    (journal : Journal) :
    runFrom (evaluate (.role (.text name)) identity) journal =
      (.ok (.bool (identity.role? == some name)),
        journal ++ identity.roleEvents) := by
  rw [evaluate, runFrom_bind_ok (runFrom_roleOf identity journal),
    roleValue_same_text]
  rfl

/-- A disjunction of roles is asked up to the role of the identity, or to its
end; each rule asked reads the role once. -/
theorem runFrom_evaluateAny_roles (names : List String) (identity : Value)
    (journal : Journal) :
    ∃ after,
      runFrom (evaluateAny (names.map fun name => .role (.text name)) identity)
          journal =
        (.ok (names.any fun name => identity.role? == some name), after) := by
  induction names generalizing journal with
  | nil => exact ⟨journal, rfl⟩
  | cons name names ih =>
      rw [List.map_cons, evaluateAny,
        runFrom_bind_ok (runFrom_evaluate_role name identity journal)]
      cases held : identity.role? == some name with
      | true =>
          refine ⟨journal ++ identity.roleEvents, ?_⟩
          simp [held, Value.truthy, Value.content]
      | false =>
          obtain ⟨after, rest⟩ := ih (journal ++ identity.roleEvents)
          refine ⟨after, ?_⟩
          simpa [held, Value.truthy, Value.content] using rest

end Rule

theorem runFrom_ask_rolesRule (names : List String) (identity : Value)
    (journal : Journal) :
    ∃ after,
      runFrom ((rolesRule names).node.ask identity) journal =
        (.ok (.bool (names.any fun name => identity.role? == some name)),
          after) := by
  obtain ⟨after, asked⟩ :=
    Rule.runFrom_evaluateAny_roles names identity journal
  refine ⟨after, ?_⟩
  have leaf : (rolesRule names).node.ask identity =
      (rolesRule names).evaluate identity := by
    simp [Rule.node, Value.ask, Value.callBy, Logged.caller]
  rw [leaf, rolesRule, Rule.evaluate, runFrom_bind_ok asked]
  rfl

end RoleGuard
