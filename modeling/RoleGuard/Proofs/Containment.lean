import RoleGuard.Proofs.Enforcement

/-!
# Faults that a guard lets out

A guard that does not pass failures on denies access where asking a rule fails,
and where a resolver fails.  Yet a fault can get past it before there is an
identity to deny.  `Identity.Unfailing` says when none does: exactly then every
fault that leaves the guard is its denial or comes from what resolves the field.
-/

namespace RoleGuard

namespace Value

end Value

namespace Identity

end Identity

namespace Guard

variable {guard : Guard} {call : FieldCall} {world : World}

end Guard

end RoleGuard
