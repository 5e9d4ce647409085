/-!
# Kinds of faults

What goes wrong is of a kind, and the kind decides who tolerates it.  A failure
of the application may be of any kind, so kinds are known before values are.
-/

namespace RoleGuard

/-- The kinds of faults.  `general` is the kind of those that are of no other;
`fixedAttribute` counts as an absent attribute, `undecodable` and `unencodable`
as an invalid value; `tooDeep` is met where something would go on without end,
and `tooLarge` where it would not fit. -/
inductive FaultKind where
  | configuration
  | denied
  | general
  | unimplemented
  | absentKey
  | absentAttribute
  | absentName
  | fixedAttribute
  | wrongType
  | wrongValue
  | undecodable
  | unencodable
  | outOfRange
  | unknownName
  | unmet
  | tooDeep
  | tooLarge
  | failedImport
  deriving DecidableEq, Repr

end RoleGuard
