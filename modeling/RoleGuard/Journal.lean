import RoleGuard.Fault

/-!
# The journal

Operations note events in a journal.  An event has a level, a channel and one
wording; an event that reports a fault carries it.  `Logged` computations note
events and may fail, and what was noted before a failure is kept.  `Checked`
ones fail with what is wrong with a configuration only.
-/

namespace RoleGuard

/-- How serious an event is. -/
inductive Level where
  | debug
  | info
  | warning
  | error
  deriving DecidableEq, Repr

/-- The part of the library that notes an event. -/
inductive Channel where
  | rules
  | table
  | compiler
  | identity
  | guard
  | policy
  | loader
  deriving DecidableEq, Repr

/-- What a journal records. -/
inductive Event where
  | roleUnreadable (fault : Fault)
  | roleRepeated (role location : String)
  | compiled (roles locations : Nat)
  | resolverFailed (fault : Fault)
  | ruleFailed (type field : String) (fault : Fault)
  | accessDenied (type field : String) (role : Option String)
  | locationUnknown (name : String)
  | fileLoaded (path : String)

namespace Event

def level : Event → Level
  | .roleUnreadable _ | .accessDenied _ _ _ | .fileLoaded _ => .debug
  | .compiled _ _ => .info
  | .roleRepeated _ _ | .locationUnknown _ => .warning
  | .resolverFailed _ | .ruleFailed _ _ _ => .error

/-- The part of the library that an event comes from. -/
def channel : Event → Channel
  | .roleUnreadable _ => .rules
  | .roleRepeated _ _ => .table
  | .compiled _ _ => .compiler
  | .resolverFailed _ => .identity
  | .ruleFailed _ _ _ | .accessDenied _ _ _ => .guard
  | .locationUnknown _ => .policy
  | .fileLoaded _ => .loader

/-- The fault that an event reports beside its wording. -/
def fault? : Event → Option Fault
  | .resolverFailed fault | .ruleFailed _ _ fault => some fault
  | _ => none

def roleText : Option String → String
  | some role => Text.quoted role
  | none => "None"

def message : Event → String
  | .roleUnreadable fault =>
      "Could not read role from identity: " ++ fault.message
  | .roleRepeated role location =>
      "Role '" ++ role ++ "' listed twice on '" ++ location ++
        "', ignoring duplicate"
  | .compiled roles locations =>
      "Compiled RBAC permission tree: " ++ toString roles ++ " roles, " ++
        toString locations ++ " locations"
  | .resolverFailed _ => "Identity resolver failed, denying access"
  | .ruleFailed type field _ =>
      "Permission rule failed on " ++ type ++ "." ++ field
  | .accessDenied type field role =>
      "Access denied to " ++ type ++ "." ++ field ++ " for role " ++
        roleText role
  | .locationUnknown name =>
      "RBAC permission references unknown schema location '" ++ name ++ "'"
  | .fileLoaded path => "Loaded RBAC definitions from " ++ path

end Event

/-- Events in the order they were noted. -/
abbrev Journal := List Event

/-- A computation that notes events and may fail. -/
abbrev Logged (α : Type) := ExceptT Fault (StateM Journal) α

/-- A computation that notes events and may find a configuration wrong. -/
abbrev Checked (α : Type) := ExceptT Misconfiguration (StateM Journal) α

namespace Logged

def note (event : Event) : ExceptT ε (StateM Journal) Unit :=
  modify fun journal => journal ++ [event]

def result (computation : Logged α) : Except Fault α × Journal :=
  Id.run ((ExceptT.run computation).run [])

end Logged

end RoleGuard
