import RoleGuard.Journal
import RoleGuard.Value.Text

/-!
# Declared roles and the permission table

A table maps the name of a type either to the roles that may read every field
of it or to a mapping from field names to such roles.  Declared roles and table
are checked in order, entry by entry and element by element, and the first
fault found is reported.  A role repeated in one list is noted and dropped.
-/

namespace RoleGuard

/-- Role names from a list, none empty and none among those already seen. -/
def distinctRoleNames (seen : List String) :
    List Value → Except Misconfiguration (List String)
  | [] => .ok []
  | .text name :: rest =>
      if name = "" then .error (.roleNotName (.text name))
      else if seen.contains name then .error (.roleDeclaredTwice name)
      else do
        let names ← distinctRoleNames (name :: seen) rest
        return name :: names
  | v :: _ => .error (.roleNotName v)

/-- The declared roles, in order. -/
def declaredRoles (roles : Value) : Except Misconfiguration (List String) :=
  match roles.roleItems? with
  | some items => distinctRoleNames [] items
  | none => .error (.rolesNotList roles.typeName)

/-- An entry of the table: roles for every field of a type, or roles field by
field. -/
inductive Entry where
  | wholeType (roles : List String)
  | fields (fields : List (String × List String))
  deriving DecidableEq, Repr

/-- The roles of a list, each declared; `kept` are those read before.  A role
kept already is noted and dropped. -/
def allowedRoles (declared : List String) (location : String)
    (field : Option String) (kept : List String) :
    List Value → Checked (List String)
  | [] => return kept
  | .text name :: rest => do
      if !declared.contains name then
        throw (.roleNotDeclared location field (.text name))
      else if kept.contains name then
        Logged.note (.roleRepeated name (locationText location field))
        allowedRoles declared location field kept rest
      else allowedRoles declared location field (kept ++ [name]) rest
  | v :: _ => throw (.roleNotDeclared location field v)

/-- The fields of an entry with their roles, in order. -/
def allowedFields (declared : List String) (location : String) :
    List (Value × Value) → Checked (List (String × List String))
  | [] => return []
  | (.text field, roles) :: rest => do
      if field = "" then throw (.fieldNameNotName location)
      else
        match roles.roleItems? with
        | none => throw (.rolesOfFieldNotList location (some field))
        | some items => do
            let names ← allowedRoles declared location (some field) [] items
            let fields ← allowedFields declared location rest
            return (field, names) :: fields
  | _ :: _ => throw (.fieldNameNotName location)

def readEntry (declared : List String) (location : String) (entry : Value) :
    Checked Entry :=
  match entry.roleItems? with
  | some items =>
      .wholeType <$> allowedRoles declared location none [] items
  | none =>
      match entry.entries? with
      | some fields => .fields <$> allowedFields declared location fields
      | none => throw (.entryNotRoles location entry.typeName)

/-- Reads the entries of a table, in order. -/
def readEntries (declared : List String) :
    List (Value × Value) → Checked (List (String × Entry))
  | [] => return []
  | (.text location, v) :: rest => do
      if location = "" then throw (.typeNameNotName (.text location))
      else
        let entry ← readEntry declared location v
        let entries ← readEntries declared rest
        return (location, entry) :: entries
  | (key, _) :: _ => throw (.typeNameNotName key)

/-- The entries of a value that serves as a table. -/
def tableEntries (table : Value) : Checked (List (Value × Value)) :=
  match table.entries? with
  | some entries => return entries
  | none => throw (.tableNotMapping table.typeName)

def readTable (declared : List String) (table : Value) :
    Checked (List (String × Entry)) := do
  readEntries declared (← tableEntries table)

end RoleGuard
