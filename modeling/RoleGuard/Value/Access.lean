import RoleGuard.Fault
import RoleGuard.Value.Attributes

/-!
# Reading parts of a value

A mapping is read by key, any other value by attribute.  Reading fails with a
cause; a read with a default turns only absence into the default.
-/

namespace RoleGuard

/-- How reading the attribute fails. -/
def FailingAttribute.fault (failure : FailingAttribute) : Fault :=
  if failure.concealed then .attributeConcealed failure.message
  else .application .general failure.message

namespace Value

/-- The attributes that an object stores. -/
def storedAttributes : Value → List (String × Value)
  | .identity role user => [("role", role), ("user", user)]
  | .record attributes | .slotted _ attributes | .locked _ attributes
  | .annotatedMap _ attributes | .failing _ attributes
  | .classed _ attributes | .other _ attributes => attributes
  | .memo source _ who => [("source", source), ("identity", who)]
  | _ => []

/-- What an object gets from its type under a name: a function is bound to the
object. -/
def inheritedAttribute? (holder v : Value) (name : String) : Option Value :=
  match v with
  | .classed inherited _ =>
      (findAttribute? inherited name).map fun found =>
        if found.isFunction then .bound holder found else found
  | _ => none

/-- Reads an attribute of what an object holds: one that is stored, or else one
that its type gives it. -/
def heldAttribute (holder v : Value) (name : String) : Except Fault Value :=
  match findAttribute? v.storedAttributes name <|>
      inheritedAttribute? holder v name <|> inherentAttribute? holder v name with
  | some found => .ok found
  | none => .error (.attributeAbsent v.fullTypeName name)

/-- The failure that reading an attribute ends in, if it does. -/
def failure? (failures : List FailingAttribute) (name : String) :
    Option FailingAttribute :=
  failures.find? fun failure => failure.name == name

def attributeOf (holder : Value) : Value → String → Except Fault Value
  | .object _ v, name => attributeOf holder v name
  | .extended v attributes, name =>
      match findAttribute? attributes name with
      | some found => .ok found
      | none => attributeOf holder v name
  | .bound receiver function, name =>
      if name = "__class__" then
        heldAttribute holder (.bound receiver function) name
      else attributeOf holder function name
  | .failing failures attributes, name =>
      match failure? failures name with
      | some failure => .error failure.fault
      | none => heldAttribute holder (.failing failures attributes) name
  | v, name => heldAttribute holder v name
termination_by structural v => v

def readAttribute (v : Value) (name : String) : Except Fault Value :=
  attributeOf v v name

/-- A read whose absence is a default. -/
def orDefault (read : Except Fault Value) (default : Value) :
    Except Fault Value :=
  match read with
  | .ok v => .ok v
  | .error fault => if fault.meansAbsent then .ok default else .error fault

/-- Reads an attribute, with a default for its absence. -/
def readAttributeOr (v : Value) (name : String) (default : Value) :
    Except Fault Value :=
  orDefault (v.readAttribute name) default

/-- Refuses values that cannot be keys. -/
def checkHashable (key : Value) : Except Fault Unit :=
  match key.unhashable? with
  | some part => .error (.notHashable part.fullTypeName)
  | none => .ok ()

/-- The value under a key that may be any value. -/
def lookUp (entries : List (Value × Value)) (key : Value) :
    Except Fault (Option Value) := do
  checkHashable key
  return find? entries key

/-- Whether the value is a mapping, and so is read by key. -/
def isMapping (v : Value) : Bool := v.entries?.isSome

/-- Reads a mapping by key, with a default for an absent key. -/
def get (v key default : Value) : Except Fault Value :=
  match v.content with
  | .brokenMap missing message =>
      if missing then .ok default
      else .error (.application .general message)
  | _ => do
      let found ← lookUp (v.entries?.getD []) key
      return found.getD default

/-- What is said when a value that is read by position is given something else
than a position. -/
def indexText (v key : Value) : Option String :=
  let needed := fun (name : String) =>
    some (name ++ " indices must be integers or slices, not " ++
      key.fullTypeName)
  match v.content with
  | .text _ =>
      some ("string indices must be integers, not '" ++ key.fullTypeName ++ "'")
  | .sequence .list _ => needed "list"
  | .sequence .tuple _ => needed "tuple"
  | .sequence .deque _ =>
      some ("sequence index must be integer, not '" ++ key.fullTypeName ++ "'")
  | .bytes _ => needed "byte"
  | .buffer _ => needed "bytearray"
  | .range _ _ => needed "range"
  | _ => none

/-- The position that a value is when it is read as an index. -/
def position? : Value → Option Int
  | .int n => some n
  | .bool b => some (if b then 1 else 0)
  | _ => none

/-- The place in a container of the given length that a position means: one
below zero counts from the end. -/
def placeAt? (length : Nat) (position : Int) : Option Nat :=
  let place := if position < 0 then position + length else position
  if 0 ≤ place ∧ place < length then some place.toNat else none

/-- Reads the item under a key that is no position.  Its absence is a fault. -/
def item (v key : Value) : Except Fault Value :=
  match v.content with
  | .brokenMap missing message =>
      .error
        (if missing then .keyLookUp message
        else .application .general message)
  | _ =>
      match v.entries? with
      | some entries => do
          match ← lookUp entries key with
          | some found => return found
          | none => throw (.keyAbsent key)
      | none =>
          match v.indexText key with
          | none => .error (.lacks .subscription v.fullTypeName)
          | some message => .error (.unsuitable message)

/-- Reads a mapping by key and any other value by attribute. -/
def read (v key default : Value) : Except Fault Value :=
  if v.isMapping then v.get key default
  else
    match key with
    | .text name => v.readAttributeOr name default
    | _ => .error (.attributeNameNotText key.fullTypeName)

/-- The items met when iterating over a value. -/
def iterate (v : Value) : Except Fault (List Value) :=
  match v.items?, v.content with
  | some items, _ => .ok items
  | none, .range _ _ => .error .tooLarge
  | none, _ => .error (.lacks .iteration v.fullTypeName)

end Value

end RoleGuard
