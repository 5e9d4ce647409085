import RoleGuard.World

/-!
# Request contexts

A context is a value of any kind that carries what a request needs.  A writable
mapping is written by key and any other value by attribute, and what a value
refuses depends on its kind.  One entry of a context is private to the library:
the memo of the identity resolved last.
-/

namespace RoleGuard

namespace Value

/-- Whether a character can occur in the name of a slot. -/
def isSlotCharacter (c : Char) : Bool :=
  c.isAlphanum || c == '_' || 128 ≤ c.toNat

/-- Whether a text can name a slot. -/
def isSlotName (name : String) : Bool :=
  match name.toList with
  | [] => false
  | first :: rest => !first.isDigit && (first :: rest).all isSlotCharacter

/-- Whether a slot can be written only under another name than its own. -/
def isHiddenSlot (name : String) : Bool :=
  name.startsWith "__" && !name.endsWith "__"

/-- An object with a slot for each of the given attributes. -/
def ofSlots (attributes : List (String × Value)) : Except Fault Value :=
  if attributes.any fun entry => !isSlotName entry.1 then
    .error (.unsuitable "__slots__ must be identifiers")
  else
    match attributes.find? fun entry => isHiddenSlot entry.1 with
    | some entry => .error (.attributeAbsent "Slots" entry.1)
    | none => .ok (.slotted (attributes.map Prod.fst) attributes)

/-- Stores an attribute among the slots of an object, in the order of the
slots. -/
def storeSlot (slots : List String) (attributes : List (String × Value))
    (name : String) (v : Value) : List (String × Value) :=
  slots.filterMap fun slot =>
    if slot == name then some (slot, v)
    else (findAttribute? attributes slot).map fun stored => (slot, stored)

/-- A rule with one of its parts replaced, for the kinds of rules that have no
other attributes. -/
def writeRulePart (rule : Value) (name : String) (v : Value) : Option Value :=
  match rule, name with
  | .rule (.role _), "role" => some (.rule (.role v))
  | .rule (.anyOf _), "rules" | .disjunction _, "rules" => some (.disjunction v)
  | .rule (.constant _), "value" => some (.rule (.constant v))
  | _, _ => none

/-- Why a value has no attribute of the given name to write: the attribute is of
its type, or there is none. -/
def absentPart (target : Value) (name : String) : Fault :=
  match protection? target name with
  | some message => .attributeProtected message
  | none => .attributeAbsent target.fullTypeName name

/-- Whether a value takes attributes beside those that it has. -/
def isExtensible : Value → Bool
  | .rule .unimplemented | .rule (.explode _) | .rule (.answer _)
  | .resolver _ _ | .provided _ | .pending _ | .brokenMap _ _ => true
  | _ => false

def writeAttribute (target : Value) (name : String) (v : Value) :
    Except Fault Value :=
  match target with
  | .extended base attributes =>
      .ok (.extended base (insertAttribute attributes name v))
  | .record attributes => .ok (.record (insertAttribute attributes name v))
  | .annotatedMap entries attributes =>
      .ok (.annotatedMap entries (insertAttribute attributes name v))
  | .slotted slots attributes =>
      if slots.contains name then
        .ok (.slotted slots (storeSlot slots attributes name v))
      else .error (absentPart (.slotted slots attributes) name)
  | .classed inherited own =>
      .ok (.classed inherited (insertAttribute own name v))
  | .failing failures attributes =>
      match failure? failures name with
      | some _ => .error (.attributeConcealed ("property " ++ Text.quoted name ++
          " of 'Broken' object has no setter"))
      | none => .ok (.failing failures (insertAttribute attributes name v))
  | .locked refusal _ => .error (.contextReadOnly refusal)
  | .identity _ _ | .memo _ _ _ => .error (.attributeFixed false name)
  | _ =>
      if target.isExtensible then .ok (.extended target [(name, v)])
      else
        match writeRulePart target name v with
        | some written => .ok written
        | none => .error (absentPart target name)

/-- Whether an object keeps its attributes in a mapping of its own. -/
def hasOwnMap : Value → Bool
  | .classed _ _ | .annotatedMap _ _ | .failing _ _ | .extended _ _ => true
  | v => v.isExtensible

/-- Why no object takes an attribute of a name: the name stands for the type of
the object, for its attributes as a whole or for what refers to it. -/
def nameRefusal? (target : Value) (name : String) (v : Value) : Option Fault :=
  match target, name with
  | .locked _ _, _ => none
  | _, "__class__" =>
      some (.unsuitable ("__class__ must be set to a class, not '" ++
        v.fullTypeName ++ "' object"))
  | .record _, "__dict__" => some (.attributeProtected "readonly attribute")
  | _, "__dict__" =>
      match v.content with
      | .map _ => none
      | _ =>
          if target.hasOwnMap then
            some (.unsuitable ("__dict__ must be set to a dictionary, not a '" ++
              v.fullTypeName ++ "'"))
          else none
  | _, "__weakref__" =>
      if target.hasOwnMap && !target.content.isFunction then
        some (.attributeProtected ("attribute '__weakref__' of '" ++
          target.typeName ++ "' objects is not writable"))
      else none
  | _, _ => none

/-- Writes a value under a key of what an object holds.  A mapping written under
`__dict__` is stored under that name like anything else, where an object would
take it for all of its attributes: results about written values leave this one
name aside. -/
def write (target key v : Value) : Except Fault Value :=
  match target with
  | .map entries => do
      checkHashable key
      return .map (insert entries key v)
  | _ =>
      match key with
      | .text name =>
          match nameRefusal? target name v with
          | some fault => .error fault
          | none => target.writeAttribute name v
      | _ => .error (.attributeNameNotText key.fullTypeName)

def deleteAttribute (target : Value) (name : String) : Except Fault Value :=
  match target with
  | .extended base attributes =>
      .ok (.extended base (eraseAttribute attributes name))
  | .record attributes => .ok (.record (eraseAttribute attributes name))
  | .annotatedMap entries attributes =>
      .ok (.annotatedMap entries (eraseAttribute attributes name))
  | .slotted slots attributes =>
      .ok (.slotted slots (eraseAttribute attributes name))
  | .locked refusal attributes =>
      .ok (.locked refusal (eraseAttribute attributes name))
  | .failing failures attributes =>
      match failure? failures name with
      | some _ => .error (.attributeConcealed ("property " ++ Text.quoted name ++
          " of 'Broken' object has no deleter"))
      | none => .ok (.failing failures (eraseAttribute attributes name))
  | .classed inherited own =>
      match findAttribute? own name with
      | some _ => .ok (.classed inherited (eraseAttribute own name))
      | none => .error (.attributeAbsent "ClassAttrs" name)
  | .identity _ _ | .memo _ _ _ => .error (.attributeFixed true name)
  | _ => .error (.attributeAbsent target.fullTypeName name)

/-- Forgets the memo in what an object holds.  An object whose memo is not its
own keeps it. -/
def forgetMemo (target : Value) : Except Fault Value :=
  match target with
  | .map entries => .ok (.map (erase entries (.text memoKey)))
  | .null => .ok .null
  | _ =>
      match target.readAttribute memoKey with
      | .error fault => if fault.meansAbsent then .ok target else .error fault
      | .ok _ => orDefault (target.deleteAttribute memoKey) target

end Value

namespace Context

/-- Reads a context, with a default for what is absent. -/
def read (context key default : Value) : Act Value := do
  Act.ofExcept ((← Act.look context).read key default)

/-- Writes a value into a context. -/
def write (context key v : Value) : Act Unit := do
  let written ← Act.ofExcept (((← get).held context).write key v)
  modify fun world => world.replace context written

def forget (context : Value) : Act Unit := do
  let forgotten ← Act.ofExcept ((← get).held context).forgetMemo
  modify fun world => world.replace context forgotten

end Context

end RoleGuard
