import RoleGuard.Rule
import RoleGuard.Table

/-!
# Permission trees

A permission table is compiled into a tree of the same shape: a type is guarded
by one rule or has a rule for each of its fields, and each rule is the
disjunction of the roles listed.  A tree is read-only.  It can also be built
from nodes of any shape, which are then met as they are.
-/

namespace RoleGuard

/-- A permission tree: what guards each type, in the order of the table. -/
structure PermissionTree where
  nodes : List (Value × Value)

/-- The rule that allows any of the given roles. -/
def rolesRule (roles : List String) : Rule :=
  .anyOf (roles.map fun name => .role (.text name))

/-- A rule as the value that stands in a tree. -/
def Rule.node (rule : Rule) : Value := .rule rule

def Entry.node : Entry → Value
  | .wholeType roles => (rolesRule roles).node
  | .fields listed =>
      .proxy (listed.map fun field => (.text field.1, (rolesRule field.2).node))

/-- Role rules by role, for any iterable of roles. -/
def roleRules (roles : Value) : Except Fault (List (Value × Value)) := do
  let items ← roles.iterate
  items.foldlM (fun entries role => do
    Value.checkHashable role
    return Value.insert entries role (Rule.role role).node) []

namespace PermissionTree

def ofEntries (entries : List (String × Entry)) : PermissionTree :=
  ⟨entries.map fun entry => (.text entry.1, entry.2.node)⟩

/-- Builds the tree of declared roles and a table. -/
def build (roles table : Value) : Checked PermissionTree := do
  let declared ← declaredRoles roles
  let entries ← readTable declared table
  Logged.note (.compiled declared.length entries.length)
  return ofEntries entries

/-- Compiles declared roles and a table.  What is wrong with them is reported
with the value at fault. -/
def compile (roles table : Value) : Logged PermissionTree :=
  (build roles table).adapt Misconfiguration.fault

/-- The key and value that an element of a list of pairs gives. -/
def pairOf (index : Nat) (element : Value) : Except Fault (Value × Value) :=
  match element.iterate with
  | .ok [k, v] => do
      Value.checkHashable k
      return (k, v)
  | .ok items => .error (.pairLength index items.length)
  | .error .tooLarge => .error .tooLarge
  | .error _ => .error (.pairNotSequence index)

/-- The pairs of a list of pairs, in order. -/
def pairsOf : Nat → List Value → Except Fault (List (Value × Value))
  | _, [] => .ok []
  | index, element :: rest => do
      let pair ← pairOf index element
      let pairs ← pairsOf (index + 1) rest
      return pair :: pairs

/-- The elements of a value that serves as a list of pairs.  Of numbers in a row
the first is enough, since no number is a pair. -/
def pairSource (nodes : Value) : Except Fault (List Value) :=
  match nodes.content with
  | .range start stop => .ok (Value.rangeFront start stop)
  | _ => nodes.iterate

/-- A tree with the given nodes: a mapping, or an iterable of pairs. -/
def ofNodes (nodes : Value) : Except Fault PermissionTree := do
  match nodes.entries? with
  | some entries => return ⟨entries⟩
  | none => return ⟨Value.entriesOf (← pairsOf 0 (← pairSource nodes))⟩

def text (tree : PermissionTree) : String :=
  "PermissionTree(" ++ (Value.map tree.nodes).display ++ ")"

def size (tree : PermissionTree) : Nat := tree.nodes.length

/-- The types the tree has nodes for, in order. -/
def keys (tree : PermissionTree) : List Value := tree.nodes.map Prod.fst

/-- The node of a type, if there is one. -/
def get? (tree : PermissionTree) (type : Value) : Except Fault (Option Value) :=
  Value.lookUp tree.nodes type

def get (tree : PermissionTree) (type : Value) : Except Fault Value := do
  match ← tree.get? type with
  | some node => return node
  | none => throw (.keyAbsent type)

/-- What a node says about a field: a rule, or something that is asked for the
rule of a field. -/
inductive NodeAnswer where
  | rule (rule : Value)
  | asked (source : Value)

/-- What a node says about a field: a rule guards every field, a mapping those
it names, and anything else is asked by its `get`. -/
def nodeAnswer (node field : Value) : Except Fault NodeAnswer :=
  match node.content with
  | .null => .ok (.rule .null)
  | _ =>
      if node.isRule then .ok (.rule node)
      else if node.isMapping then .rule <$> node.get field .null
      else .asked <$> node.readAttribute "get"

/-- The rule that guards a field of a type, `null` if the tree has none. -/
def ruleFor (tree : PermissionTree) (type field : Value) : Logged Value := do
  match ← tree.get? type with
  | none => return .null
  | some node =>
      match ← nodeAnswer node field with
      | .rule rule => return rule
      | .asked source => source.ask field

/-- Whether an identity may read a field; fields without a rule are open to
all. -/
def check (tree : PermissionTree) (type field identity : Value) :
    Logged Value := do
  match ← tree.ruleFor type field with
  | .null => return .bool true
  | rule => rule.ask identity

/-- A number that is small enough to be a position. -/
def fitPosition (position : Int) : Except Fault Int :=
  if position < -(Int.pow 2 63) ∨ Int.pow 2 63 ≤ position then
    .error (.outOfRange "cannot fit 'int' into an index-sized integer")
  else .ok position

/-- Why an object of a type that can have positions refuses to have an item
changed, by key or by position: a number is taken for a position first. -/
def itemRefusal (byKey byPosition : Capability) (typeName : String)
    (key : Value) : Fault :=
  match key.position? with
  | none => .lacks byKey typeName
  | some position =>
      match fitPosition position with
      | .ok _ => .lacks byPosition typeName
      | .error fault => fault

/-- An attempt to replace a node fails. -/
def setNode (_ : PermissionTree) (type : Value) : Except Fault PermissionTree :=
  .error (itemRefusal .itemAssignment .itemAssignment "PermissionTree" type)

/-- An attempt to remove a node fails. -/
def eraseNode (_ : PermissionTree) (type : Value) :
    Except Fault PermissionTree :=
  .error (itemRefusal .itemDeletion .placeDeletion "PermissionTree" type)

/-- The position that a value means in a container. -/
def positionIn (node field : Value) : Except Fault Int :=
  match field.position? with
  | none => .error (.unsuitable ((node.indexText field).getD ""))
  | some position => fitPosition position

/-- Whether objects of the value's type can have positions.  Numbers, functions,
plain records and what is being awaited cannot. -/
def hasPositions (node : Value) : Bool :=
  match node.content with
  | .null | .bool _ | .int _ | .float _ | .record _ | .provided _
  | .method _ _ | .bound _ _ => false
  | .named _ typeName _ =>
      !(["function", "type", "module"].contains typeName)
  | .pending (.ready _) => true
  | .pending _ => false
  | _ => true

/-- Why a node that keeps no items refuses to have the rule of a field
changed. -/
def fieldRefusal (byKey byPosition : Capability) (node field : Value) : Fault :=
  if hasPositions node then
    itemRefusal byKey byPosition node.fullTypeName field
  else .lacks byKey node.fullTypeName

/-- What is said of a position at which a container has no item. -/
def placeText : SequenceKind → String
  | .deque => "deque index out of range"
  | _ => "list assignment index out of range"

/-- A node with the rule of a field replaced: possible only where a tree was
built from a mapping that can be written, or from a container that holds rules
by position. -/
def replaceField (node field : Value) (rule : Rule) : Except Fault Value :=
  match node.content with
  | .map entries => do
      Value.checkHashable field
      return .map (Value.insert entries field rule.node)
  | .sequence .tuple _ =>
      .error (fieldRefusal .itemAssignment .itemAssignment node field)
  | .sequence kind items => do
      let position ← positionIn node field
      match Value.placeAt? items.length position with
      | some place => return .sequence kind (items.set place rule.node)
      | none => throw (.outOfRange (placeText kind))
  | .buffer _ => do
      let _ ← positionIn node field
      throw (.unsuitable ("'" ++ rule.node.fullTypeName ++
        "' object cannot be interpreted as an integer"))
  | _ => .error (fieldRefusal .itemAssignment .itemAssignment node field)

/-- A node with the rule of a field removed, where it can be replaced. -/
def removeField (node field : Value) : Except Fault Value :=
  match node.content with
  | .map entries => do
      match ← Value.lookUp entries field with
      | some _ => return .map (Value.erase entries field)
      | none => throw (.keyAbsent field)
  | .sequence .tuple _ =>
      .error (fieldRefusal .itemDeletion .placeDeletion node field)
  | .sequence kind items => do
      let position ← positionIn node field
      match Value.placeAt? items.length position with
      | some place => return .sequence kind (items.eraseIdx place)
      | none => throw (.outOfRange (placeText kind))
  | .buffer data => do
      let position ← positionIn node field
      match Value.placeAt? data.length position with
      | some place => return .buffer (data.eraseIdx place)
      | none => throw (.outOfRange "bytearray index out of range")
  | _ => .error (fieldRefusal .itemDeletion .placeDeletion node field)

/-- A tree with the node of a type changed.  A type without a node has nothing
to change. -/
def changeNode (tree : PermissionTree) (type : Value)
    (change : Value → Except Fault Value) : Except Fault PermissionTree := do
  let node ← tree.get type
  let changed ← change node
  return ⟨Value.insert tree.nodes type changed⟩

/-- An attempt to replace the rule of a field. -/
def setField (tree : PermissionTree) (type field : Value) (rule : Rule) :
    Except Fault PermissionTree :=
  tree.changeNode type fun node => replaceField node field rule

/-- An attempt to remove the rule of a field. -/
def eraseField (tree : PermissionTree) (type field : Value) :
    Except Fault PermissionTree :=
  tree.changeNode type fun node => removeField node field

/-- Two trees are equal when they have equal nodes under equal keys. -/
def same (left right : PermissionTree) : Bool :=
  (Value.map left.nodes).same (.map right.nodes)

end PermissionTree

end RoleGuard
