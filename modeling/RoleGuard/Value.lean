import RoleGuard.Fault.Kind
import RoleGuard.FilePath
import RoleGuard.Number.Binary64
import RoleGuard.Text.CodePoint

/-!
# Values, rules and awaitables

Roles, tables, settings, identities and request contexts reach the library as
data of any shape, so they share one type of dynamic values.  A value may hold
a permission rule or an awaitable, and both hold values in turn; the three
types are therefore defined together.

A value is immutable data.  What can change, or is told apart from a copy of
itself, is an `object`: it carries its number in a store and what it held when
it was last looked at.
-/

namespace RoleGuard

/-- The ordered containers that differ only in how they are shown. -/
inductive SequenceKind where
  | list
  | tuple
  | deque
  deriving DecidableEq, Repr

/-- How an object that refuses attribute writes reports the attempt: as a type
error, which the library tolerates, or as an invalid value. -/
inductive Refusal where
  | wrongType
  | wrongValue
  deriving DecidableEq, Repr

/-- The identity resolvers that can be named in settings. -/
inductive ProvidedResolver where
  | requestUser
  | alwaysAdmin
  | contextIdentity
  deriving DecidableEq, Repr

/-- What a named function or type of the library does with the one argument
that it is called with.  `construct` makes an object of a type that keeps the
argument under a name; `copy` gives the argument again and `ignore` nothing. -/
inductive Operation where
  | readRole
  | makeIdentity
  | makeRoleRule
  | makeConstant
  | anyOfItems
  | anyOfOne
  | buildRoleRules
  | makeTree
  | makePath
  | loadPolicyFile
  | normalizeRoles
  | isRoleList
  | forgetIdentity
  | awaitIdentity
  | construct (typeName part : String)
  | copy
  | ignore
  deriving DecidableEq, Repr

/-- How something that has a name answers a call with one argument: it cannot
be called, it does not take one argument or fails a check of its own, it
performs an operation, or it resolves the identity of a request. -/
inductive Calling where
  | refused
  | fails (reason : String)
  | unmet (reason : String)
  | performs (operation : Operation)
  | resolves
  deriving DecidableEq, Repr

/-- The key that the memo of a context has in it. -/
def memoKey : String := "_rbac_identity"

/-- An attribute of an object whose reading fails, as though the attribute were
absent when `concealed`.  The library's own memo is not read this way. -/
structure FailingAttribute where
  name : String
  concealed : Bool
  message : String
  notMemo : name ≠ memoKey

mutual

/-- A permission rule.  `constant` has one answer for everyone, as have the two
shared rules that allow and deny; `unimplemented` stands for a kind of rule that
does not say how it is evaluated, `explode` for one whose evaluation fails, and
`answer` for one that returns a given value, which need not be a truth
value. -/
inductive Rule where
  | constant (answer : Value)
  | role (name : Value)
  | anyOf (rules : List Rule)
  | unimplemented
  | explode (message : String)
  | answer (value : Value)

/-- What happens when a resolver runs or an awaitable is awaited: it returns a
value, fails in some way, aborts in a way that ordinary failure handling lets
through, or looks a key up in the request context. -/
inductive Outcome where
  | value (v : Value)
  | raise (kind : FaultKind) (message : String)
  | abort (message : String)
  | lookUp (key : Value)

/-- Something that yields a value when awaited: an object with a fixed outcome,
the unfinished call of a resolver on a context, another awaitable whose
failures count as having no identity, a scheduled task, or the attempt to await
a value of a type that cannot be awaited. -/
inductive Pending where
  | ready (outcome : Outcome)
  | call (context : Value) (outcome : Outcome)
  | guarded (inner : Pending)
  | task (index : Nat)
  | refused (typeName : String)

/-- A dynamic value.

* `buffer` is a writable byte string, `range` the integers from `start` up to
  `stop`, `path` a path of the file system.
* `map` is a writable mapping, `proxy` a read-only one and `annotatedMap` a
  read-only mapping that also takes attributes.  Entries are in insertion order
  and their keys are distinct.
* `record` takes any attribute, `slotted` only those in its list of slots, and
  `locked` none at all, though the attributes it has can be deleted.  `classed`
  has attributes of its own and inherited ones, which cannot be deleted.
* `failing` takes any attribute but those whose reading fails; `brokenMap` is a
  mapping whose look-ups fail, as absent keys when `missing`.
* `disjunction` is a rule that asks whatever iterating over its source gives.
* `resolver` carries the index of a registered resolver and the likeness that
  it shares with others, and `named` a function, type or module known by its
  path and the name of its type.
* `method` is an operation of a value by name, and `bound` a function that an
  object got from its type: a call passes the object to it before the argument.
* `memo` is an identity remembered for a source and an operation, `other` any
  other object, by the name of its type and its attributes.
* `extended` gives attributes to a value that has none of its own.
* `object` is a value with a number in the store of objects, and `elided`
  stands for an object inside itself, by its text. -/
inductive Value where
  | null
  | bool (b : Bool)
  | int (n : Int)
  | float (x : Binary64)
  | text (s : String)
  | bytes (data : List UInt8)
  | buffer (data : List UInt8)
  | range (start stop : Int)
  | path (path : FilePath)
  | sequence (kind : SequenceKind) (items : List Value)
  | set (items : List Value)
  | map (entries : List (Value × Value))
  | proxy (entries : List (Value × Value))
  | annotatedMap (entries : List (Value × Value))
      (attributes : List (String × Value))
  | identity (role user : Value)
  | record (attributes : List (String × Value))
  | slotted (slots : List String) (attributes : List (String × Value))
  | locked (refusal : Refusal) (attributes : List (String × Value))
  | classed (inherited own : List (String × Value))
  | failing (failures : List FailingAttribute)
      (attributes : List (String × Value))
  | brokenMap (missing : Bool) (message : String)
  | rule (rule : Rule)
  | disjunction (source : Value)
  | resolver (index : Nat) (likeness : Option String)
  | provided (resolver : ProvidedResolver)
  | named (path typeName : String) (calling : Calling)
  | method (receiver : Value) (name : String)
  | bound (receiver function : Value)
  | pending (awaitable : Pending)
  | memo (source : Value) (operation : Option String) (identity : Value)
  | other (typeName : String) (attributes : List (String × Value))
  | extended (v : Value) (attributes : List (String × Value))
  | object (number : Nat) (v : Value)
  | elided (text : String)

end

instance : Inhabited Value := ⟨.null⟩

instance : Inhabited Rule := ⟨.unimplemented⟩

/-- The rule that allows everyone. -/
def Rule.allow : Rule := .constant (.bool true)

/-- The rule that denies everyone. -/
def Rule.deny : Rule := .constant (.bool false)

namespace Value

/-- What an object holds, without the attributes that it has been given. -/
def content : Value → Value
  | .object _ v => v.content
  | .extended v _ => v.content
  | v => v

/-- The number of an object in the store. -/
def number? : Value → Option Nat
  | .object number _ => some number
  | _ => none

def texts (items : List String) : Value :=
  .sequence .list (items.map .text)

/-- The attribute of a type that its objects answer calls with. -/
def callName : String := "__call__"

/-- Whether the type of an object says how its objects answer calls.  What an
object has of its own does not count. -/
def hasCallOperation : Value → Bool
  | .classed inherited _ => inherited.any fun entry => entry.1 == callName
  | .slotted slots _ => slots.contains callName
  | _ => false

/-- Whether the value can be called with a request context. -/
def isCallable (v : Value) : Bool :=
  match v.content with
  | .rule _ | .disjunction _ | .resolver _ _ | .provided _ | .method _ _
  | .bound _ _ => true
  | .named _ _ calling => calling != .refused
  | w => w.hasCallOperation

/-- Whether the value is a rule. -/
def isRule (v : Value) : Bool :=
  match v.content with
  | .rule _ | .disjunction _ => true
  | _ => false

/-- Whether the value is a function, which an object gets from its type as one
bound to the object. -/
def isFunction (v : Value) : Bool :=
  match v.content with
  | .provided _ => true
  | _ => false

/-- Whether the value yields its result only when awaited. -/
def isPending (v : Value) : Bool :=
  match v.content with
  | .pending _ => true
  | _ => false

/-- The entries of a value that is a mapping.  A mapping whose look-ups fail
has none to iterate over. -/
def entries? (v : Value) : Option (List (Value × Value)) :=
  match v.content with
  | .map entries | .proxy entries | .annotatedMap entries _ => some entries
  | .brokenMap _ _ => some []
  | _ => none

/-- The numbers `start`, `start + 1`, … below `stop`. -/
def rangeItems (start stop : Int) : List Value :=
  (List.range (stop - start).toNat).map fun (offset : Nat) =>
    .int (start + offset)

/-- The first of the numbers from `start` up to `stop`.  Where something else
than numbers is expected it stands for all of them, however many there are. -/
def rangeFront (start stop : Int) : List Value :=
  if start < stop then [.int start] else []

def byteItems (data : List UInt8) : List Value :=
  data.map fun byte => .int byte.toNat

/-- The items of a value that serves as a list of roles: an ordered container,
but not text or an immutable byte string.  Of numbers in a row the first is
enough, since no number is a role. -/
def roleItems? (v : Value) : Option (List Value) :=
  match v.content with
  | .sequence _ items => some items
  | .buffer data => some (byteItems data)
  | .range start stop => some (rangeFront start stop)
  | _ => none

/-- The most numbers in a row that are kept one by one. -/
def rangeLimit : Int := Int.pow 2 24

/-- The items met when iterating over the value, unless they are too many. -/
def items? (v : Value) : Option (List Value) :=
  match v.content with
  | .text s => some ((Text.points s).map fun point =>
      .text (Text.ofPoints [point]))
  | .bytes data | .buffer data => some (byteItems data)
  | .range start stop =>
      if stop - start ≤ rangeLimit then some (rangeItems start stop) else none
  | .sequence _ items | .set items => some items
  | w => w.entries?.map (·.map Prod.fst)

/-- Truth in a condition: empty and zero values are false, as is `null`. -/
def truthy (v : Value) : Bool :=
  match v.content with
  | .null => false
  | .bool b => b
  | .int n => n != 0
  | .float x => !x.isZero
  | .text s => s != ""
  | .range start stop => start < stop
  | w =>
      match w.items? with
      | some items => !items.isEmpty
      | none => true

/-- The first value that is true in a condition, or else the second. -/
def orElse (first second : Value) : Value :=
  if first.truthy then first else second

end Value

/-- The name of a rule's type.  A rule of a type that the library does not have
is known by what it does. -/
def Rule.typeName : Rule → String
  | .constant _ => "_Constant"
  | .role _ => "RoleRule"
  | .anyOf _ => "RuleOr"
  | .unimplemented => "Base"
  | .explode _ => "Explode"
  | .answer _ => "Const"

def Pending.typeName : Pending → String
  | .ready _ => "Awaitable"
  | .task _ => "Task"
  | _ => "coroutine"

namespace Value

/-- The name of the value's type, as shown in messages about its shape. -/
def typeName (v : Value) : String :=
  match v.content with
  | .null => "NoneType"
  | .bool _ => "bool"
  | .int _ => "int"
  | .float _ => "float"
  | .text _ => "str"
  | .bytes _ => "bytes"
  | .buffer _ => "bytearray"
  | .range _ _ => "range"
  | .path _ => "PosixPath"
  | .sequence .list _ => "list"
  | .sequence .tuple _ => "tuple"
  | .sequence .deque _ => "deque"
  | .set _ => "set"
  | .map _ => "dict"
  | .proxy _ => "mappingproxy"
  | .annotatedMap _ _ => "PermissionTree"
  | .identity _ _ => "Identity"
  | .record _ => "SimpleNamespace"
  | .slotted _ _ => "Slots"
  | .locked _ _ => "FrozenObj"
  | .classed _ _ => "ClassAttrs"
  | .failing _ _ => "Broken"
  | .brokenMap _ _ => "BrokenMap"
  | .rule r => r.typeName
  | .disjunction _ => "RuleOr"
  | .resolver _ _ => "Resolver"
  | .provided _ => "function"
  | .named _ typeName _ => typeName
  | .method receiver _ =>
      match receiver.content with
      | .rule _ | .disjunction _ => "method"
      | _ => "builtin_function_or_method"
  | .bound _ _ => "method"
  | .pending awaitable => awaitable.typeName
  | .memo _ _ _ => "_CachedIdentity"
  | .other typeName _ => typeName
  | _ => "object"

/-- The type's name together with its module, for the two types that have it in
messages about a missing attribute or operation. -/
def fullTypeName (v : Value) : String :=
  match v.content with
  | .sequence .deque _ => "collections.deque"
  | .record _ => "types.SimpleNamespace"
  | w => w.typeName

end Value

end RoleGuard
