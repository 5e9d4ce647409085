import RoleGuard.Value

/-!
# Equality of values and look-up by key

Equality looks through the kind of a number and of a mapping: the integer one,
the number `1.0` and `true` are the same key.  An object equals itself.  Values
that stand for an object rather than for data are equal to no other one; the
two constant rules are shared, so each equals itself, and resolvers of one
likeness are equal.
-/

namespace RoleGuard

/-- What a number is compared by: its integer value, if it has one, and
otherwise the double itself. -/
inductive NumericKey where
  | whole (n : Int)
  | other (x : Binary64)
  deriving DecidableEq

namespace Value

/-- The key of a number; `nan` has none, being equal to nothing. -/
def numericKey? : Value → Option NumericKey
  | .bool b => some (.whole (if b then 1 else 0))
  | .int n => some (.whole n)
  | .float .nan => none
  | .float x =>
      some (match x.toInt? with
        | some n => .whole n
        | none => .other x)
  | _ => none

def sameNumber (left right : Value) : Bool :=
  match left.numericKey?, right.numericKey? with
  | some l, some r => l == r
  | _, _ => false

/-- Equality of values that hold no others. -/
def sameLeaf : Value → Value → Bool
  | .null, .null => true
  | .text s, .text t => s == t
  | .bytes d, .bytes e | .bytes d, .buffer e
  | .buffer d, .bytes e | .buffer d, .buffer e => d == e
  | .range a b, .range c d =>
      let left := (b - a).toNat
      left == (d - c).toNat && (left == 0 || a == c)
  | .path p, .path q => p == q
  | .brokenMap _ _, w =>
      match w.entries? with
      | some entries => entries.isEmpty
      | none => false
  | .rule (.constant (.bool a)), .rule (.constant (.bool b)) => a == b
  | .resolver i a, .resolver j b => i == j || (a.isSome && a == b)
  | .provided f, .provided g => f == g
  | .named p _ _, .named q _ _ => p == q
  | left, right => left.sameNumber right

mutual

def same : Value → Value → Bool
  | .object number v, w => w.number? == some number || same v w
  | .extended v _, w => same v w
  | .sequence k xs, w =>
      match w.content with
      | .sequence l ys => k == l && sameItems xs ys
      | _ => false
  | .set xs, w =>
      match w.content with
      | .set ys => xs.length == ys.length && containedIn xs ys
      | _ => false
  | .map xs, w | .proxy xs, w | .annotatedMap xs _, w =>
      match w.entries? with
      | some ys => xs.length == ys.length && entriesContainedIn xs ys
      | none => false
  | .identity r u, w =>
      match w.content with
      | .identity s v => same r s && same u v
      | _ => false
  | .record xs, w =>
      match w.content with
      | .record ys => xs.length == ys.length && attributesContainedIn xs ys
      | _ => false
  | .method receiver name, w =>
      match w.content with
      | .method holder given => name == given && same receiver holder
      | _ => false
  | .bound receiver function, w =>
      match w.content with
      | .bound holder given => same receiver holder && same function given
      | _ => false
  | v, w => sameLeaf v w.content
termination_by structural left => left

def sameItems : List Value → List Value → Bool
  | [], [] => true
  | x :: xs, y :: ys => same x y && sameItems xs ys
  | _, _ => false
termination_by structural left => left

def containedIn : List Value → List Value → Bool
  | [], _ => true
  | x :: xs, ys => ys.any (fun y => same x y) && containedIn xs ys
termination_by structural left => left

/-- Every entry of the first mapping is one of the second. -/
def entriesContainedIn :
    List (Value × Value) → List (Value × Value) → Bool
  | [], _ => true
  | (k, x) :: xs, ys =>
      ys.any (fun y => same k y.1 && same x y.2) && entriesContainedIn xs ys
termination_by structural left => left

/-- Every attribute of the first object is one of the second. -/
def attributesContainedIn :
    List (String × Value) → List (String × Value) → Bool
  | [], _ => true
  | (name, x) :: xs, ys =>
      ys.any (fun y => name == y.1 && same x y.2) &&
        attributesContainedIn xs ys
termination_by structural left => left

end

/-- Whether a type keeps its objects from being keys: by having nothing for
that, or by comparing them in a way of its own. -/
def refusesHash (inherited : List (String × Value)) : Bool :=
  match inherited.find? fun entry => entry.1 == "__hash__" with
  | some (_, .null) => true
  | some _ => false
  | none => inherited.any fun entry => entry.1 == "__eq__"

mutual

/-- The part of a value that keeps it from being a key, if any: containers that
can change and what they are kept in. -/
def unhashable? : Value → Option Value
  | .object _ v | .extended v _ => unhashable? v
  | .identity role user =>
      match unhashable? role with
      | some part => some part
      | none => unhashable? user
  | .memo source _ answer =>
      match unhashable? source with
      | some part => some part
      | none => unhashable? answer
  | .sequence .tuple items => unhashableItem? items
  | .sequence .list items => some (.sequence .list items)
  | .sequence .deque items => some (.sequence .deque items)
  | .buffer data => some (.buffer data)
  | .set items => some (.set items)
  | .map entries => some (.map entries)
  | .proxy entries => some (.proxy entries)
  | .annotatedMap entries attributes => some (.annotatedMap entries attributes)
  | .record attributes => some (.record attributes)
  | .brokenMap missing message => some (.brokenMap missing message)
  | .classed inherited own =>
      if refusesHash inherited then some (.classed inherited own) else none
  | _ => none

/-- The first item that keeps a tuple from being a key. -/
def unhashableItem? : List Value → Option Value
  | [] => none
  | x :: xs =>
      match unhashable? x with
      | some part => some part
      | none => unhashableItem? xs

end

def find? (entries : List (Value × Value)) (key : Value) : Option Value :=
  (entries.find? fun entry => entry.1.same key).map Prod.snd

/-- Stores a value under a key: a key already present keeps its place. -/
def insert (entries : List (Value × Value)) (key v : Value) :
    List (Value × Value) :=
  if entries.any (fun entry => entry.1.same key) then
    entries.map fun entry =>
      if entry.1.same key then (entry.1, v) else entry
  else entries ++ [(key, v)]

def erase (entries : List (Value × Value)) (key : Value) :
    List (Value × Value) :=
  entries.filter fun entry => !entry.1.same key

/-- Entries with distinct keys: a repeated key keeps its first place and its
last value. -/
def entriesOf (pairs : List (Value × Value)) : List (Value × Value) :=
  pairs.foldl (fun entries pair => insert entries pair.1 pair.2) []

def findAttribute? (attributes : List (String × Value)) (name : String) :
    Option Value :=
  (attributes.find? fun entry => entry.1 == name).map Prod.snd

/-- Stores an attribute: one already present keeps its place. -/
def insertAttribute (attributes : List (String × Value)) (name : String)
    (v : Value) : List (String × Value) :=
  if attributes.any (fun entry => entry.1 == name) then
    attributes.map fun entry => if entry.1 == name then (name, v) else entry
  else attributes ++ [(name, v)]

def eraseAttribute (attributes : List (String × Value)) (name : String) :
    List (String × Value) :=
  attributes.filter fun entry => entry.1 != name

/-- Attributes with distinct names: a repeated name keeps its first place and
its last value. -/
def attributesOf (pairs : List (String × Value)) : List (String × Value) :=
  pairs.foldl (fun attributes pair =>
    insertAttribute attributes pair.1 pair.2) []

end Value

end RoleGuard
