import RoleGuard.Value.Equality

/-!
# Attributes that come with a type

Beside what an object stores, every value has attributes that its type gives
it: the parts of a number, the ends of a range, the type itself, and operations
known by their names.  An operation belongs to the value that it was read from.
-/

namespace RoleGuard

namespace Value

def numberPart? (v : Value) (name : String) : Option Value :=
  let whole := fun (n : Int) =>
    match name with
    | "real" | "numerator" => some (Value.int n)
    | "imag" => some (.int 0)
    | "denominator" => some (.int 1)
    | _ => none
  match v with
  | .bool b => whole (if b then 1 else 0)
  | .int n => whole n
  | .float x =>
      match name with
      | "real" => some (.float x)
      | "imag" => some (.float (Binary64.ofDecimalText ['0', '.', '0']))
      | _ => none
  | _ => none

/-- The ends of a range and the step between its numbers. -/
def rangePart? (v : Value) (name : String) : Option Value :=
  match v, name with
  | .range start _, "start" => some (.int start)
  | .range _ stop, "stop" => some (.int stop)
  | .range _ _, "step" => some (.int 1)
  | _, _ => none

/-- The parts of a path, which has no drive. -/
def pathPart? (v : Value) (name : String) : Option Value :=
  match v, name with
  | .path _, "drive" => some (.text "")
  | .path p, "root" | .path p, "anchor" => some (.text p.root)
  | .path p, "name" => some (.text p.name)
  | .path p, "parts" => some (.sequence .tuple (p.parts.map .text))
  | .path p, "parent" => some (.path p.parent)
  | _, _ => none

/-- The limit on the length of a double-ended queue: there is none. -/
def queuePart? (v : Value) (name : String) : Option Value :=
  match v, name with
  | .sequence .deque _, "maxlen" => some .null
  | _, _ => none

def rulePart? (v : Value) (name : String) : Option Value :=
  match v, name with
  | .rule (.role role), "role" => some role
  | .rule (.anyOf rules), "rules" => some (.sequence .tuple (rules.map .rule))
  | .disjunction source, "rules" => some source
  | .rule (.constant answer), "value" => some answer
  | _, _ => none

/-- A part of a value that is no attribute of its own. -/
def part? (v : Value) (name : String) : Option Value :=
  numberPart? v name <|> rangePart? v name <|> pathPart? v name <|>
    queuePart? v name <|> rulePart? v name

/-- Operations on text and on byte strings that take no argument. -/
def stringCases : List String :=
  ["capitalize", "isalnum", "isalpha", "isascii", "isdigit", "islower",
    "isspace", "istitle", "isupper", "lower", "swapcase", "title", "upper"]

/-- Operations on text and on byte strings that take a number. -/
def stringWidths : List String :=
  ["center", "expandtabs", "ljust", "rjust", "splitlines", "zfill"]

/-- Operations on text and on byte strings that take another one. -/
def stringParts : List String :=
  ["count", "endswith", "find", "index", "join", "lstrip", "maketrans",
    "partition", "removeprefix", "removesuffix", "replace", "rfind", "rindex",
    "rpartition", "rsplit", "rstrip", "split", "startswith", "strip",
    "translate"]

/-- Operations on text alone that take no argument. -/
def textCases : List String :=
  ["casefold", "isdecimal", "isidentifier", "isnumeric", "isprintable"]

/-- Operations on whole numbers that take no argument. -/
def numberForms : List String :=
  ["as_integer_ratio", "bit_count", "bit_length", "conjugate"]

/-- Operations of a value that take no argument. -/
def plainOperations : Value → List String
  | .text _ => stringCases ++ textCases
  | .bytes _ => stringCases
  | .buffer _ => stringCases ++ ["clear", "copy", "reverse"]
  | .bool _ | .int _ => numberForms
  | .float _ => ["as_integer_ratio", "conjugate", "hex", "is_integer"]
  | .sequence .list _ => ["clear", "copy", "reverse"]
  | .sequence .deque _ => ["clear", "copy", "pop", "popleft", "reverse"]
  | .set _ => ["clear", "copy", "pop"]
  | _ => []

/-- Operations of a value that take a number. -/
def numericOperations : Value → List String
  | .text _ | .bytes _ => stringWidths
  | .buffer _ => stringWidths ++ ["append", "pop", "remove"]
  | .sequence .list _ => ["pop"]
  | .sequence .deque _ => ["rotate"]
  | _ => []

/-- Operations of a value that take some other value. -/
def mixedOperations : Value → List String
  | .text _ => stringParts ++ ["encode", "format", "format_map"]
  | .bytes _ => stringParts ++ ["decode", "fromhex", "hex"]
  | .buffer _ =>
      stringParts ++ ["decode", "extend", "fromhex", "hex", "insert"]
  | .bool _ | .int _ => ["from_bytes", "to_bytes"]
  | .float _ => ["fromhex"]
  | .range _ _ | .sequence .tuple _ => ["count", "index"]
  | .sequence .list _ =>
      ["append", "count", "extend", "index", "insert", "remove", "sort"]
  | .sequence .deque _ =>
      ["append", "appendleft", "count", "extend", "extendleft", "index",
        "insert", "remove"]
  | .set _ =>
      ["add", "difference", "difference_update", "discard", "intersection",
        "intersection_update", "isdisjoint", "issubset", "issuperset",
        "remove", "symmetric_difference", "symmetric_difference_update",
        "union", "update"]
  | .proxy _ => ["copy", "get", "items", "keys", "values"]
  | .rule _ | .disjunction _ => ["evaluate", callName]
  | _ => []

/-- Whether a value has an operation of the given name. -/
def hasOperation (v : Value) (name : String) : Bool :=
  (plainOperations v).contains name || (numericOperations v).contains name ||
    (mixedOperations v).contains name

/-- The names of the attributes that every type has. -/
def commonNames : List String :=
  ["__delattr__", "__dir__", "__doc__", "__eq__", "__format__", "__ge__",
    "__getattribute__", "__getstate__", "__gt__", "__hash__", "__init__",
    "__init_subclass__", "__le__", "__lt__", "__ne__", "__new__", "__reduce__",
    "__reduce_ex__", "__repr__", "__setattr__", "__sizeof__", "__str__",
    "__subclasshook__"]

/-- The names of attributes that types of numbers have. -/
def numberNames : List String :=
  ["__abs__", "__add__", "__bool__", "__ceil__", "__divmod__", "__float__",
    "__floor__", "__floordiv__", "__getnewargs__", "__int__", "__mod__",
    "__mul__", "__neg__", "__pos__", "__pow__", "__radd__", "__rdivmod__",
    "__rfloordiv__", "__rmod__", "__rmul__", "__round__", "__rpow__",
    "__rsub__", "__rtruediv__", "__sub__", "__truediv__", "__trunc__"]

/-- The names of attributes that types of bits and of sets have. -/
def bitNames : List String :=
  ["__and__", "__or__", "__rand__", "__ror__", "__rxor__", "__xor__"]

/-- The names of attributes that types of containers have. -/
def containerNames : List String := ["__contains__", "__iter__", "__len__"]

/-- The names of attributes that types of ordered containers have. -/
def sequenceNames : List String :=
  containerNames ++ ["__add__", "__getitem__", "__mul__", "__rmul__"]

/-- The names of attributes that types of text and of byte strings have. -/
def stringNames : List String := sequenceNames ++ ["__mod__", "__rmod__"]

/-- The names of attributes that types of changeable ordered containers
have. -/
def changingNames : List String :=
  ["__delitem__", "__iadd__", "__imul__", "__setitem__"]

/-- The names of further attributes that the type of a value has, none of which
can be replaced in the value. -/
def furtherNames : Value → List String
  | .null => ["__bool__"]
  | .bool _ | .int _ =>
      numberNames ++ bitNames ++
        ["__index__", "__invert__", "__lshift__", "__rlshift__", "__rrshift__",
          "__rshift__"]
  | .float _ => numberNames ++ ["__getformat__"]
  | .text _ => stringNames ++ ["__getnewargs__"]
  | .bytes _ => stringNames ++ ["__bytes__", "__getnewargs__"]
  | .buffer _ => stringNames ++ changingNames ++ ["__alloc__"]
  | .sequence .tuple _ =>
      sequenceNames ++ ["__class_getitem__", "__getnewargs__"]
  | .sequence .list _ =>
      sequenceNames ++ changingNames ++ ["__class_getitem__", "__reversed__"]
  | .sequence .deque _ =>
      sequenceNames ++ changingNames ++
        ["__class_getitem__", "__copy__", "__reversed__"]
  | .set _ =>
      containerNames ++ bitNames ++
        ["__class_getitem__", "__iand__", "__ior__", "__isub__", "__ixor__",
          "__rsub__", "__sub__"]
  | .range _ _ => containerNames ++ ["__bool__", "__getitem__", "__reversed__"]
  | .proxy _ =>
      containerNames ++
        ["__class_getitem__", "__getitem__", "__ior__", "__or__",
          "__reversed__", "__ror__"]
  | .slotted _ _ => ["__module__", "__slots__"]
  | .rule _ | .disjunction _ => ["__module__", "__slots__"]
  | _ => []

/-- Whether an attribute of the given name belongs to the type of a value. -/
def isTypeAttribute (v : Value) (name : String) : Bool :=
  commonNames.contains name || (furtherNames v).contains name ||
    hasOperation v name

/-- How the type of a value answers a call with the value. -/
def typeCalling : Value → Calling
  | .null => .fails "NoneType takes no arguments"
  | .range _ _ => .fails "'range' object cannot be interpreted as an integer"
  | .identity _ _ => .performs .makeIdentity
  | .record _ => .fails "no positional arguments expected"
  | .rule (.role _) => .performs .makeRoleRule
  | .rule (.anyOf _) | .disjunction _ => .performs .anyOfItems
  | .rule (.constant _) => .performs .makeConstant
  | .rule .unimplemented => .fails "Base() takes no arguments"
  | .annotatedMap _ _ => .performs .makeTree
  | .bound _ _ => .fails "method expected 2 arguments, got 1"
  | .path _ => .performs .makePath
  | .bool _ | .int _ | .float _ | .text _ | .bytes _ | .buffer _
  | .sequence _ _ | .set _ => .performs .copy
  | _ => .performs .ignore

/-- The type of a value as a value. -/
def typeValue (v : Value) : Value :=
  let kind :=
    match v with
    | .annotatedMap _ _ | .brokenMap _ _ => "ABCMeta"
    | _ => "type"
  .named v.fullTypeName kind (typeCalling v)

/-- The attributes that an object stores, as a mapping. -/
def storedMap? : Value → Option Value
  | .record attributes | .locked _ attributes | .classed _ attributes
  | .failing _ attributes =>
      some (.map (attributes.map fun entry => (.text entry.1, entry.2)))
  | .identity role user =>
      some (.map [(.text "role", role), (.text "user", user)])
  | _ => none

/-- An attribute that the type of a value gives it; `holder` is the value as the
object that it was read from. -/
def inherentAttribute? (holder v : Value) (name : String) : Option Value :=
  match part? v name with
  | some part => some part
  | none =>
      if name = "__class__" then some (typeValue v)
      else if name = "__dict__" then storedMap? v
      else if hasOperation v name then some (.method holder name)
      else none

/-- Why an attribute that the type of a value gives it cannot be replaced. -/
def protection? (v : Value) (name : String) : Option String :=
  if (numberPart? v name).isSome then
    let owner :=
      match v with
      | .float _ => "float"
      | _ => "int"
    some ("attribute '" ++ name ++ "' of '" ++ owner ++
      "' objects is not writable")
  else if (rangePart? v name).isSome then some "readonly attribute"
  else if (pathPart? v name).isSome then
    some ("property '" ++ name ++ "' of 'PosixPath' object has no setter")
  else if (queuePart? v name).isSome then
    some ("attribute '" ++ name ++ "' of '" ++ v.fullTypeName ++
      "' objects is not writable")
  else if isTypeAttribute v name then
    some ("'" ++ v.fullTypeName ++ "' object attribute '" ++ name ++
      "' is read-only")
  else none

end Value

end RoleGuard
