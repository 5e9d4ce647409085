import RoleGuard.Value.Access
import RoleGuard.Value.Printer

/-!
# Operations of plain values

A context may be a plain value, and the entry that holds its resolver an
operation of that value.  Such an operation is called with the context, so the
value that it belongs to is also its argument: text occurs once in itself, at
its start, and splitting it at itself leaves two empty parts.
-/

namespace RoleGuard

namespace Value

/-- Text with itself between each of its characters and the next. -/
def joinedText (s : String) : String :=
  s.intercalate ((Text.points s).map fun point => Text.ofPoints [point])

/-- Text with each code point replaced by the one at the place that its number
is, where the text is as long as that. -/
def substitutedText (s : String) : String :=
  let points := Text.points s
  Text.ofPoints (points.map fun point => points.getD point.code point)

/-- A number as that many bytes, the highest first. -/
def bigEndian (n : Nat) : List UInt8 :=
  (List.range n).map fun place => UInt8.ofNat (n / Nat.pow 256 (n - 1 - place))

/-- What text and byte strings alike answer about themselves; `empty` is the
one without characters. -/
def stringAnswer? (v empty : Value) (name : String) :
    Option (Except Fault Value) :=
  let parted := fun (answer : Value) =>
    if v.truthy then some (.ok answer)
    else some (.error (.invalid "empty separator"))
  match name with
  | "count" => some (.ok (.int 1))
  | "find" | "index" | "rfind" | "rindex" => some (.ok (.int 0))
  | "startswith" | "endswith" => some (.ok (.bool true))
  | "strip" | "lstrip" | "rstrip" | "removeprefix" | "removesuffix" =>
      some (.ok empty)
  | "partition" | "rpartition" =>
      parted (.sequence .tuple [empty, v, empty])
  | "split" | "rsplit" => parted (.sequence .list [empty, empty])
  | "replace" =>
      some (.error (.unsuitable "replace expected at least 2 arguments, got 1"))
  | _ => none

def textAnswer (s name : String) : Except Fault Value :=
  match name with
  | "join" => .ok (.text (joinedText s))
  | "translate" => .ok (.text (substitutedText s))
  | "maketrans" =>
      .error (.unsuitable
        "if you give only one argument to maketrans it must be a dict")
  | "encode" =>
      match Text.encodeFault? (fun _ => false) (Text.points s) with
      | some fault => .error (.notEncodable fault)
      | none =>
          if s.toList.contains '\x00' then
            .error (.invalid "embedded null character")
          else .error (.encodingUnknown s)
  | _ => .ok (.text s)

def bytesAnswer (v : Value) (data : List UInt8) (name : String) :
    Except Fault Value :=
  match name with
  | "join" =>
      if data.isEmpty then .ok v
      else
        .error (.unsuitable
          "sequence item 0: expected a bytes-like object, int found")
  | "translate" =>
      .error (.invalid "translation table must be 256 characters long")
  | "maketrans" =>
      .error (.unsuitable "maketrans expected 2 arguments, got 1")
  | "insert" => .error (.unsuitable "insert expected 2 arguments, got 1")
  | "decode" =>
      .error (.unsuitable
        ("decode() argument 'encoding' must be str, not " ++ v.typeName))
  | "fromhex" =>
      .error (.unsuitable
        ("fromhex() argument must be str, not " ++ v.typeName))
  | "hex" =>
      match data with
      | [byte] =>
          if byte < 128 then
            .ok (.text (String.ofList (Text.hexadecimal 2 byte.toNat)))
          else .error (.invalid "sep must be ASCII.")
      | _ => .error (.invalid "sep must be length 1.")
  | _ => .ok .null

/-- What an ordered container answers about itself.  It is none of its own
items. -/
def sequenceAnswer (v : Value) (kind : SequenceKind) (name : String) :
    Except Fault Value :=
  match kind, name with
  | _, "count" => .ok (.int 0)
  | .tuple, "index" => .error (.invalid "tuple.index(x): x not in tuple")
  | .list, "index" => .error (.invalid (v.display ++ " is not in list"))
  | .list, "remove" => .error (.invalid "list.remove(x): x not in list")
  | .list, "insert" =>
      .error (.unsuitable "insert expected 2 arguments, got 1")
  | .list, "sort" =>
      .error (.unsuitable "sort() takes no positional arguments")
  | .deque, "index" | .deque, "remove" =>
      .error (.invalid (v.display ++ " is not in deque"))
  | .deque, "insert" =>
      .error (.unsuitable "insert() takes exactly 2 arguments (1 given)")
  | _, _ => .ok .null

def setAnswer (v : Value) (name : String) : Except Fault Value :=
  match name with
  | "difference" | "symmetric_difference" => .ok (.set [])
  | "union" | "intersection" => .ok v
  | "issubset" | "issuperset" => .ok (.bool true)
  | "isdisjoint" => .ok (.bool !v.truthy)
  | "add" => .error (.notHashable v.typeName)
  | "remove" => .error (.keyAbsent v)
  | _ => .ok .null

def wholeAnswer (v : Value) (n : Int) (name : String) : Except Fault Value :=
  match name with
  | "to_bytes" =>
      if n < 0 then
        .error (.invalid "length argument must be non-negative")
      else .ok (.bytes (bigEndian n.toNat))
  | _ =>
      .error (.unsuitable
        ("cannot convert '" ++ v.typeName ++ "' object to bytes"))

/-- What the operations of a value that take an argument answer about the
value itself. -/
def ownAnswer (v : Value) (name : String) : Except Fault Value :=
  match v with
  | .text s => (stringAnswer? v (.text "") name).getD (textAnswer s name)
  | .bytes data =>
      (stringAnswer? v (.bytes []) name).getD (bytesAnswer v data name)
  | .buffer data =>
      (stringAnswer? v (.buffer []) name).getD (bytesAnswer v data name)
  | .bool b => wholeAnswer v (if b then 1 else 0) name
  | .int n => wholeAnswer v n name
  | .float _ =>
      .error (.unsuitable "bad argument type for built-in operation")
  | .range _ _ =>
      if name = "count" then .ok (.int 0)
      else .error (.invalid "sequence.index(x): x not in sequence")
  | .sequence kind _ => sequenceAnswer v kind name
  | .set _ => setAnswer v name
  | _ => .ok .null

/-- Calls an operation of a plain value with the value itself. -/
def callOperation (v : Value) (name : String) : Except Fault Value :=
  if (plainOperations v).contains name then
    .error (.unsuitable
      (v.typeName ++ "." ++ name ++ "() takes no arguments (1 given)"))
  else if (numericOperations v).contains name then
    .error (.unsuitable
      ("'" ++ v.fullTypeName ++ "' object cannot be interpreted as an integer"))
  else v.ownAnswer name

end Value

end RoleGuard
