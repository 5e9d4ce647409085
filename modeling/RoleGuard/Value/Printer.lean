import RoleGuard.Text.Quoted
import RoleGuard.Value

/-!
# The text of a value

Messages show a value in one line: text between quotes, containers between
their brackets, objects by the name of their type and their attributes.
-/

namespace RoleGuard

def commaSeparated (parts : List String) : String :=
  ", ".intercalate parts

def intText (n : Int) : String :=
  match n with
  | .ofNat m => String.ofList (Nat.toDigits 10 m)
  | .negSucc m => String.ofList ('-' :: Nat.toDigits 10 (m + 1))

def objectText (typeName : String) : String :=
  "<" ++ typeName ++ " object>"

mutual

def Rule.display : Rule → String
  | .constant answer => if answer.truthy then "allow" else "deny"
  | .role name => "RoleRule(" ++ name.display ++ ")"
  | .anyOf rules => "RuleOr([" ++ commaSeparated (Rule.displayAll rules) ++ "])"
  | .unimplemented => "Base"
  | .explode _ => "Explode"
  | .answer v => "Const(" ++ v.display ++ ")"

def Rule.displayAll : List Rule → List String
  | [] => []
  | r :: rest => r.display :: Rule.displayAll rest

def Value.display : Value → String
  | .null => "None"
  | .bool b => if b then "True" else "False"
  | .int n => intText n
  | .float x => x.text
  | .text s => Text.quoted s
  | .bytes data => Text.quotedBytes data
  | .buffer data => "bytearray(" ++ Text.quotedBuffer data ++ ")"
  | .range start stop => "range(" ++ intText start ++ ", " ++ intText stop ++ ")"
  | .path p => "PosixPath(" ++ Text.quoted p.text ++ ")"
  | .sequence .list items =>
      "[" ++ commaSeparated (Value.displayAll items) ++ "]"
  | .sequence .tuple [] => "()"
  | .sequence .tuple [item] => "(" ++ item.display ++ ",)"
  | .sequence .tuple items =>
      "(" ++ commaSeparated (Value.displayAll items) ++ ")"
  | .sequence .deque items =>
      "deque([" ++ commaSeparated (Value.displayAll items) ++ "])"
  | .set [] => "set()"
  | .set items => "\x7b" ++ commaSeparated (Value.displayAll items) ++ "\x7d"
  | .map entries =>
      "\x7b" ++ commaSeparated (Value.displayEntries entries) ++ "\x7d"
  | .proxy entries =>
      "mappingproxy(\x7b" ++ commaSeparated (Value.displayEntries entries) ++
        "\x7d)"
  | .annotatedMap entries _ =>
      "PermissionTree(\x7b" ++ commaSeparated (Value.displayEntries entries) ++
        "\x7d)"
  | .identity role user =>
      "Identity(role=" ++ role.display ++ ", user=" ++ user.display ++ ")"
  | .record attributes =>
      "namespace(" ++ commaSeparated (Value.displayAttributes attributes) ++ ")"
  | .rule r => r.display
  | .disjunction source =>
      "RuleOr([" ++ commaSeparated source.displayItems ++ "])"
  | .slotted _ _ => objectText "Slots"
  | .locked _ _ => objectText "FrozenObj"
  | .classed _ _ => objectText "ClassAttrs"
  | .failing _ _ => objectText "Broken"
  | .brokenMap _ _ => objectText "BrokenMap"
  | .resolver _ _ => objectText "Resolver"
  | .provided _ => objectText "function"
  | .named path typeName _ =>
      if typeName = "type" then "<class " ++ Text.quoted path ++ ">"
      else objectText typeName
  | .method _ _ | .bound _ _ => objectText "method"
  | .pending awaitable => objectText awaitable.typeName
  | .memo source _ who =>
      "_CachedIdentity(source=" ++ source.display ++ ", operation=" ++
        objectText "Operation" ++ ", identity=" ++ who.display ++ ")"
  | .other typeName _ => objectText typeName
  | .extended v _ => v.display
  | .object _ v => v.display
  | .elided text => text

def Value.displayAll : List Value → List String
  | [] => []
  | v :: rest => v.display :: Value.displayAll rest

def Value.displayItems : Value → List String
  | .object _ v | .extended v _ => v.displayItems
  | .sequence _ items | .set items => Value.displayAll items
  | .map entries | .proxy entries | .annotatedMap entries _ =>
      Value.displayKeys entries
  | .text s => (Text.points s).map fun point =>
      Text.quoted (Text.ofPoints [point])
  | .bytes data | .buffer data =>
      data.map fun byte => intText (Int.ofNat byte.toNat)
  | .range start stop =>
      (List.range (stop - start).toNat).map fun (offset : Nat) =>
        intText (start + offset)
  | _ => []

def Value.displayKeys : List (Value × Value) → List String
  | [] => []
  | (k, _) :: rest => k.display :: Value.displayKeys rest

def Value.displayEntries : List (Value × Value) → List String
  | [] => []
  | (k, v) :: rest => (k.display ++ ": " ++ v.display) :: Value.displayEntries rest

/-- The attributes of an object as texts.  One without a name is not shown. -/
def Value.displayAttributes : List (String × Value) → List String
  | [] => []
  | (name, v) :: rest =>
      if name = "" then Value.displayAttributes rest
      else (name ++ "=" ++ v.display) :: Value.displayAttributes rest

end

end RoleGuard
