import RoleGuard.Document
import RoleGuard.Text.Utf8
import RoleGuard.Value.Printer

/-!
# Faults

Everything that can go wrong is a cause with its data.  A cause belongs to a
kind, which decides who tolerates it, and has one wording.  Configuration
faults also say where in the configuration they were found.
-/

namespace RoleGuard

/-- What is wrong with a configuration. -/
inductive Misconfiguration where
  | rolesNotList (typeName : String)
  | roleNotName (role : Value)
  | roleDeclaredTwice (role : String)
  | tableNotMapping (typeName : String)
  | typeNameNotName (key : Value)
  | fieldNameNotName (location : String)
  | entryNotRoles (location typeName : String)
  | rolesOfFieldNotList (location : String) (field : Option String)
  | roleNotDeclared (location : String) (field : Option String) (role : Value)
  | resolverNotCallable
  | fallbackNotRule
  | settingsNotMapping
  | resolverNotImported (path reason : String)
  | fallbackNotKnown (v : Value)
  | fileNotRead (path reason : String)
  | fileNotParsed (path : String) (fault : Document.SyntaxFault)
  | fileNotObject (path : String)
  | fileIncomplete (path : String) (missing : List String)

/-- A location of the table: a type, or a field of it. -/
def locationText (location : String) : Option String → String
  | some field => if field = "" then location else location ++ "." ++ field
  | none => location

namespace Misconfiguration

/-- The type whose entry is at fault. -/
def location? : Misconfiguration → Option String
  | .fieldNameNotName location => some location
  | .entryNotRoles location _ => some location
  | .rolesOfFieldNotList location _ => some location
  | .roleNotDeclared location _ _ => some location
  | _ => none

/-- The field whose role list is at fault. -/
def field? : Misconfiguration → Option String
  | .rolesOfFieldNotList _ field => field
  | .roleNotDeclared _ field _ => field
  | _ => none

/-- The role at fault. -/
def role : Misconfiguration → Value
  | .roleNotName role => role
  | .roleDeclaredTwice role => .text role
  | .roleNotDeclared _ _ role => role
  | _ => .null

/-- The value that the report shows, `null` if it shows none. -/
def shown : Misconfiguration → Value
  | .typeNameNotName key => key
  | .fallbackNotKnown v => v
  | cause => cause.role

def syntaxText (fault : Document.SyntaxFault) : String :=
  fault.cause.text ++ ": line " ++ toString fault.line ++ " column " ++
    toString fault.column ++ " (char " ++ toString fault.offset ++ ")"

def message : Misconfiguration → String
  | .rolesNotList typeName =>
      "Roles must be a list of role names, got " ++ typeName
  | .roleNotName role =>
      "Role names must be non-empty strings, got " ++ role.display
  | .roleDeclaredTwice role => "Role '" ++ role ++ "' is declared twice"
  | .tableNotMapping typeName =>
      "Permission table must be a mapping, got " ++ typeName
  | .typeNameNotName key =>
      "Type names must be non-empty strings, got " ++ key.display
  | .fieldNameNotName location =>
      "Field names of '" ++ location ++ "' must be non-empty strings"
  | .entryNotRoles location typeName =>
      "Permission entry for '" ++ location ++ "' must be a list of roles or a " ++
        "mapping of field names to roles, got " ++ typeName
  | .rolesOfFieldNotList location field =>
      "Permission entry for '" ++ locationText location field ++
        "' must be a list of roles"
  | .roleNotDeclared location field role =>
      "Role " ++ role.display ++ " used on '" ++ locationText location field ++
        "' is not declared"
  | .resolverNotCallable => "get_user must be callable"
  | .fallbackNotRule => "fallback_rule must be a Rule"
  | .settingsNotMapping => "GRAPHQL_RBAC must be a dict"
  | .resolverNotImported path reason =>
      "Could not import identity resolver '" ++ path ++ "': " ++ reason
  | .fallbackNotKnown v =>
      "fallback_rule must be 'allow' or 'deny', got " ++ v.display
  | .fileNotRead path reason =>
      "Could not read RBAC file " ++ path ++ ": " ++ reason
  | .fileNotParsed path fault =>
      "Invalid JSON in RBAC file " ++ path ++ ": " ++ syntaxText fault
  | .fileNotObject path => "RBAC file " ++ path ++ " must contain an object"
  | .fileIncomplete path missing =>
      "RBAC file " ++ path ++ " is missing " ++ commaSeparated missing

end Misconfiguration

/-- A denied access, as reported to the client: the configured message and
further data under `extensions`. -/
structure Denial where
  message : Value
  extensions : Value

/-- What an operation on a value needs and the value's type does not have.
`placeDeletion` is the deletion of an item by its position. -/
inductive Capability where
  | calling
  | iteration
  | subscription
  | itemAssignment
  | itemDeletion
  | placeDeletion
  deriving DecidableEq, Repr

/-- Everything an operation can fail with, apart from an abort.  `unsuitable`
and `invalid` are the complaints of an operation about the type and about the
value of what it is given; `application` is a failure that is not the
library's own. -/
inductive Fault where
  | configuration (cause : Misconfiguration)
  | denied (denial : Denial)
  | application (kind : FaultKind) (message : String)
  | unimplemented
  | keyAbsent (key : Value)
  | keyLookUp (message : String)
  | attributeAbsent (typeName name : String)
  | attributeConcealed (message : String)
  | attributeProtected (message : String)
  | attributeFixed (deleting : Bool) (name : String)
  | contextReadOnly (refusal : Refusal)
  | attributeNameNotText (typeName : String)
  | notHashable (typeName : String)
  | lacks (capability : Capability) (typeName : String)
  | unsuitable (message : String)
  | invalid (message : String)
  | outOfRange (message : String)
  | unmet (message : String)
  | encodingUnknown (name : String)
  | importFailed (message : String)
  | bytesExpected
  | moduleNameEmpty
  | moduleNameRelative (name : String)
  | pathNotText (typeName : String)
  | pathBytes
  | pathHasNull
  | notUtf8 (fault : Text.Utf8Fault)
  | notEncodable (fault : Text.EncodeFault)
  | integerTooLong (digits : Nat)
  | nestedTooDeep (bracket : Document.Bracket)
  | endless
  | tooLarge
  | pairNotSequence (index : Nat)
  | pairLength (index length : Nat)
  | argumentUnexpected (callee argument : String)
  | argumentRepeated (callee argument : String)
  | argumentsMissing (callee : String) (arguments : List String)

def listed : List String → String
  | [] => ""
  | [a] => a
  | [a, b] => a ++ " and " ++ b
  | names => commaSeparated names.dropLast ++ ", and " ++ names.getLastD ""

namespace Fault

def kind : Fault → FaultKind
  | .configuration _ => .configuration
  | .denied _ => .denied
  | .application kind _ => kind
  | .unimplemented => .unimplemented
  | .keyAbsent _ | .keyLookUp _ => .absentKey
  | .attributeAbsent _ _ | .attributeConcealed _ | .attributeProtected _ =>
      .absentAttribute
  | .attributeFixed _ _ => .fixedAttribute
  | .contextReadOnly .wrongValue => .wrongValue
  | .moduleNameEmpty | .pathHasNull | .integerTooLong _ | .pairLength _ _
  | .invalid _ => .wrongValue
  | .outOfRange _ => .outOfRange
  | .encodingUnknown _ => .unknownName
  | .unmet _ => .unmet
  | .nestedTooDeep _ | .endless => .tooDeep
  | .importFailed _ => .failedImport
  | .tooLarge => .tooLarge
  | .notUtf8 _ => .undecodable
  | .notEncodable _ => .unencodable
  | _ => .wrongType

/-- What is said of a type without a capability. -/
def capabilityText : Capability → String → String
  | .calling, typeName => "'" ++ typeName ++ "' object is not callable"
  | .iteration, typeName => "'" ++ typeName ++ "' object is not iterable"
  | .subscription, typeName =>
      "'" ++ typeName ++ "' object is not subscriptable"
  | .itemAssignment, typeName =>
      "'" ++ typeName ++ "' object does not support item assignment"
  | .itemDeletion, typeName =>
      "'" ++ typeName ++ "' object does not support item deletion"
  | .placeDeletion, typeName =>
      "'" ++ typeName ++ "' object doesn't support item deletion"

/-- The bytes that a decoding fault covers. -/
def utf8Text (fault : Text.Utf8Fault) : String :=
  let place :=
    if fault.length = 1 then
      "byte 0x" ++ String.ofList (Text.hexadecimal 2 fault.byte.toNat) ++
        " in position " ++ toString fault.offset
    else
      "bytes in position " ++ toString fault.offset ++ "-" ++
        toString (fault.offset + fault.length - 1)
  "'utf-8' codec can't decode " ++ place ++ ": " ++ fault.cause.text

/-- The code points that an encoding fault covers. -/
def encodeText (fault : Text.EncodeFault) : String :=
  let place :=
    if fault.length = 1 then
      "character '\\u" ++ String.ofList (Text.hexadecimal 4 fault.code) ++
        "' in position " ++ toString fault.offset
    else
      "characters in position " ++ toString fault.offset ++ "-" ++
        toString (fault.offset + fault.length - 1)
  "'utf-8' codec can't encode " ++ place ++ ": surrogates not allowed"

def bracketText : Document.Bracket → String
  | .array => "array"
  | .object => "object"

def message : Fault → String
  | .configuration cause => cause.message
  | .denied denial =>
      match denial.message with
      | .text s => s
      | v => v.display
  | .application _ message => message
  | .unimplemented => "Subclasses must implement evaluate"
  | .keyAbsent key => key.display
  | .keyLookUp message => Text.quoted message
  | .attributeAbsent typeName name =>
      "'" ++ typeName ++ "' object has no attribute '" ++ name ++ "'"
  | .attributeConcealed message | .attributeProtected message => message
  | .attributeFixed deleting name =>
      (if deleting then "cannot delete field " else "cannot assign to field ") ++
        Text.quoted name
  | .contextReadOnly _ => "read-only context"
  | .attributeNameNotText typeName =>
      "attribute name must be string, not '" ++ typeName ++ "'"
  | .notHashable typeName => "unhashable type: '" ++ typeName ++ "'"
  | .lacks capability typeName => capabilityText capability typeName
  | .unsuitable message | .invalid message | .outOfRange message
  | .unmet message | .importFailed message => message
  | .encodingUnknown name => "unknown encoding: " ++ name
  | .bytesExpected => "a bytes-like object is required, not 'str'"
  | .moduleNameEmpty => "Empty module name"
  | .moduleNameRelative name =>
      "the 'package' argument is required to perform a relative import for " ++
        Text.quoted name
  | .pathNotText typeName =>
      "expected str, bytes or os.PathLike object, not " ++ typeName
  | .pathBytes =>
      "argument should be a str object or an os.PathLike object returning " ++
        "str, not <class 'bytes'>"
  | .pathHasNull => "embedded null byte"
  | .notUtf8 fault => utf8Text fault
  | .notEncodable fault => encodeText fault
  | .integerTooLong digits =>
      "Exceeds the limit (" ++ toString Document.integerDigitLimit ++
        " digits) for integer string conversion: value has " ++
        toString digits ++ " digits; use sys.set_int_max_str_digits() to " ++
        "increase the limit"
  | .nestedTooDeep bracket =>
      "maximum recursion depth exceeded while decoding a JSON " ++
        bracketText bracket ++ " from a unicode string"
  | .endless => "maximum recursion depth exceeded"
  | .tooLarge => ""
  | .pairNotSequence index =>
      "cannot convert dictionary update sequence element #" ++
        toString index ++ " to a sequence"
  | .pairLength index length =>
      "dictionary update sequence element #" ++ toString index ++
        " has length " ++ toString length ++ "; 2 is required"
  | .argumentUnexpected callee argument =>
      callee ++ "() got an unexpected keyword argument '" ++ argument ++ "'"
  | .argumentRepeated callee argument =>
      callee ++ "() got multiple values for argument '" ++ argument ++ "'"
  | .argumentsMissing callee arguments =>
      callee ++ "() missing " ++ toString arguments.length ++
        " required positional argument" ++
        (if arguments.length = 1 then "" else "s") ++ ": " ++
        listed (arguments.map fun name => "'" ++ name ++ "'")

/-- Whether a context that fails this way merely refuses to be written. -/
def refusesWrite (fault : Fault) : Bool :=
  match fault.kind with
  | .absentAttribute | .fixedAttribute | .wrongType => true
  | _ => false

/-- Whether reading an attribute that fails this way counts as its absence. -/
def meansAbsent (fault : Fault) : Bool :=
  match fault.kind with
  | .absentAttribute | .fixedAttribute => true
  | _ => false

end Fault

end RoleGuard
