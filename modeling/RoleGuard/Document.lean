import RoleGuard.Value.Equality

/-!
# Reading JSON documents

A document is read into a value: objects become mappings in the order of their
members, a repeated member keeping its first place and its last value; numbers
with a fraction or an exponent become doubles, the others integers.  `NaN` and
the infinities are accepted.  A fault tells what was expected and where.  How
deep brackets may be nested is limited by the room that the reader has; the
length of integers is limited, too.

The reader works on the characters that remain.  Its faults are noted as the
number of characters that remained, from which line and column are counted
once, at the end.
-/

namespace RoleGuard

namespace Document

/-- What is wrong with the text of a document. -/
inductive SyntaxCause where
  | value
  | memberName
  | colon
  | comma
  | extraData
  | unterminatedText
  | controlCharacter
  | escape
  | numericEscape
  | byteOrderMark
  deriving DecidableEq, Repr

def SyntaxCause.text : SyntaxCause → String
  | .value => "Expecting value"
  | .memberName => "Expecting property name enclosed in double quotes"
  | .colon => "Expecting ':' delimiter"
  | .comma => "Expecting ',' delimiter"
  | .extraData => "Extra data"
  | .unterminatedText => "Unterminated string starting at"
  | .controlCharacter => "Invalid control character at"
  | .escape => "Invalid \\escape"
  | .numericEscape => "Invalid \\uXXXX escape"
  | .byteOrderMark => "Unexpected UTF-8 BOM (decode using utf-8-sig)"

/-- What can be nested in a document. -/
inductive Bracket where
  | array
  | object
  deriving DecidableEq, Repr

/-- A fault of the reader: a cause with the number of characters that remain,
an integer with more digits than are converted, or a bracket too deep inside
others. -/
inductive ReadFault where
  | malformed (cause : SyntaxCause) (remaining : Nat)
  | integerTooLong (digits : Nat)
  | nestedTooDeep (bracket : Bracket)
  deriving DecidableEq, Repr

/-- A fault with its place in the text; lines and columns count from one. -/
structure SyntaxFault where
  cause : SyntaxCause
  line : Nat
  column : Nat
  offset : Nat
  deriving DecidableEq, Repr

/-- An integer may have this many digits. -/
def integerDigitLimit : Nat := 4300

/-- Blanks that may stand between tokens. -/
def isBlank (c : Char) : Bool :=
  c == ' ' || c == '\t' || c == '\n' || c == '\r'

def skipBlanks (source : List Char) : List Char :=
  source.dropWhile isBlank

def hexDigit? (c : Char) : Option Nat :=
  if '0' ≤ c ∧ c ≤ '9' then some (c.toNat - '0'.toNat)
  else if 'a' ≤ c ∧ c ≤ 'f' then some (c.toNat - 'a'.toNat + 10)
  else if 'A' ≤ c ∧ c ≤ 'F' then some (c.toNat - 'A'.toNat + 10)
  else none

/-- The value of the first four characters as hexadecimal digits. -/
def hexCode? : List Char → Option Nat
  | a :: b :: c :: d :: _ => do
      let a ← hexDigit? a
      let b ← hexDigit? b
      let c ← hexDigit? c
      let d ← hexDigit? d
      return ((a * 16 + b) * 16 + c) * 16 + d
  | _ => none

/-- The first half of a pair that encodes one character. -/
def isHighHalf (code : Nat) : Bool := 0xD800 ≤ code && code ≤ 0xDBFF

/-- The second half of a pair that encodes one character. -/
def isLowHalf (code : Nat) : Bool := 0xDC00 ≤ code && code ≤ 0xDFFF

/-- The character that two halves encode. -/
def joinHalves (high low : Nat) : Text.CodePoint :=
  .character (Char.ofNat (0x10000 + (high - 0xD800) * 0x400 + (low - 0xDC00)))

/-- Reads what follows the letter of a numeric escape: four digits, and a
second escape if they are the first half of a pair.  At least one character,
the closing quote, must follow the digits. -/
def readNumericEscape (source : List Char) :
    Except ReadFault (Text.CodePoint × List Char) :=
  if (source.drop 4).isEmpty then
    .error (.malformed .numericEscape (source.length + 1))
  else
    match hexCode? source with
    | none => .error (.malformed .numericEscape (source.length + 1))
    | some code =>
        let rest := source.drop 4
        match rest with
        | '\\' :: 'u' :: second =>
            if isHighHalf code && !(rest.drop 6).isEmpty then
              match hexCode? second with
              | none => .error (.malformed .numericEscape (second.length + 1))
              | some low =>
                  if isLowHalf low then
                    .ok (joinHalves code low, second.drop 4)
                  else .ok (.ofCode code, rest)
            else .ok (.ofCode code, rest)
        | _ => .ok (.ofCode code, rest)

def readEscape : List Char → Except ReadFault (Text.CodePoint × List Char)
  | '"' :: rest => .ok (.character '"', rest)
  | '\\' :: rest => .ok (.character '\\', rest)
  | '/' :: rest => .ok (.character '/', rest)
  | 'b' :: rest => .ok (.character '\x08', rest)
  | 'f' :: rest => .ok (.character '\x0C', rest)
  | 'n' :: rest => .ok (.character '\n', rest)
  | 'r' :: rest => .ok (.character '\r', rest)
  | 't' :: rest => .ok (.character '\t', rest)
  | 'u' :: rest => readNumericEscape rest
  | source => .error (.malformed .escape (source.length + 1))

/-- Reads text after its opening quote, which `opening` starts with.  The first
argument bounds the number of steps. -/
def readText (opening : List Char) :
    Nat → List Text.CodePoint → List Char →
      Except ReadFault (String × List Char)
  | 0, _, _ => .error (.malformed .unterminatedText opening.length)
  | _ + 1, _, [] => .error (.malformed .unterminatedText opening.length)
  | _ + 1, read, '"' :: rest => .ok (Text.ofPoints read.reverse, rest)
  | _ + 1, _, ['\\'] => .error (.malformed .unterminatedText opening.length)
  | fuel + 1, read, '\\' :: rest => do
      let (point, rest) ← readEscape rest
      readText opening fuel (point :: read) rest
  | fuel + 1, read, c :: rest =>
      if c.toNat ≤ 0x1F then
        .error (.malformed .controlCharacter (rest.length + 1))
      else readText opening fuel (.character c :: read) rest

/-- Splits off the fraction of a number, the point included. -/
def splitFraction : List Char → List Char × List Char
  | '.' :: rest =>
      let digits := rest.takeWhile Char.isDigit
      if digits.isEmpty then ([], '.' :: rest)
      else ('.' :: digits, rest.dropWhile Char.isDigit)
  | source => ([], source)

/-- Splits off the exponent of a number, its letter and sign included. -/
def splitExponent : List Char → List Char × List Char
  | letter :: rest =>
      if letter = 'e' ∨ letter = 'E' then
        let (sign, unsigned) :=
          match rest with
          | '+' :: r => (['+'], r)
          | '-' :: r => (['-'], r)
          | r => ([], r)
        let digits := unsigned.takeWhile Char.isDigit
        if digits.isEmpty then ([], letter :: rest)
        else (letter :: sign ++ digits, unsigned.dropWhile Char.isDigit)
      else ([], letter :: rest)
  | [] => ([], [])

/-- Splits off the digits before the point: a lone zero, or digits that do not
start with one. -/
def splitWhole : List Char → Option (List Char × List Char)
  | '0' :: rest => some (['0'], rest)
  | c :: rest =>
      if c.isDigit then
        some (c :: rest.takeWhile Char.isDigit, rest.dropWhile Char.isDigit)
      else none
  | [] => none

def readNumber (source : List Char) : Except ReadFault (Value × List Char) :=
  let (sign, unsigned) :=
    match source with
    | '-' :: rest => (['-'], rest)
    | rest => ([], rest)
  match splitWhole unsigned with
  | none => .error (.malformed .value source.length)
  | some (whole, rest) =>
      let (fraction, rest) := splitFraction rest
      let (exponent, rest) := splitExponent rest
      if fraction.isEmpty && exponent.isEmpty then
        if integerDigitLimit < whole.length then
          .error (.integerTooLong whole.length)
        else
          let magnitude : Int := Binary64.digitsValue whole
          .ok (.int (if sign.isEmpty then magnitude else -magnitude), rest)
      else
        .ok (.float (Binary64.ofDecimalText
          (sign ++ whole ++ fraction ++ exponent)), rest)

/-- The literals that are neither text nor numbers in digits. -/
def literals : List (String × Value) :=
  [("null", .null), ("true", .bool true), ("false", .bool false),
    ("NaN", .float .nan), ("Infinity", .float (.infinite false)),
    ("-Infinity", .float (.infinite true))]

def readScalar (source : List Char) : Except ReadFault (Value × List Char) :=
  match literals.find? fun literal => literal.1.toList.isPrefixOf source with
  | some (name, v) => .ok (v, source.drop name.length)
  | none => readNumber source

mutual

/-- Reads a value whose first character is at hand.  The first argument is the
number of brackets that may still be opened inside each other.  The second
bounds the nesting, the number of parts and the length of text: twice the number
of characters and one more is enough, since two steps lie between a bracket and
the value in it. -/
def readValue : Nat → Nat → List Char → Except ReadFault (Value × List Char)
  | _, 0, source => .error (.malformed .value source.length)
  | _, fuel + 1, '"' :: rest => do
      let (s, rest) ← readText ('"' :: rest) fuel [] rest
      return (.text s, rest)
  | 0, _ + 1, '[' :: _ => .error (.nestedTooDeep .array)
  | 0, _ + 1, '{' :: _ => .error (.nestedTooDeep .object)
  | room + 1, fuel + 1, '[' :: rest =>
      match skipBlanks rest with
      | ']' :: rest => .ok (.sequence .list [], rest)
      | rest => readItems room fuel [] rest
  | room + 1, fuel + 1, '{' :: rest =>
      match skipBlanks rest with
      | '}' :: rest => .ok (.map [], rest)
      | rest => readMembers room fuel [] rest
  | _, _ + 1, source => readScalar source

/-- Reads the items of an array; those before are given, last first. -/
def readItems : Nat → Nat → List Value → List Char →
    Except ReadFault (Value × List Char)
  | _, 0, _, source => .error (.malformed .value source.length)
  | room, fuel + 1, before, source => do
      let (item, rest) ← readValue room fuel source
      match skipBlanks rest with
      | ']' :: rest => .ok (.sequence .list (item :: before).reverse, rest)
      | ',' :: rest => readItems room fuel (item :: before) (skipBlanks rest)
      | rest => .error (.malformed .comma rest.length)

/-- Reads the members of an object; those before are given, last first. -/
def readMembers : Nat → Nat → List (Value × Value) → List Char →
    Except ReadFault (Value × List Char)
  | _, 0, _, source => .error (.malformed .memberName source.length)
  | room, fuel + 1, before, '"' :: rest => do
      let (name, rest) ← readText ('"' :: rest) fuel [] rest
      match skipBlanks rest with
      | ':' :: rest =>
          let (v, rest) ← readValue room fuel (skipBlanks rest)
          let members := (Value.text name, v) :: before
          match skipBlanks rest with
          | '}' :: rest => .ok (.map (Value.entriesOf members.reverse), rest)
          | ',' :: rest => readMembers room fuel members (skipBlanks rest)
          | rest => .error (.malformed .comma rest.length)
      | rest => .error (.malformed .colon rest.length)
  | _, _ + 1, _, source => .error (.malformed .memberName source.length)

end

/-- Reads a document where the given number of brackets may be opened inside
each other. -/
def read (room : Nat) (source : List Char) : Except ReadFault Value :=
  match source with
  | '\uFEFF' :: _ => .error (.malformed .byteOrderMark source.length)
  | _ => do
      let start := skipBlanks source
      let (v, rest) ← readValue room (2 * start.length + 1) start
      match skipBlanks rest with
      | [] => .ok v
      | rest => .error (.malformed .extraData rest.length)

/-- Places a fault at an offset: the line counts the breaks before it, the
column the characters since the last of them. -/
def locate (source : List Char) (cause : SyntaxCause) (remaining : Nat) :
    SyntaxFault :=
  let offset := source.length - remaining
  let before := source.take offset
  { cause, offset
    line := before.count '\n' + 1
    column := (before.reverse.takeWhile (· != '\n')).length + 1 }

end Document

end RoleGuard
