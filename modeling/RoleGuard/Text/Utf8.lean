/-!
# Strict UTF-8

Bytes are decoded one character at a time.  A byte that starts no character, a
byte that cannot continue the character begun and an end in the middle of a
character are three different faults, and each names the bytes it covers.
-/

namespace RoleGuard

namespace Text

/-- Why bytes are not UTF-8. -/
inductive Utf8Cause where
  | invalidStart
  | invalidContinuation
  | unexpectedEnd
  deriving DecidableEq, Repr

/-- A decoding fault: the first byte, the offset of that byte and the number of
bytes that the fault covers. -/
structure Utf8Fault where
  cause : Utf8Cause
  byte : UInt8
  offset : Nat
  length : Nat
  deriving DecidableEq, Repr

/-- The bytes of a character that follow its first: how many they are, and the
bounds of the first of them. -/
structure Utf8Tail where
  count : Nat
  least : UInt8
  greatest : UInt8

/-- What must follow a first byte, if it can start a character of more than
one byte. -/
def utf8Tail? (first : UInt8) : Option Utf8Tail :=
  if 0xC2 ≤ first && first ≤ 0xDF then some ⟨1, 0x80, 0xBF⟩
  else if first == 0xE0 then some ⟨2, 0xA0, 0xBF⟩
  else if first == 0xED then some ⟨2, 0x80, 0x9F⟩
  else if 0xE1 ≤ first && first ≤ 0xEF then some ⟨2, 0x80, 0xBF⟩
  else if first == 0xF0 then some ⟨3, 0x90, 0xBF⟩
  else if 0xF1 ≤ first && first ≤ 0xF3 then some ⟨3, 0x80, 0xBF⟩
  else if first == 0xF4 then some ⟨3, 0x80, 0x8F⟩
  else none

/-- The value bits of a first byte with `count` bytes to follow. -/
def leadingBits (first : UInt8) (count : Nat) : Nat :=
  first.toNat % Nat.pow 2 (6 - count)

/-- Takes the continuation bytes of a character.  `taken` of its bytes have
been read, with value `bits`; the next must lie between the bounds.  Failing,
it gives the cause and the number of bytes that are at fault. -/
def takeTail : Nat → UInt8 → UInt8 → Nat → Nat → List UInt8 →
    Except (Utf8Cause × Nat) (Nat × List UInt8)
  | 0, _, _, _, bits, rest => .ok (bits, rest)
  | _ + 1, _, _, taken, _, [] => .error (.unexpectedEnd, taken)
  | more + 1, least, greatest, taken, bits, byte :: rest =>
      if least ≤ byte && byte ≤ greatest then
        takeTail more 0x80 0xBF (taken + 1)
          (64 * bits + byte.toNat % 64) rest
      else .error (.invalidContinuation, taken)

/-- Decodes from the given offset.  The first argument bounds the number of
characters; the number of bytes is enough. -/
def decodeFrom : Nat → Nat → List UInt8 → Except Utf8Fault (List Char)
  | _, _, [] => .ok []
  | 0, _, _ => .ok []
  | fuel + 1, offset, first :: rest =>
      if first < 0x80 then
        (Char.ofNat first.toNat :: ·) <$> decodeFrom fuel (offset + 1) rest
      else
        match utf8Tail? first with
        | none => .error ⟨.invalidStart, first, offset, 1⟩
        | some tail =>
            match takeTail tail.count tail.least tail.greatest 1
                (leadingBits first tail.count) rest with
            | .error (cause, length) => .error ⟨cause, first, offset, length⟩
            | .ok (code, rest) =>
                (Char.ofNat code :: ·) <$>
                  decodeFrom fuel (offset + 1 + tail.count) rest

/-- The characters that bytes encode. -/
def decodeUtf8 (bytes : List UInt8) : Except Utf8Fault (List Char) :=
  decodeFrom bytes.length 0 bytes

def Utf8Cause.text : Utf8Cause → String
  | .invalidStart => "invalid start byte"
  | .invalidContinuation => "invalid continuation byte"
  | .unexpectedEnd => "unexpected end of data"

/-- Every line break, whether `\r\n`, `\r` or `\n`, becomes `\n`. -/
def unifyLineBreaks : List Char → List Char
  | '\r' :: '\n' :: rest => '\n' :: unifyLineBreaks rest
  | '\r' :: rest => '\n' :: unifyLineBreaks rest
  | c :: rest => c :: unifyLineBreaks rest
  | [] => []

end Text

end RoleGuard
