import RoleGuard.Text.CodePoint
import RoleGuard.Text.Printable

/-!
# Quoted text

Text and byte strings are shown between quotes.  Single quotes are used unless
the content has a single quote and no double quote.  The backslash and the
quote in use are escaped, line breaks and tabs have short escapes, and other
characters that do not print are written by their number in hexadecimal, as are
halves without a partner.
-/

namespace RoleGuard

namespace Text

/-- The last `width` hexadecimal digits of a number, in lower case. -/
def hexadecimal (width n : Nat) : List Char :=
  let digits := Nat.toDigits 16 n
  List.replicate (width - digits.length) '0' ++ digits

/-- The double quote is chosen only where it saves an escape. -/
def quoteFor (content : List Char) : Char :=
  if content.contains '\'' && !content.contains '"' then '"' else '\''

/-- An unprintable character by its code point, in the shortest of the three
forms that holds it. -/
def escapeNumber (c : Char) : List Char :=
  if c.toNat ≤ 0xFF then '\\' :: 'x' :: hexadecimal 2 c.toNat
  else if c.toNat ≤ 0xFFFF then '\\' :: 'u' :: hexadecimal 4 c.toNat
  else '\\' :: 'U' :: hexadecimal 8 c.toNat

def escape (quote c : Char) : List Char :=
  if c = quote ∨ c = '\\' then ['\\', c]
  else if c = '\n' then ['\\', 'n']
  else if c = '\r' then ['\\', 'r']
  else if c = '\t' then ['\\', 't']
  else if isPrintable c then [c]
  else escapeNumber c

def escapePoint (quote : Char) : CodePoint → List Char
  | .character c => escape quote c
  | .half place =>
      '\\' :: 'u' :: hexadecimal 4 (CodePoint.half place).code

def quoted (content : String) : String :=
  let quote := quoteFor content.toList
  String.ofList
    (quote :: (points content).flatMap (escapePoint quote) ++ [quote])

/-- One byte between the given quotes; bytes outside ASCII are numbers. -/
def escapeByte (quote : Char) (byte : UInt8) : List Char :=
  if byte < 0x80 then escape quote (Char.ofNat byte.toNat)
  else '\\' :: 'x' :: hexadecimal 2 byte.toNat

/-- A byte string between quotes, marked by a leading letter.  `escaped` is the
quote that is escaped in it. -/
def quotedBytesWith (quote escaped : Char) (bytes : List UInt8) : String :=
  String.ofList
    ('b' :: quote :: bytes.flatMap (escapeByte escaped) ++ [quote])

/-- The quote for a byte string. -/
def quoteForBytes (bytes : List UInt8) : Char :=
  quoteFor (bytes.map fun byte => Char.ofNat byte.toNat)

/-- An immutable byte string: the quote in use is escaped. -/
def quotedBytes (bytes : List UInt8) : String :=
  quotedBytesWith (quoteForBytes bytes) (quoteForBytes bytes) bytes

/-- A writable byte string: the single quote is escaped even between double
quotes. -/
def quotedBuffer (bytes : List UInt8) : String :=
  quotedBytesWith (quoteForBytes bytes) '\'' bytes

end Text

end RoleGuard
