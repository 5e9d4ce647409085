/-!
# Binary floating-point numbers as exact data

A finite number is a sign, a significand and a power of two.  Decimal text is
rounded to the nearest such number, ties to the even significand, and a number
is written with the fewest decimal digits that round back to it.  Everything
is integer arithmetic, so both directions can be reasoned about.
-/

namespace RoleGuard

/-- A double-precision number.  In `finite negative significand exponent` the
magnitude is `significand * 2 ^ exponent`; a normal number has its significand
in `[2 ^ 52, 2 ^ 53)`, a subnormal one has exponent `-1074`. -/
inductive Binary64 where
  | finite (negative : Bool) (significand : Nat) (exponent : Int)
  | infinite (negative : Bool)
  | nan
  deriving DecidableEq, Repr

namespace Binary64

/-- The least exponent of a double, that of the subnormal numbers. -/
def leastExponent : Int := -1074

/-- The largest exponent of a finite double. -/
def greatestExponent : Int := 971

/-- `quotient` rounded to nearest, a tie going to the even neighbour. -/
def roundQuotient (numerator denominator : Nat) : Nat :=
  let quotient := numerator / denominator
  let doubled := 2 * (numerator % denominator)
  if doubled < denominator then quotient
  else if denominator < doubled then quotient + 1
  else quotient + quotient % 2

/-- The fraction `numerator / (denominator * 2 ^ exponent)` with integral
numerator and denominator. -/
def scaled (numerator denominator : Nat) (exponent : Int) : Nat × Nat :=
  match exponent with
  | .ofNat n => (numerator, denominator * Nat.pow 2 n)
  | .negSucc n => (numerator * Nat.pow 2 (n + 1), denominator)

/-- The double nearest to a positive fraction. -/
def ofFraction (negative : Bool) (numerator denominator : Nat) : Binary64 :=
  let guess : Int := (Nat.log2 numerator : Int) - Nat.log2 denominator - 52
  let (n, d) := scaled numerator denominator guess
  let aligned := if n / d < Nat.pow 2 52 then guess - 1 else guess
  let exponent := max aligned leastExponent
  let (n, d) := scaled numerator denominator exponent
  let significand := roundQuotient n d
  let (significand, exponent) :=
    if significand = Nat.pow 2 53 then (Nat.pow 2 52, exponent + 1)
    else (significand, exponent)
  if greatestExponent < exponent then .infinite negative
  else if significand = 0 then .finite negative 0 leastExponent
  else .finite negative significand exponent

/-- The double nearest to `digits * 10 ^ exponent`.  Magnitudes far outside
the range of doubles are settled without forming the power. -/
def ofDecimal (negative : Bool) (digits : Nat) (exponent : Int) : Binary64 :=
  if digits = 0 then .finite negative 0 leastExponent
  else
    let magnitude : Int := (Nat.toDigits 10 digits).length + exponent
    if 400 < magnitude then .infinite negative
    else if magnitude < -400 then .finite negative 0 leastExponent
    else
      match exponent with
      | .ofNat n => ofFraction negative (digits * Nat.pow 10 n) 1
      | .negSucc n => ofFraction negative digits (Nat.pow 10 (n + 1))

/-- The integer a double is equal to, if there is one. -/
def toInt? : Binary64 → Option Int
  | .finite negative significand exponent =>
      let magnitude : Option Nat :=
        match exponent with
        | .ofNat n => some (significand * Nat.pow 2 n)
        | .negSucc n =>
            if significand % Nat.pow 2 (n + 1) = 0
            then some (significand / Nat.pow 2 (n + 1))
            else none
      magnitude.map fun m => if negative then -(m : Int) else m
  | _ => none

/-- Only the two zeros are zero. -/
def isZero : Binary64 → Bool
  | .finite _ significand _ => significand == 0
  | _ => false

/-! ## Shortest decimal digits -/

/-- `a * 2 ^ s` compared with `b * 10 ^ u` after clearing denominators. -/
def onCommonScale (a : Nat) (s : Int) (b : Nat) (u : Int) : Nat × Nat :=
  (a * Nat.pow 2 s.toNat * Nat.pow 10 (-u).toNat,
    b * Nat.pow 10 u.toNat * Nat.pow 2 (-s).toNat)

/-- The number of decimal digits before the point of `a * 2 ^ s`, for a
positive `a`: the least `p` with `a * 2 ^ s < 10 ^ p`, looked for among the
`steps` candidates that follow `start`. -/
def pointFrom (a : Nat) (s : Int) (start : Int) : Nat → Int
  | 0 => start
  | steps + 1 =>
      let (x, y) := onCommonScale a s 1 start
      if x < y then start else pointFrom a s (start + 1) steps

/-- The decimal on the grid `10 ^ unit` that is nearest to the number and lies
in the interval of reals that round to it.  The number is `4 * m * 2 ^ s`, the
interval reaches `below` and `2` units of `2 ^ s` around it and is closed when
the significand is even. -/
def nearestOnGrid (m below : Nat) (s unit : Int) (closed : Bool) : Option Nat :=
  let (value, one) := onCommonScale (4 * m) s 1 unit
  let low := (onCommonScale (4 * m - below) s 1 unit).1
  let high := (onCommonScale (4 * m + 2) s 1 unit).1
  let floor := value / one
  let inside (c : Nat) : Bool :=
    if closed then low ≤ c * one && c * one ≤ high
    else low < c * one && c * one < high
  let fallsShort := value - floor * one
  let exceeds := (floor + 1) * one - value
  match inside floor, inside (floor + 1) with
  | true, true =>
      if fallsShort < exceeds then some floor
      else if exceeds < fallsShort then some (floor + 1)
      else some (floor + floor % 2)
  | true, false => some floor
  | false, true => some (floor + 1)
  | false, false => none

/-- The first grid, of `count` or more digits, that has a decimal rounding to
the number; seventeen digits always suffice. -/
def shortestFrom (m below : Nat) (s point : Int) (closed : Bool)
    (count : Nat) : Nat → Nat × Int
  | 0 => (m, s)
  | more + 1 =>
      let unit := point - count
      match nearestOnGrid m below s unit closed with
      | some digits => (digits, unit)
      | none => shortestFrom m below s point closed (count + 1) more

/-- The fewest digits, and the power of ten they are multiplied by, that round
to the positive number `m * 2 ^ q`. -/
def shortest (m : Nat) (q : Int) : Nat × Int :=
  let s := q - 2
  let below := if m = Nat.pow 2 52 ∧ leastExponent < q then 1 else 2
  let bits : Int := (Nat.log2 m : Int) + q
  let point := pointFrom (4 * m) s (bits * 30103 / 100000 - 1) 5
  shortestFrom m below s point (m % 2 == 0) 1 17

def trimZeros (digits : List Char) : List Char :=
  (digits.reverse.dropWhile (· == '0')).reverse

/-- How numbers are written: positionally with a fraction while the decimal
point stays within sixteen digits to the right and four places to the left,
otherwise with an exponent of at least two digits. -/
def layout (digits : List Char) (point : Int) : String :=
  if -4 < point ∧ point ≤ 16 then
    if point ≤ 0 then
      "0." ++ String.ofList (List.replicate (-point).toNat '0' ++ digits)
    else
      let whole := point.toNat
      let padded := digits ++ List.replicate (whole - digits.length) '0'
      let fraction := padded.drop whole
      String.ofList (padded.take whole) ++ "." ++
        (if fraction.isEmpty then "0" else String.ofList fraction)
  else
    let power := point - 1
    let exponent := toString power.natAbs
    let padded := if exponent.length < 2 then "0" ++ exponent else exponent
    let mantissa :=
      match digits with
      | [] => "0"
      | [d] => String.singleton d
      | d :: rest => String.singleton d ++ "." ++ String.ofList rest
    mantissa ++ "e" ++ (if power < 0 then "-" else "+") ++ padded

/-- The text of a double: the fewest digits that read back as the number. -/
def text : Binary64 → String
  | .nan => "nan"
  | .infinite negative => if negative then "-inf" else "inf"
  | .finite negative significand exponent =>
      let sign := if negative then "-" else ""
      if significand = 0 then sign ++ "0.0"
      else
        let (digits, unit) := shortest significand exponent
        let all := Nat.toDigits 10 digits
        sign ++ layout (trimZeros all) (unit + all.length)

/-! ## Reading decimal text -/

def digitsValue (digits : List Char) : Nat :=
  digits.foldl (fun total c => 10 * total + (c.toNat - '0'.toNat)) 0

/-- The value of an exponent: an optional sign and digits. -/
def exponentValue : List Char → Int
  | '-' :: digits => -(digitsValue digits : Int)
  | '+' :: digits => digitsValue digits
  | digits => digitsValue digits

/-- Whether a number is negative by its sign, and what follows the sign. -/
def signed : List Char → Bool × List Char
  | '-' :: rest => (true, rest)
  | '+' :: rest => (false, rest)
  | rest => (false, rest)

/-- The double written as sign, digits, fraction and exponent. -/
def ofDecimalText (source : List Char) : Binary64 :=
  let (negative, body) := signed source
  let whole := body.takeWhile Char.isDigit
  let afterWhole := body.dropWhile Char.isDigit
  let (fraction, afterFraction) :=
    match afterWhole with
    | '.' :: rest => (rest.takeWhile Char.isDigit, rest.dropWhile Char.isDigit)
    | rest => ([], rest)
  let exponent :=
    match afterFraction with
    | 'e' :: rest => exponentValue rest
    | 'E' :: rest => exponentValue rest
    | _ => 0
  ofDecimal negative (digitsValue (whole ++ fraction)) (exponent - fraction.length)

/-- Reads the text of a double, whether as `text` writes it or with a plus sign
or other words for what is not finite. -/
def ofText (source : String) : Binary64 :=
  let (negative, body) := signed source.toList
  match String.ofList (body.map Char.toLower) with
  | "nan" => .nan
  | "inf" | "infinity" => .infinite negative
  | _ => ofDecimalText source.toList

end Binary64

end RoleGuard
