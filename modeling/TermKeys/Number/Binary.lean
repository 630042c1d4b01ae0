import TermKeys.Text.Numeral

/-!
Binary floating-point numbers of 64 bits, held exactly as a whole number times a power of two.
A decimal becomes the nearest of them, and a number is written with the fewest decimal digits
that are nearer to it than to any other.
-/

set_option autoImplicit false

namespace TermKeys

/-- A floating-point number. The magnitude of a finite one is `mantissa * 2 ^ exponent`, with a
mantissa below `2 ^ 53` and an exponent from -1074 to 971. -/
inductive Binary
  | notANumber
  | infinite (negative : Bool)
  | finite (negative : Bool) (mantissa : Nat) (exponent : Int)
deriving DecidableEq, Repr

namespace Binary

/-- The least mantissa of full precision. -/
def fullMantissa : Nat := Nat.pow 2 52

/-- The exponent of the smallest numbers. -/
def leastExponent : Int := -1074

/-- The exponent of the largest numbers. -/
def greatestExponent : Int := 971

/-- The whole number nearest to a quotient; of two that are equally near, the even one. -/
def roundQuotient (numerator denominator : Nat) : Nat :=
  let quotient := numerator / denominator
  let twice := 2 * (numerator % denominator)
  if twice < denominator ∨ (twice = denominator ∧ quotient % 2 = 0) then quotient
  else quotient + 1

/-- A quotient times a power of two, as a quotient. -/
def scaleTwo (numerator denominator : Nat) (exponent : Int) : Nat × Nat :=
  if 0 ≤ exponent then (numerator * Nat.pow 2 exponent.toNat, denominator)
  else (numerator, denominator * Nat.pow 2 (-exponent).toNat)

/-- The exponent for which a quotient has a mantissa of full precision, or the least one. -/
def exponentFor (numerator denominator : Nat) : Int :=
  let guess : Int := (Nat.log2 numerator : Int) - Nat.log2 denominator - 52
  let (n, d) := scaleTwo numerator denominator (-guess)
  max leastExponent (if n < d * fullMantissa then guess - 1 else guess)

/-- The number nearest to a quotient of positive numbers. -/
def ofQuotient (negative : Bool) (numerator denominator : Nat) : Binary :=
  let exponent := exponentFor numerator denominator
  let (n, d) := scaleTwo numerator denominator (-exponent)
  let mantissa := roundQuotient n d
  let (mantissa, exponent) :=
    if mantissa = 2 * fullMantissa then (fullMantissa, exponent + 1) else (mantissa, exponent)
  if greatestExponent < exponent then .infinite negative
  else .finite negative mantissa exponent

/-- The number nearest to `digits * 10 ^ exponent`. -/
def ofDecimal (negative : Bool) (digits : Nat) (exponent : Int) : Binary :=
  let size : Int := (Text.ofNat digits).length + exponent
  if digits = 0 ∨ size < -330 then .finite negative 0 leastExponent
  else if 310 < size then .infinite negative
  else if 0 ≤ exponent then ofQuotient negative (digits * Nat.pow 10 exponent.toNat) 1
  else ofQuotient negative digits (Nat.pow 10 (-exponent).toNat)

/-- A positive number between the two ends of the numbers that are nearer to it than to any
other, all in units of a quarter of its last bit and over one denominator. -/
structure Span where
  low : Nat
  value : Nat
  high : Nat
  denominator : Nat
  /-- Whether the ends themselves are read as the number. -/
  closed : Bool

/-- The span of a number. Below a power of two the next smaller number is nearer. -/
def spanOf (mantissa : Nat) (exponent : Int) : Span :=
  let lowGap := if mantissa = fullMantissa ∧ leastExponent < exponent then 1 else 2
  let (unit, denominator) := scaleTwo 1 1 (exponent - 2)
  { low := (4 * mantissa - lowGap) * unit
    value := 4 * mantissa * unit
    high := (4 * mantissa + 2) * unit
    denominator := denominator
    closed := mantissa % 2 = 0 }

/-- The span with its ends over the size of one step of the decimal grid `10 ^ place`. -/
def Span.inSteps (span : Span) (place : Int) : Span :=
  if 0 ≤ place then { span with denominator := span.denominator * Nat.pow 10 place.toNat }
  else
    let factor := Nat.pow 10 (-place).toNat
    { span with
      low := span.low * factor, value := span.value * factor, high := span.high * factor }

/-- Whether a whole number of steps lies in the span. -/
def Span.holds (span : Span) (steps : Nat) : Bool :=
  let point := steps * span.denominator
  if span.closed then span.low ≤ point && point ≤ span.high
  else span.low < point && point < span.high

/-- The steps nearest to the value, of the two around it, if they lie in the span. -/
def Span.nearest? (span : Span) : Option Nat :=
  let below := span.value / span.denominator
  let twice := 2 * (span.value % span.denominator)
  let belowIsNearer := twice < span.denominator ∨ (twice = span.denominator ∧ below % 2 = 0)
  match span.holds below, span.holds (below + 1) with
  | true, true => some (if belowIsNearer then below else below + 1)
  | true, false => some below
  | false, true => some (below + 1)
  | false, false => none

/-- The place of the first decimal digit of a positive quotient, searched upwards from a place
that is not above it. -/
def leadingPlace : Nat → Nat → Nat → Int → Int
  | 0, _, _, place => place
  | fuel + 1, numerator, denominator, place =>
    let next := place + 1
    let (n, d) :=
      if 0 ≤ next then (numerator, denominator * Nat.pow 10 next.toNat)
      else (numerator * Nat.pow 10 (-next).toNat, denominator)
    if n < d then place else leadingPlace fuel numerator denominator next

/-- The first of the grids, from coarse to fine, that has a point in the span: the point and
the place of its last digit. -/
def shortestFrom : Nat → Span → Int → Nat × Int
  | 0, span, place => (span.value / span.denominator, place)
  | fuel + 1, span, place =>
    match (span.inSteps place).nearest? with
    | some steps => (steps, place)
    | none => shortestFrom fuel span (place - 1)

/-- Digits without the zeros at their end, and the place of the last digit that is left. -/
def trimZeros : Nat → Nat → Int → Nat × Int
  | 0, digits, place => (digits, place)
  | fuel + 1, digits, place =>
    if digits % 10 = 0 ∧ digits ≠ 0 then trimZeros fuel (digits / 10) (place + 1)
    else (digits, place)

/-- The fewest digits for a positive number, and the place of the last of them. -/
def shortest (mantissa : Nat) (exponent : Int) : Nat × Int :=
  let span := spanOf mantissa exponent
  let floor : Int := ((Nat.log2 span.value : Int) - Nat.log2 span.denominator) * 30103 / 100000 - 2
  let place := leadingPlace 5 span.value span.denominator floor
  let (digits, last) := shortestFrom 18 span place
  trimZeros 20 digits last

/-- How decimal digits are laid out as a text. -/
structure Format where
  /-- The places of the first digit from which and up to which no exponent is used. -/
  leastPlace : Int
  greatestPlace : Int
  /-- The least number of digits of an exponent. -/
  exponentWidth : Nat

/-- Positional from ten thousandths up to below ten to the sixteenth, with one place after the
point at least; otherwise an exponent with a sign and at least two digits. -/
def usual : Format := ⟨-4, 15, 2⟩

/-- The digits with an exponent. -/
def withExponent (format : Format) (digits : Text) (place : Int) : Text :=
  let fraction := if digits.length ≤ 1 then [] else '.' :: digits.tail
  let size := Text.ofNat place.natAbs
  digits.take 1 ++ fraction ++ ['e', if place < 0 then '-' else '+']
    ++ List.replicate (format.exponentWidth - size.length) '0' ++ size

/-- The digits around a point, given the place of the first one. -/
def positional (digits : Text) (place : Int) : Text :=
  if place < 0 then
    "0.".toList ++ List.replicate (-place - 1).toNat '0' ++ digits
  else
    let whole := place.toNat + 1
    let fraction := digits.drop whole
    digits.take whole ++ List.replicate (whole - digits.length) '0'
      ++ '.' :: (if fraction.isEmpty then ['0'] else fraction)

/-- The magnitude of a finite number as a text. -/
def magnitudeText (format : Format) (mantissa : Nat) (exponent : Int) : Text :=
  if mantissa = 0 then "0.0".toList
  else
    let (number, last) := shortest mantissa exponent
    let digits := Text.ofNat number
    let place := last + digits.length - 1
    if format.leastPlace ≤ place ∧ place ≤ format.greatestPlace then positional digits place
    else withExponent format digits place

/-- The text of a number. -/
def text : Binary → Text
  | notANumber => "nan".toList
  | infinite negative => (if negative then ['-'] else []) ++ "inf".toList
  | finite negative mantissa exponent =>
    (if negative then ['-'] else []) ++ magnitudeText usual mantissa exponent

end Binary

end TermKeys
