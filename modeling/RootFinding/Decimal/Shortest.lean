/-!
# Shortest decimals

A finite binary number is `mantissa * 2 ^ exponent`.  The decimals that read
back as it form an interval around it; `Decimal.shortest` is the decimal of
that interval with the fewest digits, and of those the nearest.  On a grid of
decimals only the two neighbours of the number have to be tried, in exact
arithmetic.
-/

namespace RootFinding
namespace Decimal

/-- The widths of the two fields of a binary format, below its sign. -/
structure Format where
  fractionBits : Nat
  exponentBits : Nat
  deriving Repr

/-- The binary format of 64 bits. -/
def Format.binary64 : Format := ⟨52, 11⟩

/-- The binary format of 32 bits. -/
def Format.binary32 : Format := ⟨23, 8⟩

/-- The magnitude of a binary number. -/
inductive Magnitude where
  | nan
  | infinite
  /-- The number `mantissa * 2 ^ exponent`; its lower neighbour is only half as
  far away as its upper one if it is `afterGap`. -/
  | finite (mantissa : Nat) (exponent : Int) (afterGap : Bool)
  deriving Repr

/-- Whether the sign bit is set. -/
def Format.isNegative (format : Format) (bits : Nat) : Bool :=
  bits.testBit (format.fractionBits + format.exponentBits)

/-- The magnitude that a bit pattern stands for. -/
def Format.magnitude (format : Format) (bits : Nat) : Magnitude :=
  let fraction := bits % Nat.pow 2 format.fractionBits
  let field :=
    bits / Nat.pow 2 format.fractionBits % Nat.pow 2 format.exponentBits
  let least : Int :=
    2 - Nat.pow 2 (format.exponentBits - 1) - format.fractionBits
  if field + 1 = Nat.pow 2 format.exponentBits then
    if fraction = 0 then .infinite else .nan
  else if field = 0 then
    .finite fraction least false
  else
    .finite (Nat.pow 2 format.fractionBits + fraction)
      (least + (field - 1)) (fraction = 0 && 1 < field)

/-- A number between two bounds, all of them over one denominator. -/
structure Interval where
  lower : Nat
  number : Nat
  upper : Nat
  denominator : Nat
  /-- Whether the bounds belong to the interval. -/
  closed : Bool
  deriving Repr

namespace Interval

/-- The reals that round to `mantissa * 2 ^ exponent`.  A bound is a tie, which
goes to the even mantissa. -/
def ofBinary (mantissa : Nat) (exponent : Int) (afterGap : Bool) : Interval :=
  let unit := Nat.pow 2 (exponent - 2).toNat
  { lower := (4 * mantissa - if afterGap then 1 else 2) * unit
    number := 4 * mantissa * unit
    upper := (4 * mantissa + 2) * unit
    denominator := Nat.pow 2 (2 - exponent).toNat
    closed := mantissa % 2 = 0 }

/-- The interval in units of a power of ten. -/
def inUnits (interval : Interval) (exponent : Int) : Interval :=
  let factor := Nat.pow 10 (-exponent).toNat
  { lower := interval.lower * factor
    number := interval.number * factor
    upper := interval.upper * factor
    denominator := interval.denominator * Nat.pow 10 exponent.toNat
    closed := interval.closed }

/-- Whether a natural number lies in the interval. -/
def holds (interval : Interval) (candidate : Nat) : Bool :=
  let scaled := candidate * interval.denominator
  if interval.closed then
    interval.lower ≤ scaled && scaled ≤ interval.upper
  else
    interval.lower < scaled && scaled < interval.upper

/-- The natural number of the interval that is nearest to its number, if one of
the two neighbours lies in it; of two equally near ones the larger. -/
def nearest? (interval : Interval) : Option Nat :=
  let below := interval.number / interval.denominator
  let above := below + 1
  match interval.holds below, interval.holds above with
  | true, true =>
      if 2 * interval.number < (below + above) * interval.denominator
      then some below
      else some above
  | true, false => some below
  | false, true => some above
  | false, false => none

end Interval

/-- The number of decimal digits. -/
def digitCount (n : Nat) : Nat :=
  (Nat.toDigits 10 n).length

/-- The exponent of the least power of ten above a positive fraction. -/
def pointPosition (numerator denominator : Nat) : Int :=
  if denominator ≤ numerator then
    digitCount (numerator / denominator)
  else
    1 - digitCount ((denominator - 1) / numerator)

/-- The number `significand * 10 ^ exponent`. -/
structure Scaled where
  significand : Nat
  exponent : Int
  deriving Repr, DecidableEq

/-- The most digits that a shortest decimal of either format can need. -/
def maxDigits : Nat := 17

/-- The shortest decimal that reads back as a positive binary number. -/
def shortest (mantissa : Nat) (exponent : Int) (afterGap : Bool) : Scaled :=
  let interval := Interval.ofBinary mantissa exponent afterGap
  let point := pointPosition interval.number interval.denominator
  let candidate? (digits : Nat) : Option Scaled :=
    let unit := point - (digits + 1)
    (interval.inUnits unit).nearest?.map fun significand => ⟨significand, unit⟩
  ((List.range maxDigits).findSome? candidate?).getD ⟨mantissa, exponent⟩

end Decimal
end RootFinding
