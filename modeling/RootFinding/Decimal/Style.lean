import RootFinding.Decimal.Shortest

/-!
# Decimal text

How a shortest decimal is written: positionally with a point, or as a
significand with a power of ten.
-/

namespace RootFinding
namespace Decimal

/-- The decisions of a decimal format. -/
structure Style where
  /-- Powers of ten below this one are written with an exponent. -/
  leastPositional : Int
  /-- Powers of ten from this one on are written with an exponent. -/
  leastScientific : Int
  /-- The text of an undefined value. -/
  nan : String
  /-- The text of an infinite magnitude. -/
  infinite : String

/-- Digits, without the zeros at their end, and the power of ten of the first
one. -/
def leadingForm (decimal : Scaled) : List Char × Int :=
  let digits := Nat.toDigits 10 decimal.significand
  let significant := (digits.reverse.dropWhile (· == '0')).reverse
  (significant, decimal.exponent + digits.length - 1)

/-- Digits with a point and at least one digit on either side of it. -/
def positional (digits : List Char) (power : Int) : List Char :=
  let padded := List.replicate (-power).toNat '0' ++ digits
  let wholeCount := power.toNat + 1
  let whole := padded.take wholeCount
  let fraction := padded.drop wholeCount
  whole ++ List.replicate (wholeCount - whole.length) '0' ++ '.' ::
    if fraction.isEmpty then ['0'] else fraction

/-- Digits with a point after the first one, if more follow, and an exponent. -/
def scientific (digits : List Char) (power : Int) : List Char :=
  let point := if digits.length ≤ 1 then [] else ['.']
  digits.take 1 ++ point ++ digits.drop 1 ++ 'e' :: (toString power).toList

/-- The text of a magnitude. -/
def Style.magnitude (style : Style) : Magnitude -> String
  | .nan => style.nan
  | .infinite => style.infinite
  | .finite 0 _ _ => "0.0"
  | .finite mantissa exponent afterGap =>
      let (digits, power) := leadingForm (shortest mantissa exponent afterGap)
      if style.leastPositional ≤ power && power < style.leastScientific then
        String.ofList (positional digits power)
      else
        String.ofList (scientific digits power)

/-- The text of a bit pattern.  NaN has no sign. -/
def Style.text (style : Style) (format : Format) (bits : Nat) : String :=
  match format.magnitude bits with
  | .nan => style.nan
  | magnitude =>
      if format.isNegative bits then "-" ++ style.magnitude magnitude
      else style.magnitude magnitude

end Decimal
end RootFinding
