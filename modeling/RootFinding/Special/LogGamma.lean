/-!
# Logarithm of the gamma function

`Special.logGamma x` is the natural logarithm of the absolute value of the
gamma function at `x`, in the binary format of 64 bits.  From one half upwards
it is the Lanczos approximation with `g = 7` and nine coefficients, and below
one half the reflection formula reduces it to that range.  It is infinite at
zero and at the negative integers.
-/

namespace RootFinding
namespace Special

/-- The circle constant, rounded. -/
def pi : Float := 3.141592653589793

/-- The constant coefficient of the Lanczos sum. -/
def lanczosConstant : Float := 0.99999999999980993

/-- The coefficients of the Lanczos sum whose divisors are `x + 1`, `x + 2`, and
so on. -/
def lanczosCoefficients : List Float :=
  [676.5203681218851, -1259.1392167224028, 771.32342877765313,
    -176.61502916214059, 12.507343278686905, -0.13857109526572012,
    9.9843695780195716e-6, 1.5056327351493116e-7]

/-- The Lanczos sum at `x`, added from its constant on. -/
def lanczosSum (x : Float) : Float :=
  (lanczosCoefficients.zipIdx 1).foldl
    (fun sum (coefficient, index) =>
      sum + coefficient / (x + Float.ofNat index))
    lanczosConstant

/-- The logarithm of the gamma function at an argument of at least one half. -/
def lanczosLogGamma (argument : Float) : Float :=
  let x := argument - 1.0
  let t := x + 7.0 + 0.5
  0.5 * (2.0 * pi).log + (x + 0.5) * t.log - t + (lanczosSum x).log

/-- The logarithm of the absolute value of the gamma function. -/
def logGamma (x : Float) : Float :=
  if x ≤ 0.0 && x == x.floor then
    1.0 / 0.0
  else if x < 0.5 then
    (pi / (pi * x).sin.abs).log - lanczosLogGamma (1.0 - x)
  else
    lanczosLogGamma x

end Special
end RootFinding
