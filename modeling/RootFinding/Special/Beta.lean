import RootFinding.Special.BetaFraction
import RootFinding.Special.LogGamma

/-!
# Beta functions

The complete beta function, the regularized and the plain incomplete beta
function, and the probability of a given number of successes without its
binomial coefficient.  The regularized function is written over any arithmetic
and any logarithm, exponential, and log-gamma function; the functions of
`Special` are its readings in the binary format of 64 bits.
-/

namespace RootFinding

/-- What the regularized incomplete beta function is computed from. -/
structure BetaBasis (α : Type) where
  /-- The exponential function. -/
  exp : α -> α
  /-- The natural logarithm. -/
  ln : α -> α
  /-- The logarithm of the gamma function. -/
  logGamma : α -> α
  /-- The smallest positive number. -/
  smallest : α

namespace BetaBasis

variable [Arithmetic α]

/-- The factor in front of the continued fraction, which vanishes at both ends
of the unit interval. -/
def front (basis : BetaBasis α) (x a b : α) : α :=
  if 0.0 < x && x < 1.0 then
    basis.exp
      (basis.logGamma (a + b) - basis.logGamma a - basis.logGamma b
        + a * basis.ln x + b * basis.ln (1.0 - x))
  else
    0.0

/-- The regularized incomplete beta function.  Above the threshold, where the
fraction converges slowly, it is one minus the function reflected at one half.
There is no value outside of the unit interval, nor where the fraction does not
converge. -/
def regularized? (basis : BetaBasis α) (x a b : α) : Option α :=
  if 0.0 ≤ x && x ≤ 1.0 then
    let front := basis.front x a b
    if x < (a + 1.0) / (a + b + 2.0) then
      (BetaFraction.evaluate basis.smallest x a b).map
        fun fraction => front * fraction / a
    else
      (BetaFraction.evaluate basis.smallest (1.0 - x) b a).map
        fun fraction => 1.0 - front * fraction / b
  else
    none

end BetaBasis

namespace Special

/-- The basis in the binary format of 64 bits. -/
def betaBasis : BetaBasis Float where
  exp := Float.exp
  ln := Float.log
  logGamma := logGamma
  smallest := 5e-324

/-- The complete beta function. -/
def beta (a b : Float) : Float :=
  (logGamma a + logGamma b - logGamma (a + b)).exp

/-- The regularized incomplete beta function, NaN where it has no value. -/
def betaRegularized (x a b : Float) : Float :=
  (betaBasis.regularized? x a b).getD FloatingPoint.nan

/-- The incomplete beta function. -/
def betaIncomplete (x a b : Float) : Float :=
  betaRegularized x a b * beta a b

/-- The probability of `k` successes in `n` trials of probability `x`, without
the binomial coefficient. -/
def binomial (x k n : Float) : Float :=
  ((n - k) * (1.0 - x).log + k * x.log).exp

end Special
end RootFinding
