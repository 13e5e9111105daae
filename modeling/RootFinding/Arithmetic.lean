/-!
# Arithmetic

Every algorithm of this library is written once, over a type of numbers that
is a parameter.  `Arithmetic` lists the operations that bracketing searches,
stepping methods, and the special functions use; ordered fields are instances,
and so are the two IEEE binary formats, whose comparisons are all false on a
NaN.  `FloatingPoint` adds the three constants that describe the range of such
a format.

Literals such as `0.1` denote the number of the format nearest to the written
decimal, and no operation is ever fused or reassociated.
-/

namespace RootFinding

/-- The four operations, absolute value, decimal literals, and decidable
comparisons.  Nothing is assumed of them, so rounding and comparisons that
fail on both sides are allowed. -/
class Arithmetic (α : Type) extends
    Add α, Sub α, Mul α, Div α, Neg α, OfScientific α, LT α, LE α, BEq α where
  /-- The absolute value. -/
  abs : α -> α
  /-- Whether a number is less than another can be decided. -/
  ltDecidable : DecidableLT α
  /-- Whether a number is at most another can be decided. -/
  leDecidable : DecidableLE α

namespace Arithmetic

instance [Arithmetic α] : DecidableLT α :=
  ltDecidable

instance [Arithmetic α] : DecidableLE α :=
  leDecidable

variable [Arithmetic α]

/-- The larger of two numbers; a number that differs from itself loses against
every other one. -/
def larger (left right : α) : α :=
  if left < right then right
  else if left == left then left
  else right

/-- A natural number, rounded to the format if it has too many digits. -/
def ofNat (n : Nat) : α :=
  OfScientific.ofScientific n false 0

end Arithmetic

/-- The sign of a number, one of `-1`, `0`, and `1`.  Zeros of either sign and
values that compare with nothing have the sign `0`. -/
def sign [Arithmetic α] (x : α) : Int :=
  if x < 0.0 then -1
  else if 0.0 < x then 1
  else 0

theorem sign_of_neg
    [Arithmetic α]
    {x : α}
    (negative : x < 0.0) :
    sign x = -1 :=
  if_pos negative

/-- A number that is neither below nor above zero has the sign `0`. -/
theorem sign_of_not_lt
    [Arithmetic α]
    {x : α}
    (notNegative : ¬x < 0.0)
    (notPositive : ¬0.0 < x) :
    sign x = 0 := by
  rw [sign, if_neg notNegative, if_neg notPositive]

/-- Numbers with a largest finite value and a value that equals nothing. -/
class FloatingPoint (α : Type) extends Arithmetic α where
  /-- The value that stands for an undefined result. -/
  nan : α
  /-- The largest finite value. -/
  largest : α
  /-- The distance from one to the next larger value. -/
  epsilon : α

namespace FloatingPoint

variable [FloatingPoint α]

/-- A value is undefined when it differs from itself. -/
def isNaN (x : α) : Bool :=
  x != x

/-- A value is infinite when it lies beyond the largest finite value on either
side of zero. -/
def isInfinite (x : α) : Bool :=
  decide ((largest : α) < x) || decide (x < -(largest : α))

/-- A value is finite when it lies between the largest finite values on both
sides of zero. -/
def isFinite (x : α) : Bool :=
  decide (-(largest : α) ≤ x) && decide (x ≤ (largest : α))

end FloatingPoint

instance : Arithmetic Float where
  abs := Float.abs
  ltDecidable := inferInstance
  leDecidable := inferInstance

instance : Arithmetic Float32 where
  abs := Float32.abs
  ltDecidable := inferInstance
  leDecidable := inferInstance

/-- The binary format of 64 bits. -/
instance : FloatingPoint Float where
  nan := 0.0 / 0.0
  largest := 1.7976931348623157e308
  epsilon := 2.220446049250313e-16

/-- The binary format of 32 bits. -/
instance : FloatingPoint Float32 where
  nan := 0.0 / 0.0
  largest := 3.4028234663852886e38
  epsilon := 1.1920928955078125e-7

end RootFinding
