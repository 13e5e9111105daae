import RootFinding.Arithmetic
import RootFinding.Bisection
import RootFinding.Callback
import RootFinding.Config
import RootFinding.Config.Description
import RootFinding.ConvergenceError
import RootFinding.Decimal.Shortest
import RootFinding.Decimal.Style
import RootFinding.Event
import RootFinding.Finder
import RootFinding.Inquiry
import RootFinding.Method
import RootFinding.Oracle
import RootFinding.Proofs.Bisection.Bracketing
import RootFinding.Proofs.Bisection.Convergence
import RootFinding.Proofs.Bisection.Endings
import RootFinding.Proofs.Bisection.Midpoints
import RootFinding.Proofs.Bisection.Overflow
import RootFinding.Proofs.Bisection.Rounds
import RootFinding.Proofs.Bisection.SameSigns
import RootFinding.Proofs.Bisection.Signs
import RootFinding.Proofs.Callback.FirstFailure
import RootFinding.Proofs.Callback.Halting
import RootFinding.Proofs.Callback.Log
import RootFinding.Proofs.Callback.Outcome
import RootFinding.Proofs.Callback.Spending
import RootFinding.Proofs.Callback.Strictness
import RootFinding.Proofs.Callback.Yielding
import RootFinding.Proofs.Config.Assembly
import RootFinding.Proofs.ExactArithmetic
import RootFinding.Proofs.FloatingPoint.Binary
import RootFinding.Proofs.FloatingPoint.Bounds
import RootFinding.Proofs.FloatingPoint.Laws
import RootFinding.Proofs.FloatingPoint.Mirror
import RootFinding.Proofs.FloatingPoint.Nearest
import RootFinding.Proofs.FloatingPoint.Negation
import RootFinding.Proofs.FloatingPoint.Operations
import RootFinding.Proofs.FloatingPoint.Packing
import RootFinding.Proofs.FloatingPoint.Products
import RootFinding.Proofs.FloatingPoint.Range
import RootFinding.Proofs.FloatingPoint.Rounding
import RootFinding.Proofs.FloatingPoint.Spacing
import RootFinding.Proofs.FloatingPoint.Values
import RootFinding.Proofs.FloatingPoint.Zeros
import RootFinding.Proofs.Search.Absorption
import RootFinding.Proofs.Search.Accounts
import RootFinding.Proofs.Search.Classification
import RootFinding.Proofs.Search.ConstantSlope
import RootFinding.Proofs.Search.Cycles
import RootFinding.Proofs.Search.Exit
import RootFinding.Proofs.Search.Halfway
import RootFinding.Proofs.Search.History
import RootFinding.Proofs.Search.Inside
import RootFinding.Proofs.Search.Judgement
import RootFinding.Proofs.Search.Limits
import RootFinding.Proofs.Search.Livelock
import RootFinding.Proofs.Search.Mirror
import RootFinding.Proofs.Search.Nudges
import RootFinding.Proofs.Search.Plain
import RootFinding.Proofs.Search.Reachable
import RootFinding.Proofs.Search.Roots
import RootFinding.Proofs.Search.Stopping
import RootFinding.Proofs.Search.Termination
import RootFinding.Proofs.Special.ContinuedFraction
import RootFinding.Proofs.Special.Convergents
import RootFinding.Proofs.Special.EndPoints
import RootFinding.Proofs.Special.Guard
import RootFinding.Proofs.Special.HalfSteps
import RootFinding.Proofs.Special.Parameters
import RootFinding.Proofs.Special.Reflection
import RootFinding.Search.Record
import RootFinding.Search.Round
import RootFinding.Search.Run
import RootFinding.Search.Turn
import RootFinding.Special.Beta
import RootFinding.Special.BetaFraction
import RootFinding.Special.LogGamma
