import RootFinding.Config
import RootFinding.Decimal.Style

/-!
# Descriptions of configurations

The text that shows a configuration to a reader, with every number as its
shortest decimal.
-/

namespace RootFinding

/-- Numbers in descriptions have a point between `0.0001` and `10 ^ 16` and an
exponent elsewhere. -/
def descriptionStyle : Decimal.Style where
  leastPositional := -4
  leastScientific := 16
  nan := "NaN"
  infinite := "inf"

/-- Numbers that can be shown in a description. -/
class Described (α : Type) where
  /-- The text of a number. -/
  describe : α -> String

instance : Described Float where
  describe x := descriptionStyle.text .binary64 x.toBits.toNat

instance : Described Float32 where
  describe x := descriptionStyle.text .binary32 x.toBits.toNat

namespace Config

/-- The fields of a configuration with their texts, in order. -/
def describedFields
    [Described α]
    (config : Config α) : List (String × String) :=
  [("method", config.method.title),
    ("x_min", Described.describe config.lower),
    ("x_max", Described.describe config.upper),
    ("min_iterations", toString config.minIterations),
    ("max_iterations", toString config.maxIterations),
    ("target_precision", Described.describe config.targetPrecision),
    ("use_heuristics", toString config.useHeuristics)]

/-- The text of a configuration. -/
def describe [Described α] (config : Config α) : String :=
  let fields := config.describedFields.map fun (name, text) =>
    name ++ ": " ++ text
  "FinderConfig \x7b " ++ ", ".intercalate fields ++ " \x7d"

/-- The text of a finder with this configuration; its functions are not shown. -/
def describeFinder [Described α] (config : Config α) : String :=
  "Finder \x7b config: " ++ config.describe ++ ", .. \x7d"

end Config
end RootFinding
