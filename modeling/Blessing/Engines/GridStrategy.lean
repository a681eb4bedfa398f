import Blessing.Lib.Text
import Mathlib.Algebra.Order.Ring.Rat

/-! # The depth of the grid

`GridStrategyEngine.observed_depth`, and the marks by which an order or a fill counts as one of the
grid. -/

namespace Blessing.Engines.GridStrategy

open Blessing.Lib

/-- `GridStrategyEngine`, as far as the depth needs it. -/
structure GridStrategyEngine where
  maxGridLevels : ℕ
  /-- the constructor refuses a limit below one -/
  positive : 1 ≤ maxGridLevels

/-- The engine with its default limit. -/
def defaultEngine : GridStrategyEngine := ⟨5, by decide⟩

/-- `observed_depth`, nothing where it raises. The counts are not negative by their type. -/
def GridStrategyEngine.observedDepth (g : GridStrategyEngine) (positionQty : ℚ)
    (openGridOrders filledGridOrders : ℕ) : Option ℕ :=
  if positionQty < 0 then none
  else if positionQty = 0 ∧ openGridOrders = 0 then some 0
  else if 0 < positionQty ∧ openGridOrders + filledGridOrders = 0 then some g.maxGridLevels
  else some (min g.maxGridLevels (openGridOrders + filledGridOrders))

/-- `_has_grid_lineage` -/
def hasGridLineage (sourceIntentIds : List String) (clientOrderId : String) : Bool :=
  (sourceIntentIds.any fun id => "GRID-".toList.isPrefixOf (Text.upper id).toList) ||
    ["BAI-", "B-", "GRID-"].any fun mark => mark.toList.isPrefixOf (Text.upper clientOrderId).toList

/-- The strategy of an order or a fill is the grid. -/
def isGridStrategy (strategyId : String) : Bool :=
  ["grid", "structural grid"].contains (Text.lower (Text.strip strategyId))

end Blessing.Engines.GridStrategy
