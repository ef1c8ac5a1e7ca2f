namespace LiquidityReturns

/-!
# Base addresses

The paths of a service are appended to a base address, so slashes at the end
of a base address have no meaning and are dropped.
-/

namespace Web

/-- Remove the slashes at the end of a base address. -/
def withoutTrailingSlashes (base : String) : String :=
  String.ofList
    (base.toList.reverse.dropWhile fun character => character = '/').reverse

end Web

end LiquidityReturns
