import LiquidityReturns.Text.Blank

namespace LiquidityReturns

/-!
# Assets and addresses

An asset is named by its chain and symbol.  One asset, rune, is the base asset
of every pool, and a pool is named by the other asset it holds.
-/

/--
An asset identifier such as `BTC.BTC`; it also names the pool of that asset.
-/
structure Asset where
  name : String
  deriving Repr, DecidableEq

namespace Asset

/-- The base asset of every pool. -/
def rune : Asset :=
  ⟨"THOR.RUNE"⟩

/-- Whether an asset is the base asset. -/
def isRune (asset : Asset) : Bool :=
  asset = rune

instance : ToString Asset :=
  ⟨name⟩

theorem isRune_iff (asset : Asset) :
    asset.isRune = true ↔ asset = rune := by
  simp [isRune]

end Asset

/-- An address of a member on either side of a pool. -/
structure Address where
  text : String
  deriving Repr, DecidableEq

namespace Address

/-- How the addresses on the base-asset side begin. -/
def runeMark : String :=
  "thor"

/-- Whether an address belongs to the base-asset side. -/
def isRuneSide (address : Address) : Bool :=
  runeMark.toList.isPrefixOf address.text.toList

/-- Whether an address holds nothing but blanks. -/
def isBlank (address : Address) : Bool :=
  Text.isAllBlank address.text

instance : ToString Address :=
  ⟨text⟩

end Address

end LiquidityReturns
