import LiquidityReturns.Decimal.Arithmetic
import LiquidityReturns.Ledger.Asset

namespace LiquidityReturns

/-!
# Pools and the positions in them

A member's position is a number of liquidity units of a pool.  The member's
record lists the position with the addresses on both sides and the totals that
the ledger keeps itself.
-/

/-- A natural number of 128 bits: liquidity units and reserve depths. -/
abbrev WholeAmount :=
  Fin (Nat.pow 2 128)

/-- A member's share in one pool. -/
structure Position where
  pool : Asset
  liquidityUnits : WholeAmount
  deriving Repr, DecidableEq

/-- A member's record for one pool. -/
structure MemberPool where
  position : Position
  runeAddress : Option Address
  assetAddress : Option Address
  runeAdded : Decimal
  assetAdded : Decimal
  runeWithdrawn : Decimal
  assetWithdrawn : Decimal
  deriving Repr, DecidableEq

/-- The reserves, shares and spot prices of a pool. -/
structure PoolState where
  liquidityUnits : WholeAmount
  runeDepth : WholeAmount
  assetDepth : WholeAmount
  assetPrice : Decimal
  assetPriceUsd : Decimal
  deriving Repr, DecidableEq

namespace MemberPool

/-- The two sides of a position: the queried address takes its own side. -/
def sides
    (member : MemberPool)
    (queried : Address) :
    Option Address × Option Address :=
  if queried.isRuneSide then
    (some queried, member.assetAddress)
  else
    (member.runeAddress, some queried)

/-- Keep an address unless it is blank. -/
def unlessBlank : Option Address → List Address
  | none =>
      []
  | some address =>
      if address.isBlank then [] else [address]

/--
The addresses whose actions make up the position, rune side first.  The
queried address takes its own side and the record gives the other; blank and
repeated addresses are dropped.
-/
def actionAddresses
    (member : MemberPool)
    (queried : Address) :
    List Address :=
  let rune := unlessBlank (member.sides queried).1
  let asset := unlessBlank (member.sides queried).2
  rune ++ asset.filter fun address => !rune.contains address

end MemberPool

end LiquidityReturns
