import LiquidityReturns.Binary64.Rounding

namespace LiquidityReturns

/-!
# The shortest decimal text of a binary64 magnitude

The shortest text is found on grids of powers of ten, from coarse to fine: the
first grid with a point that rounds back to the magnitude wins, and of two
such neighbours the nearer.  The layout is positional near 1 and scientific
far from it.
-/

namespace Binary64

/-- A number of decimal digits and the power of ten of the last one. -/
structure Digits where
  number : Nat
  exponent : Int
  deriving Repr, DecidableEq

/-- Half the distance to the magnitude below. -/
def halfGapBelow (magnitude : Binary64) : Rat :=
  if magnitude.significand = Nat.pow 2 52 ∧
      leastExponent < magnitude.exponent then
    (2 : Rat) ^ (magnitude.exponent - 2)
  else
    (2 : Rat) ^ (magnitude.exponent - 1)

/-- Half the distance to the magnitude above. -/
def halfGapAbove (magnitude : Binary64) : Rat :=
  (2 : Rat) ^ (magnitude.exponent - 1)

/-- Whether a rational number rounds to the magnitude. -/
def roundsBack (magnitude : Binary64) (candidate : Rat) : Bool :=
  let low := magnitude.value - magnitude.halfGapBelow
  let high := magnitude.value + magnitude.halfGapAbove
  if magnitude.significand % 2 = 0 then
    low ≤ candidate ∧ candidate ≤ high
  else
    low < candidate ∧ candidate < high

/--
The point of the grid `10 ^ exponent` next to a magnitude that rounds back to
it.
-/
def nearestOnGrid? (magnitude : Binary64) (exponent : Int) : Option Nat :=
  let unit := (10 : Rat) ^ exponent
  let below := (magnitude.value / unit).floor.natAbs
  let above := below + 1
  let belowFits := magnitude.roundsBack ((below : Rat) * unit)
  let aboveFits := magnitude.roundsBack ((above : Rat) * unit)
  if belowFits && aboveFits then
    let fromBelow := magnitude.value - (below : Rat) * unit
    let toAbove := (above : Rat) * unit - magnitude.value
    if fromBelow < toAbove ∨ (fromBelow = toAbove ∧ below % 2 = 0) then
      some below
    else
      some above
  else if belowFits then
    some below
  else if aboveFits then
    some above
  else
    none

/-- Search finer and finer grids; the last one is taken whole. -/
def searchGrids
    (magnitude : Binary64) :
    (finer : Nat) → (exponent : Int) → Digits
  | 0, exponent =>
      ⟨(magnitude.value / (10 : Rat) ^ exponent).floor.natAbs, exponent⟩
  | finer + 1, exponent =>
      match nearestOnGrid? magnitude exponent with
      | some number =>
          ⟨number, exponent⟩
      | none =>
          searchGrids magnitude finer (exponent - 1)

/-- Drop trailing zeros of the digits. -/
def dropTrailingZeros : (bound : Nat) → Digits → Digits
  | 0, found =>
      found
  | bound + 1, found =>
      if found.number % 10 = 0 then
        dropTrailingZeros bound ⟨found.number / 10, found.exponent + 1⟩
      else
        found

/-- The shortest digits that round back to a positive magnitude. -/
def shortestDigits (magnitude : Binary64) : Digits :=
  dropTrailingZeros 17
    (searchGrids magnitude 17 (floorLog 10 magnitude.value))

/--
Write digits with a point, or in scientific notation when they lie far from 1.
-/
def layout (found : Digits) : List Char :=
  let written := Text.digits found.number
  let length : Int := written.length
  let point := length + found.exponent
  if 0 ≤ found.exponent ∧ point ≤ 16 then
    written ++ List.replicate found.exponent.toNat '0' ++ ['.', '0']
  else if 0 < point ∧ point ≤ 16 then
    written.take point.toNat ++ '.' :: written.drop point.toNat
  else if -5 < point ∧ point ≤ 0 then
    '0' :: '.' :: List.replicate (-point).toNat '0' ++ written
  else
    let significand :=
      match written with
      | first :: second :: rest =>
          first :: '.' :: second :: rest
      | _ =>
          written
    significand ++ 'e' :: Text.signed (point - 1)

/-- The shortest text that rounds back to a magnitude. -/
def shortestText (magnitude : Binary64) : List Char :=
  if magnitude.significand = 0 then
    ['0', '.', '0']
  else
    layout magnitude.shortestDigits

end Binary64

end LiquidityReturns
