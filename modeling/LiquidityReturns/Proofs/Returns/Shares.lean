import Mathlib
import LiquidityReturns.Proofs.Decimal.Monotone
import LiquidityReturns.Proofs.Returns.Checked

namespace LiquidityReturns

/-!
# Shares of a depth

A share is rounded twice: its fractional part to 28 places, and the sum with
its integral part once more.  `Checked.ShareParts` says all that a share which
exists can be.  From it follow when a share exists, how far it is from the
exact one, that it stays within the depth, and that shares keep the order of
units, depths and totals.
-/

theorem abs_fract_le (number : ℚ) : |Int.fract number| ≤ 1 := by
  rw [Int.abs_fract]
  exact (Int.fract_lt_one number).le

namespace Decimal

section Fractions

variable {quotient larger : ℚ} {fraction largerFraction : Decimal}

theorem fraction_le_one
    (found : nearest? (Int.fract quotient) = some fraction) :
    fraction.value ≤ 1 := by
  have small : |Int.fract quotient| ≤ (1 : ℕ) := by
    simpa using abs_fract_le quotient
  simpa using (abs_le.mp (abs_value_le found small)).2

/--
The integral part of a number and its rounded fractional part keep the order of
numbers.
-/
theorem floor_add_fraction_mono
    (ordered : quotient ≤ larger)
    (found : nearest? (Int.fract quotient) = some fraction)
    (largerFound : nearest? (Int.fract larger) = some largerFraction) :
    ⌊quotient⌋ + fraction.value ≤
      ⌊larger⌋ + largerFraction.value := by
  rcases (Int.floor_le_floor ordered).eq_or_lt with same | less
  · have fractions : Int.fract quotient ≤ Int.fract larger := by
      unfold Int.fract
      rw [same]
      linarith
    rw [same]
    linarith [nearest?_mono fractions found largerFound]
  · -- The fraction is at most one, and so is the step to the larger integer.
    have next : (⌊quotient⌋ : ℚ) + 1 ≤ ⌊larger⌋ := by
      exact_mod_cast less
    have nonneg :=
      value_nonneg_of_nearest? (Int.fract_nonneg larger) largerFound
    linarith [fraction_le_one found]

theorem floor_add_fraction_nonneg
    (nonneg : 0 ≤ quotient)
    (found : nearest? (Int.fract quotient) = some fraction) :
    0 ≤ ⌊quotient⌋ + fraction.value := by
  have floor_nonneg : (0 : ℚ) ≤ ⌊quotient⌋ := by
    exact_mod_cast Int.floor_nonneg.mpr nonneg
  exact add_nonneg floor_nonneg
    (value_nonneg_of_nearest? (Int.fract_nonneg quotient) found)

end Fractions

/--
The largest coefficient and a half is beyond all numbers, for it rounds to the
even side.
-/
private theorem nearest?_largest_and_half :
    nearest? ((maxCoefficient : ℚ) + 1 / 2) = none := by
  decide +kernel

/-- On top of the largest coefficient there is room for less than one half. -/
theorem exists_nearest?_largest_add_iff
    {fraction : ℚ}
    (nonneg : 0 ≤ fraction) :
    (∃ number, nearest? ((maxCoefficient : ℚ) + fraction) = some number) ↔
      fraction < 1 / 2 := by
  constructor
  · rintro ⟨number, found⟩
    by_contra large
    have ordered :
        (maxCoefficient : ℚ) + 1 / 2 ≤ maxCoefficient + fraction := by
      linarith
    obtain ⟨lower, lowerFound, _⟩ :=
      exists_nearest?_of_le (by positivity) ordered found
    rw [nearest?_largest_and_half] at lowerFound
    cases lowerFound
  · intro small
    apply exists_nearest?_of_fits
    have near := abs_roundHalfEven_sub_le ((maxCoefficient : ℚ) + fraction)
    have below :
        (roundHalfEven ((maxCoefficient : ℚ) + fraction) : ℚ) <
          (maxCoefficient : ℤ) + 1 := by
      push_cast
      linarith [(abs_le.mp near).2]
    have below_int :
        roundHalfEven ((maxCoefficient : ℚ) + fraction) <
          (maxCoefficient : ℤ) + 1 := by
      exact_mod_cast below
    have rounded_nonneg :=
      roundHalfEven_nonneg
        (show (0 : ℚ) ≤ maxCoefficient + fraction by positivity)
    omega

end Decimal

namespace Checked

/-- The exact share of a depth. -/
def exactShare (units depth total : WholeAmount) : ℚ :=
  ((units.val * depth.val : ℕ) : ℚ) / total.val

/--
What is known of a share of some units, and of its rounded fractional part.
-/
structure ShareParts
    (units depth total : WholeAmount)
    (fraction share : Decimal) : Prop where
  claimed : units.val ≠ 0
  issued : total.val ≠ 0
  product_lt : units.val * depth.val < Nat.pow 2 128
  total_le : total.val ≤ Decimal.maxCoefficient
  whole_le : ⌊exactShare units depth total⌋ ≤ Decimal.maxCoefficient
  fraction_eq :
    Decimal.nearest? (Int.fract (exactShare units depth total)) =
      some fraction
  share_eq :
    Decimal.nearest?
        (⌊exactShare units depth total⌋ + fraction.value) =
      some share

section Shares

variable {units depth total : WholeAmount} {fraction share : Decimal}

theorem exactShare_nonneg : 0 ≤ exactShare units depth total := by
  unfold exactShare
  positivity

theorem floor_exactShare :
    ⌊exactShare units depth total⌋ =
      ((units.val * depth.val / total.val : ℕ) : ℤ) :=
  Rat.floor_intCast_div_natCast _ _

theorem fract_exactShare :
    Int.fract (exactShare units depth total) =
      ((units.val * depth.val % total.val : ℕ) : ℚ) / total.val :=
  Int.fract_div_natCast_eq_div_natCast_mod

/-- The fractional part of a share is its remainder over the total. -/
private theorem div_remainder_eq_ok_iff
    {remainder divisor : Decimal}
    (issued : total.val ≠ 0)
    (remainder_eq :
      remainder.value = (units.val * depth.val % total.val : ℕ))
    (divisor_eq : divisor.value = total.val) :
    div remainder divisor = .ok fraction ↔
      Decimal.nearest? (Int.fract (exactShare units depth total)) =
        some fraction := by
  have notZero : divisor.isZero = false := by
    rw [Decimal.isZero_eq_false_iff, divisor_eq]
    exact_mod_cast issued
  rw [div_eq_ok_iff notZero, remainder_eq, divisor_eq, fract_exactShare]

/-- The share of some units has the parts that are computed for it. -/
theorem exists_parts_of_proRata
    (shared : proRata units depth total = .ok share)
    (claimed : units.val ≠ 0) :
    ∃ fraction, ShareParts units depth total fraction share := by
  unfold proRata at shared
  rw [if_neg claimed] at shared
  split at shared
  · cases shared
  · rename_i issued
    dsimp only at shared
    split at shared
    · rename_i product_lt
      simp only [Outcome.bind_eq_ok_iff, ofNat_eq_ok_iff,
        add_eq_ok_iff] at shared
      obtain ⟨whole, ⟨whole_le, whole_eq⟩,
        remainder, ⟨_, remainder_eq⟩, divisor, ⟨total_le, divisor_eq⟩,
        fraction, divided, summed⟩ :=
        shared
      refine ⟨fraction, claimed, issued, product_lt, total_le, ?_,
        (div_remainder_eq_ok_iff issued remainder_eq divisor_eq).mp divided,
        ?_⟩
      · rw [floor_exactShare]
        exact_mod_cast whole_le
      · rwa [floor_exactShare, Int.cast_natCast, ← whole_eq]
    · cases shared

/-- Parts are those of a share. -/
theorem ShareParts.proRata_eq_ok
    (parts : ShareParts units depth total fraction share) :
    proRata units depth total = .ok share := by
  have whole_le := parts.whole_le
  have summed := parts.share_eq
  rw [floor_exactShare] at whole_le summed
  have remainder_le :
      units.val * depth.val % total.val ≤ Decimal.maxCoefficient :=
    (Nat.mod_lt _ (Nat.pos_of_ne_zero parts.issued)).le.trans
      parts.total_le
  obtain ⟨whole, wholeFound, whole_eq⟩ :=
    exists_ofNat (by exact_mod_cast whole_le)
  obtain ⟨remainder, remainderFound, remainder_eq⟩ :=
    exists_ofNat remainder_le
  obtain ⟨divisor, divisorFound, divisor_eq⟩ :=
    exists_ofNat parts.total_le
  have divided :=
    (div_remainder_eq_ok_iff parts.issued remainder_eq divisor_eq).mpr
      parts.fraction_eq
  unfold proRata
  rw [if_neg parts.claimed, if_neg parts.issued]
  dsimp only
  rw [if_pos parts.product_lt, wholeFound, Outcome.ok_bind, remainderFound,
    Outcome.ok_bind, divisorFound, Outcome.ok_bind, divided,
    Outcome.ok_bind, add_eq_ok_iff, whole_eq]
  exact_mod_cast summed

/-- Without units there is no share, whatever the pool holds. -/
theorem proRata_of_no_units
    (none_claimed : units.val = 0)
    (depth total : WholeAmount) :
    proRata units depth total = .ok .zero := by
  unfold proRata
  rw [if_pos none_claimed]

/--
The share of some units exists when both parts do and their sum can be rounded.
-/
theorem exists_proRata_of_room
    (issued : total.val ≠ 0)
    (product_lt : units.val * depth.val < Nat.pow 2 128)
    (total_le : total.val ≤ Decimal.maxCoefficient)
    (whole_le : ⌊exactShare units depth total⌋ ≤ Decimal.maxCoefficient)
    (room :
      ∀ {fraction},
        Decimal.nearest? (Int.fract (exactShare units depth total)) =
            some fraction →
          ∃ share,
            Decimal.nearest?
                (⌊exactShare units depth total⌋ + fraction.value) =
              some share) :
    ∃ share, proRata units depth total = .ok share := by
  by_cases none_claimed : units.val = 0
  · exact ⟨.zero, proRata_of_no_units none_claimed depth total⟩
  · have small :
        |Int.fract (exactShare units depth total)| ≤
          (Decimal.maxCoefficient : ℚ) :=
      (abs_fract_le _).trans
        (by exact_mod_cast Decimal.one_le_maxCoefficient)
    obtain ⟨fraction, fraction_eq⟩ := Decimal.exists_nearest? small
    obtain ⟨share, share_eq⟩ := room fraction_eq
    have parts : ShareParts units depth total fraction share :=
      ⟨none_claimed, issued, product_lt, total_le, whole_le, fraction_eq,
        share_eq⟩
    exact ⟨share, parts.proRata_eq_ok⟩

theorem exactShare_le_depth
    (units_le : units.val ≤ total.val)
    (issued : total.val ≠ 0) :
    exactShare units depth total ≤ depth.val := by
  have issued_pos : (0 : ℚ) < total.val := by
    exact_mod_cast Nat.pos_of_ne_zero issued
  unfold exactShare
  rw [div_le_iff₀ issued_pos, mul_comm (depth.val : ℚ)]
  exact_mod_cast Nat.mul_le_mul_right depth.val units_le

/-- The parts of the share of at most all units add up to at most the depth. -/
theorem sum_le_depth
    (units_le : units.val ≤ total.val)
    (issued : total.val ≠ 0)
    (fraction_eq :
      Decimal.nearest? (Int.fract (exactShare units depth total)) =
        some fraction) :
    ⌊exactShare units depth total⌋ + fraction.value ≤ depth.val := by
  have noFraction :
      Decimal.nearest? (Int.fract (depth.val : ℚ)) = some .zero := by
    rw [Int.fract_natCast, ← Decimal.value_zero, Decimal.nearest?_value]
  have sum_le :=
    Decimal.floor_add_fraction_mono
      (exactShare_le_depth units_le issued) fraction_eq noFraction
  simpa using sum_le

namespace ShareParts

theorem sum_nonneg
    (parts : ShareParts units depth total fraction share) :
    0 ≤ ⌊exactShare units depth total⌋ + fraction.value :=
  Decimal.floor_add_fraction_nonneg exactShare_nonneg parts.fraction_eq

theorem share_nonneg
    (parts : ShareParts units depth total fraction share) :
    0 ≤ share.value :=
  Decimal.value_nonneg_of_nearest? parts.sum_nonneg parts.share_eq

/-- A share is off by the rounding of its fraction and that of the sum. -/
theorem abs_share_sub_le
    (parts : ShareParts units depth total fraction share) :
    |share.value - exactShare units depth total| ≤
      (1 + exactShare units depth total) / 10 ^ 28 := by
  have fraction_near :=
    Decimal.abs_value_sub_le_half parts.fraction_eq (abs_fract_le _)
  have sum_near :=
    ((Decimal.onGrid_intCast _).add fraction.onGrid_value).abs_value_sub_le
      parts.share_eq
  have split := Int.floor_add_fract (exactShare units depth total)
  rw [abs_of_nonneg parts.sum_nonneg] at sum_near
  rw [abs_le] at fraction_near sum_near ⊢
  constructor <;> linarith

/-- An integral share is exact. -/
theorem share_eq_exactShare
    (parts : ShareParts units depth total fraction share)
    (integral : total.val ∣ units.val * depth.val) :
    share.value = exactShare units depth total := by
  have no_remainder : Int.fract (exactShare units depth total) = 0 := by
    rw [fract_exactShare, Nat.mod_eq_zero_of_dvd integral, Nat.cast_zero,
      zero_div]
  have no_fraction : fraction = .zero := by
    have found := parts.fraction_eq
    rw [no_remainder, ← Decimal.value_zero, Decimal.nearest?_value,
      Option.some.injEq] at found
    exact found.symm
  have floor_eq :
      (⌊exactShare units depth total⌋ : ℚ) =
        exactShare units depth total := by
    rw [← Int.self_sub_fract, no_remainder, sub_zero]
  have fits :
      ⌊exactShare units depth total⌋.natAbs ≤ Decimal.maxCoefficient := by
    have whole_le := parts.whole_le
    rw [floor_exactShare] at whole_le ⊢
    rw [Int.natAbs_natCast]
    exact_mod_cast whole_le
  obtain ⟨kept, found, kept_eq⟩ := Decimal.nearest?_intCast fits
  have summed := parts.share_eq
  rw [no_fraction, Decimal.value_zero, add_zero, found,
    Option.some.injEq] at summed
  rw [← summed, kept_eq, floor_eq]

/-- The share of at most all units is at most the depth. -/
theorem share_le_depth
    (parts : ShareParts units depth total fraction share)
    (units_le : units.val ≤ total.val) :
    share.value ≤ depth.val := by
  have bounded :
      |(⌊exactShare units depth total⌋ : ℚ) + fraction.value| ≤
        depth.val := by
    rw [abs_of_nonneg parts.sum_nonneg]
    exact sum_le_depth units_le parts.issued parts.fraction_eq
  exact (abs_le.mp (Decimal.abs_value_le parts.share_eq bounded)).2

end ShareParts

/-- A share that exists is not negative. -/
theorem nonneg_of_proRata
    (shared : proRata units depth total = .ok share) :
    0 ≤ share.value := by
  by_cases none_claimed : units.val = 0
  · rw [proRata_of_no_units none_claimed] at shared
    cases shared
    rw [Decimal.value_zero]
  · obtain ⟨fraction, parts⟩ :=
      exists_parts_of_proRata shared none_claimed
    exact parts.share_nonneg

section Order

variable {moreUnits deeper fewerTotal : WholeAmount} {largerShare : Decimal}

theorem exactShare_mono
    (units_le : units ≤ moreUnits)
    (depth_le : depth ≤ deeper)
    (total_le : fewerTotal ≤ total)
    (issued : fewerTotal.val ≠ 0) :
    exactShare units depth total ≤
      exactShare moreUnits deeper fewerTotal := by
  have issued_pos : (0 : ℚ) < fewerTotal.val := by
    exact_mod_cast Nat.pos_of_ne_zero issued
  have product_le :
      units.val * depth.val ≤ moreUnits.val * deeper.val :=
    Nat.mul_le_mul units_le depth_le
  have total_cast_le : (fewerTotal.val : ℚ) ≤ total.val := by
    exact_mod_cast total_le
  unfold exactShare
  gcongr

/--
More units of fewer in total have no smaller share of a depth that is not
smaller.
-/
theorem proRata_mono
    (units_le : units ≤ moreUnits)
    (depth_le : depth ≤ deeper)
    (total_le : fewerTotal ≤ total)
    (shared : proRata units depth total = .ok share)
    (largerShared : proRata moreUnits deeper fewerTotal = .ok largerShare) :
    share.value ≤ largerShare.value := by
  by_cases none_claimed : units.val = 0
  · rw [proRata_of_no_units none_claimed] at shared
    cases shared
    rw [Decimal.value_zero]
    exact nonneg_of_proRata largerShared
  · have more_claimed : moreUnits.val ≠ 0 := by
      have units_val_le : units.val ≤ moreUnits.val := units_le
      omega
    obtain ⟨fraction, parts⟩ :=
      exists_parts_of_proRata shared none_claimed
    obtain ⟨largerFraction, largerParts⟩ :=
      exists_parts_of_proRata largerShared more_claimed
    have exact_le :=
      exactShare_mono units_le depth_le total_le largerParts.issued
    exact
      Decimal.nearest?_mono
        (Decimal.floor_add_fraction_mono exact_le parts.fraction_eq
          largerParts.fraction_eq)
        parts.share_eq largerParts.share_eq

/--
Where more units of one total have a share of some depth, fewer have one of a
smaller depth.
-/
theorem exists_proRata_of_le
    (units_le : units ≤ moreUnits)
    (depth_le : depth ≤ deeper)
    (largerShared : proRata moreUnits deeper total = .ok largerShare) :
    ∃ share, proRata units depth total = .ok share := by
  by_cases none_claimed : moreUnits.val = 0
  · have units_val_le : units.val ≤ moreUnits.val := units_le
    exact ⟨.zero, proRata_of_no_units (by omega) depth total⟩
  · obtain ⟨largerFraction, parts⟩ :=
      exists_parts_of_proRata largerShared none_claimed
    have exact_le :=
      exactShare_mono units_le depth_le le_rfl parts.issued
    have product_le :
        units.val * depth.val ≤ moreUnits.val * deeper.val :=
      Nat.mul_le_mul units_le depth_le
    apply
      exists_proRata_of_room parts.issued
        (product_le.trans_lt parts.product_lt) parts.total_le
        ((Int.floor_le_floor exact_le).trans parts.whole_le)
    intro fraction fraction_eq
    obtain ⟨share, share_eq, _⟩ :=
      Decimal.exists_nearest?_of_le
        (Decimal.floor_add_fraction_nonneg exactShare_nonneg fraction_eq)
        (Decimal.floor_add_fraction_mono exact_le fraction_eq
          parts.fraction_eq)
        parts.share_eq
    exact ⟨share, share_eq⟩

end Order

/-- The share of at most all units is at most the depth. -/
theorem proRata_le_depth
    (units_le : units.val ≤ total.val)
    (shared : proRata units depth total = .ok share) :
    share.value ≤ depth.val := by
  by_cases none_claimed : units.val = 0
  · rw [proRata_of_no_units none_claimed] at shared
    cases shared
    rw [Decimal.value_zero]
    exact Nat.cast_nonneg _
  · obtain ⟨fraction, parts⟩ :=
      exists_parts_of_proRata shared none_claimed
    exact parts.share_le_depth units_le

/--
The share of at most all units exists if the total, the depth and their product
fit.
-/
theorem exists_proRata
    (units_le : units.val ≤ total.val)
    (total_le : total.val ≤ Decimal.maxCoefficient)
    (depth_le : depth.val ≤ Decimal.maxCoefficient)
    (product_lt : units.val * depth.val < Nat.pow 2 128) :
    ∃ share, proRata units depth total = .ok share := by
  by_cases none_issued : total.val = 0
  · exact ⟨.zero, proRata_of_no_units (by omega) depth total⟩
  · have depth_cast_le : (depth.val : ℚ) ≤ Decimal.maxCoefficient := by
      exact_mod_cast depth_le
    have whole_le :
        ⌊exactShare units depth total⌋ ≤ Decimal.maxCoefficient := by
      refine (Int.floor_le_floor
        (exactShare_le_depth units_le none_issued)).trans ?_
      rw [Int.floor_natCast]
      exact_mod_cast depth_le
    apply
      exists_proRata_of_room none_issued product_lt total_le whole_le
    intro fraction fraction_eq
    apply Decimal.exists_nearest?
    rw [abs_of_nonneg
      (Decimal.floor_add_fraction_nonneg exactShare_nonneg fraction_eq)]
    exact (sum_le_depth units_le none_issued fraction_eq).trans
      depth_cast_le

end Shares

/--
A share of some units of some total is too large: the product, the total or the
share itself.
-/
def ShareTooLarge (units depth total : WholeAmount) : Prop :=
  Nat.pow 2 128 ≤ units.val * depth.val ∨
    Decimal.maxCoefficient < total.val ∨
    (Decimal.maxCoefficient : ℤ) < ⌊exactShare units depth total⌋ ∨
    (⌊exactShare units depth total⌋ = (Decimal.maxCoefficient : ℤ) ∧
      1 / 2 ≤ Decimal.toPlaces (Int.fract (exactShare units depth total)))

instance (units depth total : WholeAmount) :
    Decidable (ShareTooLarge units depth total) :=
  inferInstanceAs (Decidable (_ ∨ _ ∨ _ ∨ _))

section TooLarge

variable {units depth total : WholeAmount} {fraction share : Decimal}

/-- A share that exists is not too large. -/
theorem ShareParts.not_tooLarge
    (parts : ShareParts units depth total fraction share) :
    ¬ ShareTooLarge units depth total := by
  rintro (product | issued | whole | ⟨whole, half_le⟩)
  · exact absurd parts.product_lt (Nat.not_lt.mpr product)
  · exact absurd parts.total_le (Nat.not_le.mpr issued)
  · exact absurd parts.whole_le (not_le.mpr whole)
  · have fraction_eq :=
      Decimal.value_eq_toPlaces parts.fraction_eq (abs_fract_le _)
    have summed := parts.share_eq
    rw [whole, Int.cast_natCast] at summed
    have small :=
      (Decimal.exists_nearest?_largest_add_iff
        (fraction_eq ▸ (by positivity))).mp ⟨share, summed⟩
    rw [fraction_eq] at small
    exact absurd small (not_lt.mpr half_le)

/-- A share that is not too large exists. -/
theorem exists_proRata_of_not_tooLarge
    (issued : total.val ≠ 0)
    (moderate : ¬ ShareTooLarge units depth total) :
    ∃ share, proRata units depth total = .ok share := by
  unfold ShareTooLarge at moderate
  simp only [not_or, not_and, not_le, not_lt] at moderate
  obtain ⟨product_lt, total_le, whole_le, small⟩ := moderate
  apply exists_proRata_of_room issued product_lt total_le whole_le
  intro fraction fraction_eq
  have nonneg :=
    Decimal.value_nonneg_of_nearest? (Int.fract_nonneg _) fraction_eq
  rcases whole_le.eq_or_lt with largest | less
  · rw [largest, Int.cast_natCast,
      Decimal.exists_nearest?_largest_add_iff nonneg,
      Decimal.value_eq_toPlaces fraction_eq (abs_fract_le _)]
    exact small largest
  · have next :
        (⌊exactShare units depth total⌋ : ℚ) + 1 ≤
          Decimal.maxCoefficient := by
      exact_mod_cast less
    apply Decimal.exists_nearest?
    rw [abs_of_nonneg
      (Decimal.floor_add_fraction_nonneg exactShare_nonneg fraction_eq)]
    linarith [Decimal.fraction_le_one fraction_eq]

end TooLarge

/--
A share is computed as it should be: not negative, near the exact one, and
within the depth.
-/
structure FairShare
    (units depth total : WholeAmount)
    (share : Decimal) : Prop where
  nonneg : 0 ≤ share.value
  none_of_no_units : units.val = 0 → share.value = 0
  near :
    |share.value - exactShare units depth total| ≤
      (1 + exactShare units depth total) / 10 ^ 28
  exact_of_dvd :
    total.val ∣ units.val * depth.val →
      share.value = exactShare units depth total
  all_of_all_units :
    units.val ≠ 0 → units.val = total.val → share.value = depth.val
  le_depth : units.val ≤ total.val → share.value ≤ depth.val

/-- A share that exists is fair. -/
theorem fairShare_of_proRata
    {units depth total : WholeAmount}
    {share : Decimal}
    (shared : proRata units depth total = .ok share) :
    FairShare units depth total share := by
  by_cases none_claimed : units.val = 0
  · have nothing : exactShare units depth total = 0 := by
      simp [exactShare, none_claimed]
    rw [proRata_of_no_units none_claimed] at shared
    cases shared
    refine ⟨?_, ?_, ?_, ?_, ?_, ?_⟩ <;>
      simp [nothing, none_claimed]
  · obtain ⟨fraction, parts⟩ :=
      exists_parts_of_proRata shared none_claimed
    refine ⟨parts.share_nonneg, ?_, parts.abs_share_sub_le,
      parts.share_eq_exactShare, ?_, parts.share_le_depth⟩
    · intro claimed
      exact absurd claimed none_claimed
    · intro _ all
      have issued : (total.val : ℚ) ≠ 0 := by
        exact_mod_cast parts.issued
      rw [parts.share_eq_exactShare (all ▸ Nat.dvd_mul_right ..),
        exactShare, all, Nat.cast_mul, mul_div_cancel_left₀ _ issued]

/--
The share of some units overflows exactly when it is too large, for a total
that is not zero.
-/
theorem proRata_eq_overflow_iff {units depth total : WholeAmount} :
    proRata units depth total = .error .overflow ↔
      units.val ≠ 0 ∧ total.val ≠ 0 ∧
        ShareTooLarge units depth total := by
  constructor
  · intro failed
    have claimed : units.val ≠ 0 := by
      intro none_claimed
      rw [proRata_of_no_units none_claimed] at failed
      cases failed
    have issued : total.val ≠ 0 := by
      intro none_issued
      have divides :
          proRata units depth total = .error .divisionByZero :=
        proRata_eq_divisionByZero_iff.mpr ⟨claimed, none_issued⟩
      rw [divides] at failed
      cases failed
    refine ⟨claimed, issued, ?_⟩
    by_contra moderate
    obtain ⟨share, found⟩ :=
      exists_proRata_of_not_tooLarge issued moderate
    rw [found] at failed
    cases failed
  · rintro ⟨claimed, issued, tooLarge⟩
    cases outcome : proRata units depth total with
    | ok share =>
        obtain ⟨fraction, parts⟩ := exists_parts_of_proRata outcome claimed
        exact absurd tooLarge parts.not_tooLarge
    | error failure =>
        cases failure with
        | overflow =>
            rfl
        | divisionByZero =>
            have none_issued := (proRata_eq_divisionByZero_iff.mp outcome).2
            exact absurd none_issued issued

/--
A share divides by zero or is too large exactly under conditions on its three
numbers, and in every other case it exists and is fair.
-/
theorem proRata_fails_or_fair
    (units depth total : WholeAmount) :
    (proRata units depth total = .error .divisionByZero ↔
      units.val ≠ 0 ∧ total.val = 0) ∧
    (proRata units depth total = .error .overflow ↔
      units.val ≠ 0 ∧ total.val ≠ 0 ∧
        ShareTooLarge units depth total) ∧
    ((units.val ≠ 0 →
        total.val ≠ 0 ∧ ¬ ShareTooLarge units depth total) →
      ∃ share,
        proRata units depth total = .ok share ∧
          FairShare units depth total share) := by
  refine ⟨proRata_eq_divisionByZero_iff, proRata_eq_overflow_iff, ?_⟩
  intro moderate
  have shared : ∃ share, proRata units depth total = .ok share := by
    by_cases none_claimed : units.val = 0
    · exact ⟨.zero, proRata_of_no_units none_claimed depth total⟩
    · exact
        exists_proRata_of_not_tooLarge (moderate none_claimed).1
          (moderate none_claimed).2
  obtain ⟨share, found⟩ := shared
  exact ⟨share, found, fairShare_of_proRata found⟩

end Checked

namespace Sample

/-- A natural number of at most 128 bits. -/
def whole (natural : ℕ) : WholeAmount :=
  Fin.ofNat _ natural

end Sample

/--
A quarter more than the largest coefficient can be shared out and a half more
cannot, although both shares have the same integral part.
-/
theorem Checked.proRata_fails_or_fair_sample :
    (∃ share,
      proRata (Sample.whole 1) (Sample.whole (2 ^ 98 - 3)) (Sample.whole 4) =
          .ok share ∧
        FairShare (Sample.whole 1) (Sample.whole (2 ^ 98 - 3))
          (Sample.whole 4) share) ∧
    proRata (Sample.whole 1) (Sample.whole (2 ^ 97 - 1)) (Sample.whole 2) =
      .error .overflow := by
  constructor
  · refine (proRata_fails_or_fair _ _ _).2.2 fun _ => ?_
    decide +kernel
  · refine (proRata_fails_or_fair _ _ _).2.1.mpr ?_
    decide +kernel

end LiquidityReturns
