import Mathlib
import LiquidityReturns.Proofs.Returns.Checked

namespace LiquidityReturns

/-!
# Sums that are never rounded

Decimal addition is not associative once a partial sum needs more digits than
a number has.  When all terms are multiples of one power of ten and their
magnitudes together fit a coefficient at that power, no partial sum in any
order is rounded, so every order gives the exact sum.
-/

/--
Terms that share a power of ten at which even the sum of their magnitudes fits
a coefficient.
-/
def ExactlySummable (terms : List ℚ) : Prop :=
  ∃ scale ≤ Decimal.maxScale,
    (∀ term ∈ terms,
      ∃ integer : ℤ, term = (integer : ℚ) / 10 ^ scale) ∧
      (terms.map fun term => |term|).sum ≤
        (Decimal.maxCoefficient : ℚ) / 10 ^ scale

namespace ExactlySummable

/--
Integers whose magnitudes together fit a coefficient are exactly summable.
-/
theorem of_integral
    {terms : List ℚ}
    (integral : ∀ term ∈ terms, term.den = 1)
    (bounded :
      (terms.map fun term => |term|).sum ≤ (Decimal.maxCoefficient : ℚ)) :
    ExactlySummable terms := by
  refine ⟨0, Nat.zero_le _, ?_, by simpa using bounded⟩
  intro term member
  have whole := Rat.coe_int_num_of_den_eq_one (integral term member)
  exact ⟨term.num, by simpa using whole.symm⟩

/-- The order of the terms does not matter. -/
theorem of_perm
    {terms reordered : List ℚ}
    (summable : ExactlySummable terms)
    (reorder : reordered.Perm terms) :
    ExactlySummable reordered := by
  obtain ⟨scale, scale_le, multiples, bounded⟩ := summable
  refine ⟨scale, scale_le, ?_, ?_⟩
  · intro term member
    exact multiples term (reorder.subset member)
  · rw [(reorder.map fun term => |term|).sum_eq]
    exact bounded

theorem cons_zero
    {terms : List ℚ}
    (summable : ExactlySummable terms) :
    ExactlySummable (0 :: terms) := by
  obtain ⟨scale, scale_le, multiples, bounded⟩ := summable
  refine ⟨scale, scale_le, ?_, by simpa using bounded⟩
  intro term member
  rcases List.mem_cons.mp member with rfl | later
  · exact ⟨0, by simp⟩
  · exact multiples term later

/-- Two terms may be replaced by their sum. -/
theorem add_first
    {first second : ℚ}
    {rest : List ℚ}
    (summable : ExactlySummable (first :: second :: rest)) :
    ExactlySummable ((first + second) :: rest) := by
  obtain ⟨scale, scale_le, multiples, bounded⟩ := summable
  refine ⟨scale, scale_le, ?_, ?_⟩
  · intro term member
    rcases List.mem_cons.mp member with rfl | later
    · obtain ⟨left, leftShape⟩ := multiples first (by simp)
      obtain ⟨right, rightShape⟩ := multiples second (by simp)
      refine ⟨left + right, ?_⟩
      rw [leftShape, rightShape]
      push_cast
      ring
    · exact multiples term (by simp [later])
  · simp only [List.map_cons, List.sum_cons] at bounded ⊢
    have triangle := abs_add_le first second
    linarith

/-- The second term may be negated. -/
theorem neg_second
    {first second : ℚ}
    {rest : List ℚ}
    (summable : ExactlySummable (first :: second :: rest)) :
    ExactlySummable (first :: -second :: rest) := by
  obtain ⟨scale, scale_le, multiples, bounded⟩ := summable
  refine ⟨scale, scale_le, ?_, by simpa using bounded⟩
  simp only [List.forall_mem_cons] at multiples ⊢
  obtain ⟨firstMultiple, ⟨integer, shape⟩, restMultiples⟩ := multiples
  refine ⟨firstMultiple, ⟨-integer, ?_⟩, restMultiples⟩
  rw [shape, Int.cast_neg, neg_div]

/-- Two terms may be replaced by their difference. -/
theorem sub_first
    {first second : ℚ}
    {rest : List ℚ}
    (summable : ExactlySummable (first :: second :: rest)) :
    ExactlySummable ((first - second) :: rest) := by
  rw [sub_eq_add_neg]
  exact summable.neg_second.add_first

/-- A decimal number represents the first term. -/
theorem nearest?_first
    {first : ℚ}
    {rest : List ℚ}
    (summable : ExactlySummable (first :: rest)) :
    ∃ number,
      Decimal.nearest? first = some number ∧ number.value = first := by
  obtain ⟨scale, scale_le, multiples, bounded⟩ := summable
  obtain ⟨integer, shape⟩ := multiples first (by simp)
  refine Decimal.nearest?_of_fits scale_le ?_ shape
  have power : (0 : ℚ) < 10 ^ scale := by
    positivity
  have others : 0 ≤ (rest.map fun term => |term|).sum :=
    List.sum_nonneg (by simp +contextual)
  simp only [List.map_cons, List.sum_cons] at bounded
  have scaled : |first| * 10 ^ scale ≤ Decimal.maxCoefficient := by
    rw [← le_div_iff₀ power]
    linarith
  have magnitude : |first| * 10 ^ scale = (integer.natAbs : ℚ) := by
    rw [shape, abs_div, abs_of_pos power, div_mul_cancel₀ _ power.ne',
      Nat.cast_natAbs, Int.cast_abs]
  rw [magnitude] at scaled
  exact_mod_cast scaled

/-- A sum of two terms is exact. -/
theorem add_eq_ok
    {left right : Decimal}
    {rest : List ℚ}
    (summable : ExactlySummable (left.value :: right.value :: rest)) :
    ∃ sum,
      Checked.add left right = .ok sum ∧
        sum.value = left.value + right.value := by
  obtain ⟨sum, found, value⟩ := summable.add_first.nearest?_first
  exact ⟨sum, Checked.add_eq_ok_iff.mpr found, value⟩

/-- A difference of two terms is exact. -/
theorem sub_eq_ok
    {left right : Decimal}
    {rest : List ℚ}
    (summable : ExactlySummable (left.value :: right.value :: rest)) :
    ∃ difference,
      Checked.sub left right = .ok difference ∧
        difference.value = left.value - right.value := by
  obtain ⟨difference, found, value⟩ := summable.sub_first.nearest?_first
  exact ⟨difference, Checked.sub_eq_ok_iff.mpr found, value⟩

end ExactlySummable

end LiquidityReturns
