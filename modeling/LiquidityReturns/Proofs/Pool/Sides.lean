import Mathlib
import LiquidityReturns.Pool.State
import LiquidityReturns.Proofs.Text.Trim

namespace LiquidityReturns

/-!
# The addresses on both sides of a position

A position has a side for the base asset and a side for the pool's own asset.
The queried address stands for the side that its beginning shows, whatever is
recorded there, and the member's record gives the address of the other side.
The selected addresses are those of both sides that are not blank, each once
and the base-asset side first.  These laws leave only one list.
-/

/-- A side of a pool: its base asset or its own asset. -/
inductive PoolSide where
  | rune
  | asset
  deriving Repr, DecidableEq

namespace PoolSide

/-- The other side. -/
def opposite : PoolSide → PoolSide
  | .rune =>
      .asset
  | .asset =>
      .rune

theorem opposite_ne (side : PoolSide) : side.opposite ≠ side := by
  cases side <;> decide

theorem eq_opposite_of_ne
    {side other : PoolSide}
    (differ : side ≠ other) :
    side = other.opposite := by
  cases side with
  | rune =>
      cases other with
      | rune =>
          exact absurd rfl differ
      | asset =>
          rfl
  | asset =>
      cases other with
      | rune =>
          rfl
      | asset =>
          exact absurd rfl differ

end PoolSide

namespace Address

/-- Something is left of an address without the blanks around it. -/
def Visible (address : Address) : Prop :=
  Text.trim address.text ≠ ""

/-- An address begins as those on the base-asset side do. -/
def Marked (address : Address) : Prop :=
  ∃ rest, address.text = "thor" ++ rest

theorem isBlank_eq_false_iff {address : Address} :
    address.isBlank = false ↔ address.Visible := by
  unfold Visible isBlank
  rw [ne_eq, Text.trim_eq_empty_iff, Bool.not_eq_true]

theorem isRuneSide_iff {address : Address} :
    address.isRuneSide = true ↔ address.Marked := by
  unfold isRuneSide Marked
  rw [List.isPrefixOf_iff_prefix]
  constructor
  · rintro ⟨rest, found⟩
    refine ⟨String.ofList rest, ?_⟩
    apply String.toList_inj.mp
    rw [String.toList_append, String.toList_ofList (l := rest)]
    exact found.symm
  · rintro ⟨rest, found⟩
    refine ⟨rest.toList, ?_⟩
    rw [found, String.toList_append]
    rfl

instance (address : Address) : Decidable address.Visible :=
  decidable_of_iff _ isBlank_eq_false_iff

instance (address : Address) : Decidable address.Marked :=
  decidable_of_iff _ isRuneSide_iff

/-- The mark of the base-asset side is not blank. -/
theorem Marked.visible
    {address : Address}
    (marked : address.Marked) :
    address.Visible := by
  obtain ⟨rest, found⟩ := marked
  rw [← isBlank_eq_false_iff]
  unfold isBlank Text.isAllBlank
  rw [found, String.toList_append, List.all_append]
  rfl

/-- The side that the beginning of an address shows. -/
def side (address : Address) : PoolSide :=
  if address.Marked then .rune else .asset

theorem side_of_marked
    {address : Address}
    (marked : address.Marked) :
    address.side = .rune :=
  if_pos marked

theorem side_of_not_marked
    {address : Address}
    (unmarked : ¬ address.Marked) :
    address.side = .asset :=
  if_neg unmarked

end Address

namespace MemberPool

/-- The address that a member's record gives for a side. -/
def recorded (member : MemberPool) : PoolSide → Option Address
  | .rune =>
      member.runeAddress
  | .asset =>
      member.assetAddress

/--
The address of a side: the queried address on its own side, and the recorded
one on the other.
-/
def addressOn
    (member : MemberPool)
    (queried : Address)
    (side : PoolSide) :
    Option Address :=
  if side = queried.side then some queried else member.recorded side

/--
What holds of the addresses that are selected for a queried one.  The address
of the opposite side is the recorded one; the queried address may be recorded
there as well, and is then selected once.
-/
structure Selects
    (member : MemberPool)
    (queried : Address)
    (selected : List Address) : Prop where
  at_most_two : selected.length ≤ 2
  distinct : selected.Nodup
  visible : ∀ address ∈ selected, address.Visible
  queried_iff : queried ∈ selected ↔ queried.Visible
  other_recorded :
    ∀ address ∈ selected,
      address ≠ queried →
        member.recorded queried.side.opposite = some address
  opposite_selected :
    ∀ address,
      member.recorded queried.side.opposite = some address →
        address.Visible →
          address ∈ selected
  rune_first :
    ∀ first second,
      selected = [first, second] →
        member.addressOn queried .rune = some first ∧
          member.addressOn queried .asset = some second

variable
  {member : MemberPool}
  {queried address : Address}
  {selected : List Address}

/--
The queried address is on its own side and the recorded one on the opposite
side.
-/
theorem exists_addressOn_iff :
    (∃ side, member.addressOn queried side = some address) ↔
      address = queried ∨
        member.recorded queried.side.opposite = some address := by
  unfold addressOn
  constructor
  · rintro ⟨side, found⟩
    by_cases own : side = queried.side
    · rw [if_pos own, Option.some.injEq] at found
      exact .inl found.symm
    · rw [if_neg own, PoolSide.eq_opposite_of_ne own] at found
      exact .inr found
  · rintro (rfl | found)
    · exact ⟨address.side, if_pos rfl⟩
    · refine ⟨queried.side.opposite, ?_⟩
      rw [if_neg queried.side.opposite_ne]
      exact found

/-- The sides of a position hold the addresses on them. -/
theorem sides_eq (member : MemberPool) (queried : Address) :
    member.sides queried =
      (member.addressOn queried .rune, member.addressOn queried .asset) := by
  unfold sides addressOn
  by_cases marked : queried.Marked
  · rw [if_pos (Address.isRuneSide_iff.mpr marked),
      Address.side_of_marked marked]
    rfl
  · rw [if_neg (mt Address.isRuneSide_iff.mp marked),
      Address.side_of_not_marked marked]
    rfl

/-- An address is kept exactly when it is not blank. -/
theorem unlessBlank_eq (found : Option Address) :
    unlessBlank found =
      found.toList.filter fun address => !address.isBlank := by
  cases found with
  | none =>
      rfl
  | some address =>
      cases blank : address.isBlank <;> simp [unlessBlank, blank]

theorem unlessBlank_of_visible (visible : address.Visible) :
    unlessBlank (some address) = [address] := by
  rw [unlessBlank_eq, Option.toList_some, List.filter_singleton,
    Address.isBlank_eq_false_iff.mpr visible]
  rfl

theorem mem_unlessBlank {found : Option Address} :
    address ∈ unlessBlank found ↔
      found = some address ∧ address.Visible := by
  rw [unlessBlank_eq, List.mem_filter, Option.mem_toList,
    Bool.not_eq_true', Address.isBlank_eq_false_iff]

theorem length_unlessBlank_le (found : Option Address) :
    (unlessBlank found).length ≤ 1 := by
  rw [unlessBlank_eq]
  exact (List.length_filter_le _ _).trans Option.length_toList_le

theorem nodup_unlessBlank (found : Option Address) :
    (unlessBlank found).Nodup := by
  rw [unlessBlank_eq]
  exact (Option.toList_nodup found).filter _

/--
The selected addresses are those of both sides, the base-asset side first.
-/
theorem actionAddresses_eq (member : MemberPool) (queried : Address) :
    member.actionAddresses queried =
      unlessBlank (member.addressOn queried .rune) ++
        (unlessBlank (member.addressOn queried .asset)).filter fun address =>
          !(unlessBlank (member.addressOn queried .rune)).contains
            address := by
  unfold actionAddresses
  rw [sides_eq]

/-- An address is selected exactly when it is on a side and not blank. -/
theorem mem_actionAddresses_iff :
    address ∈ member.actionAddresses queried ↔
      (address = queried ∨
        member.recorded queried.side.opposite = some address) ∧
        address.Visible := by
  rw [← exists_addressOn_iff, actionAddresses_eq, List.mem_append,
    List.mem_filter]
  simp only [mem_unlessBlank, Bool.not_eq_true', List.contains_eq_mem,
    decide_eq_false_iff_not]
  constructor
  · rintro (⟨found, visible⟩ | ⟨⟨found, visible⟩, _⟩)
    · exact ⟨⟨.rune, found⟩, visible⟩
    · exact ⟨⟨.asset, found⟩, visible⟩
  · rintro ⟨⟨side, found⟩, visible⟩
    by_cases onRune : member.addressOn queried .rune = some address
    · exact .inl ⟨onRune, visible⟩
    · cases side with
      | rune =>
          exact absurd found onRune
      | asset =>
          exact .inr ⟨⟨found, visible⟩, fun again => onRune again.1⟩

/-- The address of a side is not repeated when it is also on the other side. -/
theorem nodup_actionAddresses (member : MemberPool) (queried : Address) :
    (member.actionAddresses queried).Nodup := by
  rw [actionAddresses_eq, List.nodup_append]
  refine ⟨nodup_unlessBlank _, (nodup_unlessBlank _).filter _, ?_⟩
  rintro address earlier _ later rfl
  have fresh := (List.mem_filter.mp later).2
  simp [earlier] at fresh

theorem length_actionAddresses_le (member : MemberPool) (queried : Address) :
    (member.actionAddresses queried).length ≤ 2 := by
  rw [actionAddresses_eq, List.length_append]
  exact Nat.add_le_add (length_unlessBlank_le _)
    ((List.length_filter_le _ _).trans (length_unlessBlank_le _))

/--
Of two selected addresses the first is on the base-asset side and the second on
the other.
-/
theorem addressOn_of_actionAddresses_pair
    {first second : Address}
    (pair : member.actionAddresses queried = [first, second]) :
    member.addressOn queried .rune = some first ∧
      member.addressOn queried .asset = some second := by
  rw [actionAddresses_eq, ← List.singleton_append] at pair
  -- Each side gives one address at most, so that two are one from each side.
  have total := congrArg List.length pair
  rw [List.length_append, List.length_append, List.length_singleton,
    List.length_singleton] at total
  have runeSide := length_unlessBlank_le (member.addressOn queried .rune)
  have assetSide :=
    (List.length_filter_le
      (fun address =>
        !(unlessBlank (member.addressOn queried .rune)).contains address)
      (unlessBlank (member.addressOn queried .asset))).trans
      (length_unlessBlank_le _)
  obtain ⟨front, back⟩ :=
    List.append_inj pair (by rw [List.length_singleton]; omega)
  constructor
  · exact (mem_unlessBlank.mp (front ▸ List.mem_singleton_self first)).1
  · have member := List.mem_filter.mp (back ▸ List.mem_singleton_self second)
    exact (mem_unlessBlank.mp member.1).1

/-- The selected addresses obey the laws. -/
theorem selects_actionAddresses (member : MemberPool) (queried : Address) :
    member.Selects queried (member.actionAddresses queried) where
  at_most_two := length_actionAddresses_le member queried
  distinct := nodup_actionAddresses member queried
  visible _ selected := (mem_actionAddresses_iff.mp selected).2
  queried_iff :=
    mem_actionAddresses_iff.trans (and_iff_right (.inl rfl))
  other_recorded _ selected differs :=
    (mem_actionAddresses_iff.mp selected).1.resolve_left differs
  opposite_selected _ found visible :=
    mem_actionAddresses_iff.mpr ⟨.inr found, visible⟩
  rune_first _ _ := addressOn_of_actionAddresses_pair

namespace Selects

/-- The laws tell which addresses are selected. -/
theorem mem_iff (laws : member.Selects queried selected) :
    address ∈ selected ↔
      (address = queried ∨
        member.recorded queried.side.opposite = some address) ∧
        address.Visible := by
  constructor
  · intro chosen
    refine ⟨?_, laws.visible address chosen⟩
    by_cases same : address = queried
    · exact .inl same
    · exact .inr (laws.other_recorded address chosen same)
  · rintro ⟨rfl | found, visible⟩
    · exact laws.queried_iff.mpr visible
    · exact laws.opposite_selected address found visible

/-- The laws tell the order of the selected addresses. -/
theorem pairwise (laws : member.Selects queried selected) :
    selected.Pairwise fun earlier later =>
      member.addressOn queried .rune = some earlier ∧
        member.addressOn queried .asset = some later := by
  have short := laws.at_most_two
  have ordered := laws.rune_first
  rcases selected with _ | ⟨first, _ | ⟨second, _ | ⟨third, rest⟩⟩⟩
  · exact .nil
  · exact List.pairwise_singleton _ _
  · exact List.pairwise_pair.mpr (ordered first second rfl)
  · simp only [List.length_cons] at short
    omega

/-- The laws leave only one list. -/
theorem eq_actionAddresses (laws : member.Selects queried selected) :
    selected = member.actionAddresses queried := by
  have others := selects_actionAddresses member queried
  apply List.Perm.eq_of_pairwise ?_ laws.pairwise others.pairwise
  · apply (List.perm_ext_iff_of_nodup laws.distinct others.distinct).mpr
    intro address
    rw [laws.mem_iff, others.mem_iff]
  · intro first second _ _ before after
    exact Option.some.inj (before.1.symm.trans after.1)

end Selects

/--
A member whose record has a marked address on the base-asset side and another
visible one on the other.
-/
structure RecordsBoth
    (member : MemberPool)
    (rune asset : Address) : Prop where
  rune_recorded : member.runeAddress = some rune
  rune_marked : rune.Marked
  asset_recorded : member.assetAddress = some asset
  asset_visible : asset.Visible
  asset_unmarked : ¬ asset.Marked

namespace RecordsBoth

variable {rune asset : Address}

/-- From either recorded address both sides hold the recorded addresses. -/
theorem addressOn_eq
    (both : member.RecordsBoth rune asset)
    (own : queried = rune ∨ queried = asset) :
    member.addressOn queried .rune = some rune ∧
      member.addressOn queried .asset = some asset := by
  unfold addressOn
  rcases own with rfl | rfl
  · rw [Address.side_of_marked both.rune_marked]
    exact ⟨rfl, both.asset_recorded⟩
  · rw [Address.side_of_not_marked both.asset_unmarked]
    exact ⟨both.rune_recorded, rfl⟩

/-- From either recorded address both recorded addresses are selected. -/
theorem actionAddresses_eq
    (both : member.RecordsBoth rune asset)
    (own : queried = rune ∨ queried = asset) :
    member.actionAddresses queried = [rune, asset] := by
  have differ : asset ≠ rune := by
    rintro rfl
    exact both.asset_unmarked both.rune_marked
  obtain ⟨onRune, onAsset⟩ := both.addressOn_eq own
  rw [MemberPool.actionAddresses_eq, onRune, onAsset,
    unlessBlank_of_visible both.rune_marked.visible,
    unlessBlank_of_visible both.asset_visible]
  simp [differ]

end RecordsBoth

end MemberPool

end LiquidityReturns
