import MapSheets.Grating.Basic
import Mathlib.Algebra.BigOperators.Group.List.Basic
import Mathlib.Data.List.Nodup
import Mathlib.Data.Rat.Defs
import Mathlib.Tactic.Ring

/-
The counts of a grating. Rows and columns are counted up to a number that is not
below two nor above forty; a grating is made exactly where both counts are such
numbers, and refused otherwise (`ofBox_cases`). Everything that is made for each cell,
row or column is counted by them.
-/

namespace MapSheets.Grating

-- ================================================================== in range

theorem isCount_iff {n : Int} : isCount n = true ↔ 2 ≤ n ∧ n ≤ 40 := by
  unfold isCount fewest most
  rw [Bool.and_eq_true, decide_eq_true_eq, decide_eq_true_eq]

theorem isCount_nonneg {n : Int} (h : isCount n = true) : 0 ≤ n := by
  have hleast := (isCount_iff.mp h).1
  omega

theorem isCount_pos {n : Int} (h : isCount n = true) : (0 : Rat) < n := by
  have hleast := (isCount_iff.mp h).1
  exact_mod_cast (by omega : 0 < n)

-- ================================================================ counting up

theorem mem_below {n i : Int} : i ∈ below n ↔ 0 ≤ i ∧ i < n := by
  unfold below
  rw [List.mem_map]
  constructor
  · rintro ⟨k, hk, rfl⟩
    have hlt := List.mem_range.mp hk
    omega
  · intro h
    exact ⟨i.toNat, List.mem_range.mpr (by omega), by omega⟩

theorem nodup_below (n : Int) : (below n).Nodup :=
  List.nodup_range.map fun _ _ h => Int.ofNat.inj h

theorem length_below (n : Int) : (below n).length = n.toNat := by
  unfold below
  rw [List.length_map, List.length_range]

/-- One entry for every cell, column by column. -/
theorem length_cellwise {γ : Type} {rows cols : Int} (hrows : 0 ≤ rows) (hcols : 0 ≤ cols)
    (entry : Int → Int → γ) :
    (((below cols).flatMap fun col => (below rows).map (entry col)).length : Int) = rows * cols := by
  have hcells : ((below cols).flatMap fun col => (below rows).map (entry col)).length
      = cols.toNat * rows.toNat := by
    rw [List.length_flatMap]
    simp only [List.length_map, length_below, List.map_const', List.sum_replicate_nat]
  rw [hcells, Int.natCast_mul, Int.toNat_of_nonneg hrows, Int.toNat_of_nonneg hcols]
  ring

-- ==================================================================== making

section

variable {α : Type} [Scalar α] {rows cols : Int}

/-- The grating of a box, where its counts are in range. -/
theorem ofBox_eq (x y width height : α) (hrows : isCount rows = true) (hcols : isCount cols = true)
    (flipY flipYLabel : Bool) :
    ofBox x y width height rows cols flipY flipYLabel = .ok
      { rows, cols, minX := x, maxX := x + width
        minY := if flipY then y + height else y
        maxY := if flipY then y else y + height
        width := width / Scalar.ofInt cols, height := height / Scalar.ofInt rows
        flipY, flipYLabel } := by
  unfold ofBox
  rw [hrows, hcols]
  rfl

/-- A grating is made if both counts are in range, and otherwise one of them is refused. -/
theorem ofBox_cases (x y width height : α) (rows cols : Int) (flipY flipYLabel : Bool) :
    ((isCount rows = true ∧ isCount cols = true)
        ∧ ∃ g, ofBox x y width height rows cols flipY flipYLabel = .ok g)
      ∨ ¬(isCount rows = true ∧ isCount cols = true)
        ∧ ∃ e, ofBox x y width height rows cols flipY flipYLabel = .error e
          ∧ e.family = .grating := by
  unfold ofBox
  cases isCount rows with
  | false => exact Or.inr ⟨fun h => Bool.false_ne_true h.1, _, rfl, rfl⟩
  | true => cases isCount cols with
    | false => exact Or.inr ⟨fun h => Bool.false_ne_true h.2, _, rfl, rfl⟩
    | true => exact Or.inl ⟨⟨rfl, rfl⟩, _, rfl⟩

end

end MapSheets.Grating
