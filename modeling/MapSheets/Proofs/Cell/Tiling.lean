import MapSheets.Cell.Parts
import MapSheets.Proofs.Number.Rational
import Mathlib.Tactic.Linarith
import Mathlib.Tactic.NormNum
import Mathlib.Tactic.Ring

/-
The parts of a cell tile it. A parent a quarter of a degree high and wider
than the least column is cut into ten rows of ten squares; `square` is the
square of a row and a column, both counted from zero, and the whole file
goes through it:

- `bounds_square`: in both modes the part `10 * row + column + 1` is bounded
  by that square, the tenth column with its borrowed number included, whether
  it is measured from the west (`bounds_westAligned`) or, from the second row
  on, at the east edge (`bounds_eastAligned`);
- `numberAt_eq`: a point is numbered by the same formula from its own row
  and column, so the wrap of the tenth column undoes itself;
- `holds_square_iff`: a square holds the points of its row and column.

A part of any other parent is still a row high and a column wide
(`spans_of_bounds`).

Row and column of a point are floors, so a square holds its north and its
west side. The last floors come out as ten on the south and on the east
border of the parent, which no part holds in this sense.
-/

namespace MapSheets

namespace PartBounds

/-- The half-open box: north and west side belong to it. -/
def Holds (b : PartBounds Rat) (p : LatLng Rat) : Prop :=
  (b.south < p.lat ∧ p.lat ≤ b.north) ∧ b.west ≤ p.lng ∧ p.lng < b.east

/-- The box lies inside the parent with the given corners. -/
def Inside (b : PartBounds Rat) (sw ne : LatLng Rat) : Prop :=
  (sw.lat ≤ b.south ∧ b.north ≤ ne.lat) ∧ sw.lng ≤ b.west ∧ b.east ≤ ne.lng

end PartBounds

namespace Parts

-- ================================================== the numbers of parts

section
variable {α : Type} [Scalar α] {sw ne : LatLng α} {row col : Int}

/-- Numbers below one mean the first part. -/
theorem bounds_max_one (mode : PartMode) (sw ne : LatLng α) (n : Int) :
    bounds mode sw ne (max n 1) = bounds mode sw ne n := by
  rcases le_total 1 n with hn | hn
  · rw [max_eq_left hn]
  · unfold bounds last
    rw [max_eq_right hn, max_self, if_neg (by decide), if_neg (by omega)]

/-- Counted from the west a part is the square of its row and column. -/
theorem bounds_westAligned (hrow : 0 ≤ row ∧ row ≤ 9) (hcol : 0 ≤ col ∧ col ≤ 9) :
    bounds .westAligned sw ne (10 * row + col + 1) = .ok (fromWest sw ne row (col + 1)) := by
  have hmax : max (10 * row + col + 1) 1 = 10 * row + col + 1 := by omega
  unfold bounds last
  rw [if_neg (by omega), hmax]
  dsimp only
  by_cases hlast : col = 9
  · -- the tenth column: the tens are those of the row below
    rw [if_pos (by omega), show (10 * row + col + 1) / 10 - 1 = row by omega, hlast]
    rfl
  · rw [if_neg (by omega), show (10 * row + col + 1) / 10 = row by omega,
      show (10 * row + col + 1) % 10 = col + 1 by omega]

/-- Aligned to the east a part is the last square of a row if it ends a row
other than the first, and is measured from the west otherwise. -/
theorem bounds_eastAligned (hrow : 0 ≤ row ∧ row ≤ 9) (hcol : 0 ≤ col ∧ col ≤ 9) :
    bounds .eastAligned sw ne (10 * row + col + 1)
      = .ok (if col = 9 ∧ row ≠ 0 then atEastEdge sw ne (row + 1)
          else fromWest sw ne row (col + 1)) := by
  have hmax : max (10 * row + col + 1) 1 = 10 * row + col + 1 := by omega
  unfold bounds last
  rw [if_neg (by omega), hmax]
  dsimp only
  by_cases hlast : col = 9 ∧ row ≠ 0
  · rw [if_pos hlast]
    obtain ⟨rfl, hfirst⟩ := hlast
    by_cases hend : row = 9
    · subst hend
      rfl
    · rw [if_neg (by omega), if_neg (by omega), if_pos (by omega),
        show (10 * row + 9 + 1) / 10 = row + 1 by omega]
  · rw [if_neg hlast, if_neg (by omega)]
    by_cases hfirst : row = 0
    · rw [if_pos (by omega), hfirst, mul_zero, zero_add]
    · rw [if_neg (by omega), if_neg (by omega), show (10 * row + col + 1) / 10 = row by omega,
        show (10 * row + col + 1) % 10 = col + 1 by omega]

/-- Every number of a part has a row and a column. -/
theorem exists_row_col {n : Int} (hn : 1 ≤ n ∧ n ≤ 100) :
    ∃ row col, (0 ≤ row ∧ row ≤ 9) ∧ (0 ≤ col ∧ col ≤ 9) ∧ n = 10 * row + col + 1 :=
  ⟨(n - 1) / 10, (n - 1) % 10, by omega, by omega, by omega⟩

end

variable {sw ne : LatLng Rat}

-- ============================================================ the squares

/-- The square of a row and a column, counted from zero. -/
def square (sw ne : LatLng Rat) (row col : Int) : PartBounds Rat where
  north := ne.lat - row / 40
  south := ne.lat - (row + 1) / 40
  west := sw.lng + col * ((ne.lng - sw.lng) / 10)
  east := sw.lng + (col + 1) * ((ne.lng - sw.lng) / 10)

/-- The row of a latitude, counted from the north edge. -/
def rowAt (ne p : LatLng Rat) : Int := ⌊(ne.lat - p.lat) * 40⌋

/-- The column of a longitude, counted from the west edge. -/
def columnAt (sw ne p : LatLng Rat) : Int := ⌊(p.lng - sw.lng) / ((ne.lng - sw.lng) / 10)⌋

theorem side_rat : (side : Rat) = 1 / 40 := by
  unfold side
  norm_num

/-- Columns are a tenth of the width of the parent, if that is more than the least. -/
theorem columnWidth_eq (h : sw.lng ≤ ne.lng) : columnWidth sw ne
    = if 1 / 40 < ne.lng - sw.lng then (ne.lng - sw.lng) / 10 else 1 / 40 := by
  have hspan : |sw.lng - ne.lng| = ne.lng - sw.lng := by
    rw [abs_sub_comm, abs_of_nonneg (sub_nonneg.mpr h)]
  unfold columnWidth
  rw [Scalar.magnitude_rat, hspan, side_rat]

/-- A wide parent has columns of a tenth of its width. -/
theorem columnWidth_of_wide (hw : 1 / 40 < ne.lng - sw.lng) :
    columnWidth sw ne = (ne.lng - sw.lng) / 10 := by
  rw [columnWidth_eq (by linarith), if_pos hw]

/-- A square measured from the west edge. -/
theorem fromWest_eq_square (hw : 1 / 40 < ne.lng - sw.lng) (row col : Int) :
    fromWest sw ne row (col + 1) = square sw ne row col := by
  unfold fromWest square side
  rw [columnWidth_of_wide hw]
  simp only [Scalar.ofInt_rat, Scalar.ratio_rat, PartBounds.mk.injEq]
  push_cast
  refine ⟨?_, ?_, ?_, ?_⟩ <;> ring

/-- The last square of a row, measured from the east edge under the number
of the row below. -/
theorem atEastEdge_eq_square (hw : 1 / 40 < ne.lng - sw.lng) (row : Int) :
    atEastEdge sw ne (row + 1) = square sw ne row 9 := by
  unfold atEastEdge square side
  rw [columnWidth_of_wide hw]
  simp only [Scalar.ofInt_rat, Scalar.ratio_rat, PartBounds.mk.injEq]
  push_cast
  refine ⟨?_, ?_, ?_, ?_⟩ <;> ring

/-- A part is the square of its row and column, in both modes. -/
theorem bounds_square (mode : PartMode) (hw : 1 / 40 < ne.lng - sw.lng) {row col : Int}
    (hrow : 0 ≤ row ∧ row ≤ 9) (hcol : 0 ≤ col ∧ col ≤ 9) :
    bounds mode sw ne (10 * row + col + 1) = .ok (square sw ne row col) := by
  cases mode with
  | westAligned => rw [bounds_westAligned hrow hcol, fromWest_eq_square hw]
  | eastAligned =>
      rw [bounds_eastAligned hrow hcol]
      split
      case isTrue hlast => rw [hlast.1, atEastEdge_eq_square hw]
      case isFalse => rw [fromWest_eq_square hw]

/-- A part is measured from one of the two sides, whatever the corners of the parent. -/
theorem measured_of_bounds {mode : PartMode} {n : Int} {b : PartBounds Rat}
    (h : bounds mode sw ne n = .ok b) :
    (∃ row col, b = fromWest sw ne row col) ∨ ∃ row, b = atEastEdge sw ne row := by
  unfold bounds at h
  split at h
  case isTrue => cases h
  case isFalse =>
    cases h
    cases mode with
    | westAligned =>
        dsimp only
        split
        · exact Or.inl ⟨_, _, rfl⟩
        · exact Or.inl ⟨_, _, rfl⟩
    | eastAligned =>
        dsimp only
        split_ifs
        · exact Or.inr ⟨_, rfl⟩
        · exact Or.inl ⟨_, _, rfl⟩
        · exact Or.inr ⟨_, rfl⟩
        · exact Or.inl ⟨_, _, rfl⟩

/-- Every part is a row high and a column wide. -/
theorem spans_of_bounds {mode : PartMode} {n : Int} {b : PartBounds Rat}
    (h : bounds mode sw ne n = .ok b) :
    b.north - b.south = side ∧ b.east - b.west = columnWidth sw ne := by
  rcases measured_of_bounds h with ⟨row, col, rfl⟩ | ⟨row, rfl⟩
  · exact ⟨sub_sub_cancel _ _, add_sub_cancel_left _ _⟩
  · exact ⟨sub_sub_cancel _ _, sub_sub_cancel _ _⟩

/-- Rows and columns have an extent. -/
theorem side_pos : (0 : Rat) < side := by
  rw [side_rat]
  norm_num

theorem columnWidth_pos (sw ne : LatLng Rat) : 0 < columnWidth sw ne := by
  have hside := side_pos
  unfold columnWidth
  dsimp only
  split
  case isTrue hwide => linarith
  case isFalse => exact hside

/-- A square of the ten rows and columns is a proper box inside the parent. -/
theorem square_inside (hh : ne.lat - sw.lat = 1 / 4) (hw : 1 / 40 < ne.lng - sw.lng)
    {row col : Int} (hrow : 0 ≤ row ∧ row ≤ 9) (hcol : 0 ≤ col ∧ col ≤ 9) :
    (square sw ne row col).south < (square sw ne row col).north
      ∧ (square sw ne row col).west < (square sw ne row col).east
      ∧ (square sw ne row col).Inside sw ne := by
  have hrow₀ : (0 : Rat) ≤ row := by exact_mod_cast hrow.1
  have hrow₉ : (row : Rat) ≤ 9 := by exact_mod_cast hrow.2
  have hcol₀ : (0 : Rat) ≤ col := by exact_mod_cast hcol.1
  have hcol₉ : (col : Rat) ≤ 9 := by exact_mod_cast hcol.2
  have hwest : 0 ≤ col * (ne.lng - sw.lng) := mul_nonneg hcol₀ (by linarith)
  have heast : col * (ne.lng - sw.lng) ≤ 9 * (ne.lng - sw.lng) :=
    mul_le_mul_of_nonneg_right hcol₉ (by linarith)
  unfold PartBounds.Inside square
  dsimp only
  refine ⟨?_, ?_, ⟨?_, ?_⟩, ?_, ?_⟩ <;> linarith

-- =========================================================== the points

/-- A square holds the points of its row and its column. -/
theorem holds_square_iff (hw : 1 / 40 < ne.lng - sw.lng) {row col : Int} {p : LatLng Rat} :
    (square sw ne row col).Holds p ↔ rowAt ne p = row ∧ columnAt sw ne p = col := by
  have hwidth : (0 : Rat) < (ne.lng - sw.lng) / 10 := by linarith
  unfold rowAt columnAt PartBounds.Holds square
  rw [Int.floor_eq_iff, Int.floor_eq_iff, le_div_iff₀ hwidth, div_lt_iff₀ hwidth]
  dsimp only
  refine and_congr ⟨fun h => ⟨?_, ?_⟩, fun h => ⟨?_, ?_⟩⟩ ⟨fun h => ⟨?_, ?_⟩, fun h => ⟨?_, ?_⟩⟩
    <;> linarith [h.1, h.2]

/-- The number of a point, from its row and column. It is the number of a
part where both are below ten, and follows the same formula elsewhere. -/
theorem numberAt_eq (hw : 1 / 40 < ne.lng - sw.lng) {p : LatLng Rat} (hlat : p.lat ≤ ne.lat)
    (hlng : sw.lng ≤ p.lng) :
    numberAt sw ne p = .ok (10 * rowAt ne p + columnAt sw ne p + 1) := by
  have hwidth : (0 : Rat) < (ne.lng - sw.lng) / 10 := by linarith
  have heast : Scalar.truncate? (Scalar.magnitude (sw.lng - p.lng) / columnWidth sw ne)
      = .ok (columnAt sw ne p) := by
    rw [columnWidth_of_wide hw, Scalar.magnitude_rat, abs_sub_comm,
      abs_of_nonneg (sub_nonneg.mpr hlng)]
    exact Scalar.truncate?_rat_of_nonneg (div_nonneg (sub_nonneg.mpr hlng) hwidth.le)
  have hsouth : Scalar.truncate? (Scalar.magnitude (ne.lat - p.lat) / side) = .ok (rowAt ne p) := by
    have hdiv : Scalar.magnitude (ne.lat - p.lat) / side = (ne.lat - p.lat) * 40 := by
      rw [Scalar.magnitude_rat, abs_of_nonneg (sub_nonneg.mpr hlat), side_rat]
      ring
    rw [hdiv]
    exact Scalar.truncate?_rat_of_nonneg (mul_nonneg (sub_nonneg.mpr hlat) (by norm_num))
  unfold numberAt
  dsimp only
  rw [heast, hsouth]
  show Except.ok _ = _
  congr 1
  split <;> omega

/-- The row of a point of the parent, off its south border. -/
theorem rowAt_range (hh : ne.lat - sw.lat = 1 / 4) {p : LatLng Rat} (hsouth : sw.lat < p.lat)
    (hnorth : p.lat ≤ ne.lat) : 0 ≤ rowAt ne p ∧ rowAt ne p ≤ 9 := by
  unfold rowAt
  constructor
  · exact Int.floor_nonneg.mpr (by linarith)
  · exact Int.lt_add_one_iff.mp (Int.floor_lt.mpr (by push_cast; linarith))

/-- The column of a point of the parent, off its east border. -/
theorem columnAt_range {p : LatLng Rat}
    (hwest : sw.lng ≤ p.lng) (heast : p.lng < ne.lng) :
    0 ≤ columnAt sw ne p ∧ columnAt sw ne p ≤ 9 := by
  have hwidth : (0 : Rat) < (ne.lng - sw.lng) / 10 := by linarith
  unfold columnAt
  constructor
  · exact Int.floor_nonneg.mpr (div_nonneg (by linarith) hwidth.le)
  · refine Int.lt_add_one_iff.mp (Int.floor_lt.mpr ?_)
    rw [div_lt_iff₀ hwidth]
    push_cast
    linarith

/-- On the south border the row is one too many. -/
theorem rowAt_southBorder (hh : ne.lat - sw.lat = 1 / 4) {p : LatLng Rat}
    (hsouth : p.lat = sw.lat) : rowAt ne p = 10 := by
  unfold rowAt
  rw [hsouth, hh]
  norm_num

/-- On the east border the column is one too many. -/
theorem columnAt_eastBorder (hw : 1 / 40 < ne.lng - sw.lng) {p : LatLng Rat}
    (heast : p.lng = ne.lng) : columnAt sw ne p = 10 := by
  have hspan : ne.lng - sw.lng ≠ 0 := by linarith
  unfold columnAt
  rw [heast, div_div_cancel₀ hspan]
  norm_num

-- =========================================================== the tiling

/-- Numbering and locating are inverse to each other, and the hundred parts
tile the parent: every part is a proper box inside it, and every point of it
off the south and the east border gets the number of the one part that holds
the point. -/
theorem parts_tile_parent (mode : PartMode) {sw ne : LatLng Rat} (hh : ne.lat - sw.lat = 1 / 4)
    (hw : 1 / 40 < ne.lng - sw.lng) :
    (∀ n : Int, 1 ≤ n → n ≤ 100 → ∃ b, bounds mode sw ne n = .ok b
        ∧ b.south < b.north ∧ b.west < b.east ∧ b.Inside sw ne)
    ∧ ∀ p : LatLng Rat, (sw.lat < p.lat ∧ p.lat ≤ ne.lat) → (sw.lng ≤ p.lng ∧ p.lng < ne.lng) →
        ∃ n, numberAt sw ne p = .ok n ∧ (1 ≤ n ∧ n ≤ 100)
          ∧ ∀ m : Int, 1 ≤ m → m ≤ 100 →
              ((∃ b, bounds mode sw ne m = .ok b ∧ b.Holds p) ↔ m = n) := by
  constructor
  · intro n hn₁ hn₂
    obtain ⟨row, col, hrow, hcol, rfl⟩ := exists_row_col ⟨hn₁, hn₂⟩
    exact ⟨_, bounds_square mode hw hrow hcol, square_inside hh hw hrow hcol⟩
  · intro p hlat hlng
    have hr := rowAt_range hh hlat.1 hlat.2
    have hc := columnAt_range hlng.1 hlng.2
    refine ⟨_, numberAt_eq hw hlat.2 hlng.1, by omega, ?_⟩
    intro m hm₁ hm₂
    obtain ⟨row, col, hrow, hcol, rfl⟩ := exists_row_col ⟨hm₁, hm₂⟩
    rw [bounds_square mode hw hrow hcol]
    constructor
    · rintro ⟨b, hb, hp⟩
      injection hb with hb
      subst hb
      obtain ⟨hpr, hpc⟩ := (holds_square_iff hw).mp hp
      omega
    · intro hm
      refine ⟨_, rfl, (holds_square_iff hw).mpr ?_⟩
      omega

/-- The tiling of a parent of half a degree, at a point of its last part. -/
theorem parts_tile_parent_half_degree :
    ∃ sw ne p : LatLng Rat,
      ne.lat - sw.lat = 1 / 4 ∧ 1 / 40 < ne.lng - sw.lng
      ∧ (∃ b, bounds .eastAligned sw ne 100 = .ok b ∧ b.Inside sw ne)
      ∧ ∃ n, numberAt sw ne p = .ok n
        ∧ ∀ m : Int, 1 ≤ m → m ≤ 100 →
            ((∃ b, bounds .eastAligned sw ne m = .ok b ∧ b.Holds p) ↔ m = n) := by
  have hh : (⟨229 / 4, 6⟩ : LatLng Rat).lat - (⟨57, 11 / 2⟩ : LatLng Rat).lat = 1 / 4 := by
    norm_num
  have hw : 1 / 40 < (⟨229 / 4, 6⟩ : LatLng Rat).lng - (⟨57, 11 / 2⟩ : LatLng Rat).lng := by
    norm_num
  obtain ⟨hparts, hpoints⟩ := parts_tile_parent .eastAligned hh hw
  obtain ⟨b, hb, -, -, hinside⟩ := hparts 100 (by decide) (by decide)
  obtain ⟨n, hn, -, hunique⟩ :=
    hpoints ⟨57001 / 1000, 5999 / 1000⟩ ⟨by norm_num, by norm_num⟩ ⟨by norm_num, by norm_num⟩
  exact ⟨_, _, _, hh, hw, ⟨b, hb, hinside⟩, n, hn, hunique⟩

end Parts

end MapSheets
