import MapSheets.Proofs.Cell.Tiling

/-
Where the two modes put the last column. Measured from the west, the tenth
column of a parent ends ten widths from the west edge; aligned to the east,
it ends at the east edge. The two are one place exactly if ten columns fill
the parent (`tenColumns_iff`), and a parent is filled by its columns exactly
if it is wider than the least of them.

The last part of the first row is the odd one. Its number is also a column
of the first row, and both modes measure it from the west
(`bounds_eastAligned`). So on a narrow parent the modes agree on that part
and differ on those that end a later row (`modes_agree_iff`), and the part is
not below the others of its column (`eastAligned_lastColumn_iff`).
-/

namespace MapSheets.Parts

variable {sw ne : LatLng Rat}

/-- The parts that end a row other than the first: 20, 30 and so on to 100. -/
def EndsLaterRow (n : Int) : Prop := 20 ≤ n ∧ 10 ∣ n

-- ======================================================== the last column

/-- Ten columns fill the parent if and only if it is wider than the least column. -/
theorem tenColumns_iff (h : sw.lng < ne.lng) :
    sw.lng + 10 * columnWidth sw ne = ne.lng ↔ 1 / 40 < ne.lng - sw.lng := by
  rw [columnWidth_eq h.le]
  split
  case isTrue hwide => exact iff_of_true (by ring) hwide
  case isFalse hnarrow => exact iff_of_false (fun hfill => hnarrow (by linarith)) hnarrow

/-- The tenth square of a row, measured from the west. -/
theorem fromWest_ten (sw ne : LatLng Rat) (row : Int) :
    (fromWest sw ne row 10).west = sw.lng + 10 * columnWidth sw ne - columnWidth sw ne
      ∧ (fromWest sw ne row 10).east = sw.lng + 10 * columnWidth sw ne := by
  unfold fromWest
  simp only [Scalar.ofInt_rat]
  push_cast
  constructor <;> ring

/-- From either side the last square of a row is in the same row. -/
theorem atEastEdge_row (sw ne : LatLng Rat) (row : Int) :
    (atEastEdge sw ne (row + 1)).north = (fromWest sw ne row 10).north
      ∧ (atEastEdge sw ne (row + 1)).south = (fromWest sw ne row 10).south := by
  unfold atEastEdge fromWest
  simp only [Scalar.ofInt_rat]
  push_cast
  constructor <;> ring

/-- The square that the west measures lies at the east edge if and only if ten
columns fill the parent. -/
theorem fromWest_ten_iff (h : sw.lng < ne.lng) (row : Int) :
    (fromWest sw ne row 10).west = ne.lng - columnWidth sw ne ∧ (fromWest sw ne row 10).east = ne.lng
      ↔ 1 / 40 < ne.lng - sw.lng := by
  rw [(fromWest_ten sw ne row).1, (fromWest_ten sw ne row).2, sub_left_inj, and_self,
    tenColumns_iff h]

-- ============================================================== the modes

/-- A number up to a hundred stands for a row and a column, and it ends a later
row if the column is the last and the row is not the first. -/
theorem exists_place {n : Int} (hn : n ≤ 100) :
    ∃ row col, (0 ≤ row ∧ row ≤ 9) ∧ (0 ≤ col ∧ col ≤ 9) ∧ max n 1 = 10 * row + col + 1
      ∧ (EndsLaterRow n ↔ col = 9 ∧ row ≠ 0) := by
  obtain ⟨row, col, hrow, hcol, hplace⟩ := exists_row_col (n := max n 1) (by omega)
  refine ⟨row, col, hrow, hcol, hplace, ?_⟩
  unfold EndsLaterRow
  omega

/-- What the modes make of one number: the same row, and the same column unless
the part ends a later row of a narrow parent. -/
theorem exists_bounds (h : sw.lng < ne.lng) {n : Int} (hn : n ≤ 100) :
    ∃ b c, bounds .eastAligned sw ne n = .ok b ∧ bounds .westAligned sw ne n = .ok c
      ∧ (b.north = c.north ∧ b.south = c.south)
      ∧ (b.west = c.west ∧ b.east = c.east ↔ ¬EndsLaterRow n ∨ 1 / 40 < ne.lng - sw.lng) := by
  obtain ⟨row, col, hrow, hcol, hplace, hends⟩ := exists_place hn
  rw [← bounds_max_one .eastAligned, ← bounds_max_one .westAligned, hplace,
    bounds_eastAligned hrow hcol, bounds_westAligned hrow hcol]
  refine ⟨_, _, rfl, rfl, ?_⟩
  by_cases hlast : col = 9 ∧ row ≠ 0
  · rw [if_pos hlast, hlast.1]
    refine ⟨atEastEdge_row sw ne row, ?_⟩
    rw [← fromWest_ten_iff h row]
    constructor
    · rintro ⟨hwest, heast⟩
      exact Or.inr ⟨hwest.symm, heast.symm⟩
    · rintro (hnot | ⟨hwest, heast⟩)
      · exact absurd (hends.mpr hlast) hnot
      · exact ⟨hwest.symm, heast.symm⟩
  · rw [if_neg hlast]
    exact ⟨⟨rfl, rfl⟩, iff_of_true ⟨rfl, rfl⟩ (Or.inl (mt hends.mp hlast))⟩

/-- The modes put every part into the same row; they put it into the same
column unless it ends a later row and the parent is narrow. So they agree on
all parts exactly if the parent is wider than the least column. Numbers below
one mean the first part in both. -/
theorem modes_agree_iff (h : sw.lng < ne.lng) :
    (∀ n : Int, n ≤ 100 → ∃ b c,
        bounds .eastAligned sw ne n = .ok b ∧ bounds .westAligned sw ne n = .ok c
        ∧ (b.north = c.north ∧ b.south = c.south)
        ∧ (b.west = c.west ∧ b.east = c.east ↔ ¬EndsLaterRow n ∨ 1 / 40 < ne.lng - sw.lng))
    ∧ (∀ mode, ∀ n : Int, n < 1 → bounds mode sw ne n = bounds mode sw ne 1)
    ∧ ((∀ n : Int, n ≤ 100 → bounds .eastAligned sw ne n = bounds .westAligned sw ne n)
        ↔ 1 / 40 < ne.lng - sw.lng) := by
  refine ⟨fun n hn => exists_bounds h hn, fun mode n hn => ?_, fun hagree => ?_, fun hwide n hn => ?_⟩
  · rw [← bounds_max_one, max_eq_right hn.le]
  · -- a part that ends a later row tells the modes apart
    obtain ⟨b, c, hb, hc, -, hcolumn⟩ := exists_bounds h (n := 20) (by decide)
    rw [hagree 20 (by decide), hc] at hb
    cases hb
    exact (hcolumn.mp ⟨rfl, rfl⟩).resolve_left (not_not.mpr ⟨by decide, by decide⟩)
  · obtain ⟨b, c, hb, hc, hrow, hcolumn⟩ := exists_bounds h hn
    obtain ⟨hwest, heast⟩ := hcolumn.mpr (Or.inr hwide)
    rw [hb, hc, Except.ok.injEq, PartBounds.mk.injEq]
    exact ⟨hrow.1, hrow.2, hwest, heast⟩

/-- A parent of a fiftieth of a degree: the modes agree on the part that ends
its first row and not on the one that ends its second. -/
theorem modes_agree_iff_narrow :
    ∃ sw ne : LatLng Rat, sw.lng < ne.lng
      ∧ (∃ b c, bounds .eastAligned sw ne 10 = .ok b ∧ bounds .westAligned sw ne 10 = .ok c
        ∧ b.west = c.west ∧ b.east = c.east)
      ∧ (∃ b c, bounds .eastAligned sw ne 20 = .ok b ∧ bounds .westAligned sw ne 20 = .ok c
        ∧ ¬(b.west = c.west ∧ b.east = c.east))
      ∧ ¬∀ n : Int, n ≤ 100 → bounds .eastAligned sw ne n = bounds .westAligned sw ne n := by
  have h : (⟨0, 0⟩ : LatLng Rat).lng < (⟨1 / 4, 1 / 50⟩ : LatLng Rat).lng := by norm_num
  have hnarrow : ¬(1 / 40 < (⟨1 / 4, 1 / 50⟩ : LatLng Rat).lng - (⟨0, 0⟩ : LatLng Rat).lng) := by
    norm_num
  obtain ⟨hparts, -, hall⟩ := modes_agree_iff h
  obtain ⟨b, c, hb, hc, -, hfirst⟩ := hparts 10 (by decide)
  obtain ⟨b', c', hb', hc', -, hsecond⟩ := hparts 20 (by decide)
  refine ⟨_, _, h, ⟨b, c, hb, hc, hfirst.mpr (Or.inl (by unfold EndsLaterRow; decide))⟩,
    ⟨b', c', hb', hc', fun hsame => ?_⟩, fun hagree => hnarrow (hall.mp hagree)⟩
  rcases hsecond.mp hsame with hnot | hwide
  · exact hnot ⟨by decide, by decide⟩
  · exact hnarrow hwide

-- ================================================== the last column's place

/-- A part that ends a row is at the east edge, or is the tenth of the first row. -/
theorem bounds_lastColumn (sw ne : LatLng Rat) {row : Int} (hrow : 0 ≤ row ∧ row ≤ 9) :
    bounds .eastAligned sw ne (10 * (row + 1))
      = .ok (if row = 0 then fromWest sw ne 0 10 else atEastEdge sw ne (row + 1)) := by
  rw [show 10 * (row + 1) = 10 * row + 9 + 1 by ring, bounds_eastAligned hrow (by decide)]
  by_cases hfirst : row = 0
  · rw [if_neg fun h => h.2 hfirst, if_pos hfirst, hfirst]
    rfl
  · rw [if_pos ⟨rfl, hfirst⟩, if_neg hfirst]

/-- A part that ends a row is at the east edge unless the row is the first and
the parent is narrow. -/
theorem exists_lastColumn (h : sw.lng < ne.lng) (row : Int) (hrow : 0 ≤ row ∧ row ≤ 9) :
    ∃ b, bounds .eastAligned sw ne (10 * (row + 1)) = .ok b
      ∧ (b.west = ne.lng - columnWidth sw ne ∧ b.east = ne.lng
        ↔ row ≠ 0 ∨ 1 / 40 < ne.lng - sw.lng) := by
  refine ⟨_, bounds_lastColumn sw ne hrow, ?_⟩
  by_cases hfirst : row = 0
  · rw [if_pos hfirst, fromWest_ten_iff h, or_iff_right (not_not.mpr hfirst)]
  · rw [if_neg hfirst]
    exact iff_of_true ⟨rfl, rfl⟩ (Or.inl hfirst)

/-- Aligned to the east, the last part of every row but the first is one width
wide at the east edge. That of the first row ends ten widths from the west
edge, which is the east edge exactly if the parent is wider than the least
column. So the last parts of all rows are one below the other in such a parent
and in no other. -/
theorem eastAligned_lastColumn_iff (h : sw.lng < ne.lng) :
    (∀ row : Int, 0 ≤ row ∧ row ≤ 9 → ∃ b, bounds .eastAligned sw ne (10 * (row + 1)) = .ok b
        ∧ (b.west = ne.lng - columnWidth sw ne ∧ b.east = ne.lng
          ↔ row ≠ 0 ∨ 1 / 40 < ne.lng - sw.lng))
    ∧ (∃ b, bounds .eastAligned sw ne 10 = .ok b
        ∧ b.west = sw.lng + 10 * columnWidth sw ne - columnWidth sw ne
        ∧ b.east = sw.lng + 10 * columnWidth sw ne)
    ∧ ((∃ west east, ∀ row : Int, 0 ≤ row ∧ row ≤ 9 →
          ∃ b, bounds .eastAligned sw ne (10 * (row + 1)) = .ok b ∧ b.west = west ∧ b.east = east)
        ↔ 1 / 40 < ne.lng - sw.lng) := by
  refine ⟨exists_lastColumn h, ?_, ?_, fun hwide => ?_⟩
  · exact ⟨_, bounds_lastColumn sw ne ⟨le_refl 0, by decide⟩, fromWest_ten sw ne 0⟩
  · -- the last parts of the first two rows decide
    rintro ⟨west, east, hall⟩
    obtain ⟨b, hb, rfl, rfl⟩ := hall 0 (by decide)
    obtain ⟨b', hb', hwest, heast⟩ := hall 1 (by decide)
    obtain ⟨c, hc, hfirst⟩ := exists_lastColumn h 0 (by decide)
    obtain ⟨c', hc', hsecond⟩ := exists_lastColumn h 1 (by decide)
    rw [hb] at hc
    rw [hb'] at hc'
    cases hc
    cases hc'
    rw [hwest, heast] at hsecond
    exact (hfirst.mp (hsecond.mpr (Or.inl (by decide)))).resolve_left (not_not.mpr rfl)
  · refine ⟨ne.lng - columnWidth sw ne, ne.lng, fun row hrow => ?_⟩
    obtain ⟨b, hb, hplace⟩ := exists_lastColumn h row hrow
    exact ⟨b, hb, hplace.mpr (Or.inr hwide)⟩

/-- In a parent of a fiftieth of a degree the last part of the first row is off
the east edge, and that of the last row is at it. -/
theorem eastAligned_lastColumn_narrow :
    ∃ sw ne : LatLng Rat, sw.lng < ne.lng
      ∧ (∃ b, bounds .eastAligned sw ne 10 = .ok b
        ∧ ¬(b.west = ne.lng - columnWidth sw ne ∧ b.east = ne.lng))
      ∧ ∃ b, bounds .eastAligned sw ne 100 = .ok b
        ∧ b.west = ne.lng - columnWidth sw ne ∧ b.east = ne.lng := by
  have h : (⟨0, 0⟩ : LatLng Rat).lng < (⟨1 / 4, 1 / 50⟩ : LatLng Rat).lng := by norm_num
  obtain ⟨hrows, -, -⟩ := eastAligned_lastColumn_iff h
  obtain ⟨b, hb, hfirst⟩ := hrows 0 (by decide)
  obtain ⟨b', hb', hlast⟩ := hrows 9 (by decide)
  refine ⟨_, _, h, ⟨b, hb, fun hplace => ?_⟩, b', hb', hlast.mpr (Or.inl (by decide))⟩
  rcases hfirst.mp hplace with hrow | hwide
  · exact hrow rfl
  · norm_num at hwide

end MapSheets.Parts
