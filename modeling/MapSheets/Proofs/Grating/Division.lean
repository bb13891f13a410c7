import MapSheets.Grating.Features
import MapSheets.Proofs.Grating.Cells

/-
The near-square division of a box over exact quantities. The longer side is divided
into as many parts as asked, and the shorter side into as many whole parts of that
length as it holds, one at least (`cells`). A box that is wide and one that is tall
are divided alike with their sides exchanged, so all inequalities are about `cells`.

The arithmetic opens the division in one place (`squarish_eq`). Whatever comes out of
it tiles the box (`tiles_of_squarish`), also where the count is below zero; and
nothing comes out exactly where a cell has no length to divide by (`Divisible`).
-/

namespace MapSheets.Grating

-- ============================================================= whole cells

/-- The whole parts of the longer side that the shorter one holds, one at least. -/
def cells (short long : Rat) (division : Int) : Int := max 1 ⌊short / (long / division)⌋

section

variable {short long : Rat} {division : Int}

theorem one_le_cells (short long : Rat) (division : Int) : 1 ≤ cells short long division :=
  le_max_left _ _

theorem cells_le (hlong : 0 < long) (hshort : short ≤ long) (hdivision : 1 ≤ division) :
    cells short long division ≤ division := by
  have hcount : (0 : Rat) ≤ division := by exact_mod_cast (by omega : 0 ≤ division)
  have hparts : short / (long / division) ≤ division := by
    rw [div_div_eq_mul_div, div_le_iff₀ hlong, mul_comm]
    exact mul_le_mul_of_nonneg_left hshort hcount
  refine max_le hdivision ?_
  exact_mod_cast (Int.floor_le _).trans hparts

/-- A square holds as many parts across as along. -/
theorem cells_self (hlong : 0 < long) (hdivision : 1 ≤ division) :
    cells long long division = division := by
  unfold cells
  rw [div_div_cancel₀ hlong.ne', Int.floor_intCast, max_eq_right hdivision]

theorem two_le_cells_iff (hlong : 0 < long) :
    2 ≤ cells short long division ↔ 2 * long ≤ division * short := by
  unfold cells
  rw [le_max_iff, or_iff_right (by decide), Int.le_floor, div_div_eq_mul_div,
    le_div_iff₀ hlong, mul_comm short]
  rfl

/-- Where the shorter side holds a part of the longer one, what is left over is shared
out: a cell gets longer than a part, but less than twice as long. -/
theorem cell_bounds (hlong : 0 < long) (hdivision : 1 ≤ division)
    (hpart : long / division ≤ short) :
    long / division ≤ short / cells short long division
      ∧ short / cells short long division < 2 * (long / division) := by
  have hcount : (0 : Rat) < division := by exact_mod_cast (by omega : 0 < division)
  have hpos : 0 < long / division := div_pos hlong hcount
  have hone : 1 ≤ ⌊short / (long / division)⌋ := by
    rw [Int.le_floor, le_div_iff₀ hpos]
    simpa using hpart
  have hcells : cells short long division = ⌊short / (long / division)⌋ := max_eq_right hone
  have hcellsPos : (0 : Rat) < cells short long division := by
    exact_mod_cast (one_le_cells short long division)
  rw [le_div_iff₀ hcellsPos, div_lt_iff₀ hcellsPos, hcells]
  have hbelow := (le_div_iff₀ hpos).mp (Int.floor_le (short / (long / division)))
  have habove := (div_lt_iff₀ hpos).mp (Int.lt_floor_add_one (short / (long / division)))
  have hone' : (1 : Rat) ≤ ⌊short / (long / division)⌋ := by exact_mod_cast hone
  constructor
  · linarith
  · -- one part more than the whole ones is at most twice the whole ones
    have hmore := mul_le_mul_of_nonneg_right hone' hpos.le
    linarith

theorem wholeCells_rat (hlong : 0 < long) (hshort : 0 ≤ short) (hdivision : 1 ≤ division) :
    wholeCells short (long / division) = .ok (cells short long division) := by
  have hcount : (0 : Rat) < division := by exact_mod_cast (by omega : 0 < division)
  have hpos : 0 < long / division := div_pos hlong hcount
  unfold wholeCells
  rw [Scalar.quotient?_rat hpos.ne', Outcome.ok_bind,
    Scalar.truncate?_rat_of_nonneg (div_nonneg hshort hpos.le)]
  rfl

end

theorem wholeCells_isOk {cell : Rat} (hcell : cell ≠ 0) (side : Rat) :
    ∃ n, wholeCells side cell = .ok n := by
  unfold wholeCells
  rw [Scalar.quotient?_rat hcell, Outcome.ok_bind]
  exact Outcome.bind_isOk (Scalar.truncate?_rat_isOk _) fun _ => ⟨_, rfl⟩

theorem one_le_of_wholeCells {side cell : Rat} {n : Int} (h : wholeCells side cell = .ok n) :
    1 ≤ n := by
  obtain ⟨_, -, h⟩ := Outcome.bind_eq_ok.mp h
  obtain ⟨_, -, h⟩ := Outcome.bind_eq_ok.mp h
  cases h
  exact le_max_left _ _

theorem wholeCells_zero (side : Rat) : wholeCells side (0 : Rat) = .error .divisionByZero := by
  unfold wholeCells
  rw [Scalar.quotient?_rat_zero]
  rfl

-- ============================================================= the division

variable {width height : Rat} {division : Int}

theorem squarish_zero (width height : Rat) : squarish width height 0 = .error .divisionByZero := by
  unfold squarish
  rw [Scalar.ofInt?_rat, Outcome.ok_bind, Int.cast_zero, Scalar.quotient?_rat_zero]
  rfl

/-- The cells along the side with the longer ones are kept, and the other side is
divided by them. -/
theorem squarish_eq (width height : Rat) (hdivision : division ≠ 0) :
    squarish width height division =
      if |height| / division ≤ |width| / division then do
        let rows ← wholeCells |height| (|width| / division)
        return ⟨|width| / division, |height| / rows, rows, division⟩
      else do
        let cols ← wholeCells |width| (|height| / division)
        return ⟨|width| / cols, |height| / division, division, cols⟩ := by
  have hcount : (division : Rat) ≠ 0 := Int.cast_ne_zero.mpr hdivision
  unfold squarish
  simp only [Scalar.magnitude_rat, Scalar.ofInt?_rat, Outcome.ok_bind, Scalar.quotient?_rat hcount]

/-- A box that is wide has its width divided as often as asked. -/
theorem squarish_wide (hwide : |height| ≤ |width|) (hwidth : width ≠ 0) (hdivision : 1 ≤ division) :
    squarish width height division = .ok
      ⟨|width| / division, |height| / cells |height| |width| division,
        cells |height| |width| division, division⟩ := by
  have hcount : (0 : Rat) < division := by exact_mod_cast (by omega : 0 < division)
  rw [squarish_eq width height (by omega), if_pos (div_le_div_of_nonneg_right hwide hcount.le),
    wholeCells_rat (abs_pos.mpr hwidth) (abs_nonneg height) hdivision]
  rfl

/-- A box that is tall has its height divided as often as asked. -/
theorem squarish_tall (htall : |width| < |height|) (hdivision : 1 ≤ division) :
    squarish width height division = .ok
      ⟨|width| / cells |width| |height| division, |height| / division, division,
        cells |width| |height| division⟩ := by
  have hcount : (0 : Rat) < division := by exact_mod_cast (by omega : 0 < division)
  rw [squarish_eq width height (by omega),
    if_neg (not_le.mpr (div_lt_div_of_pos_right htall hcount)),
    wholeCells_rat ((abs_nonneg width).trans_lt htall) (abs_nonneg width) hdivision]
  rfl

-- ========================================================== with no result

/-- A count divides a box near-square: neither the count nor the box is zero. Of a
count below zero the shorter side has the longer parts, so neither side may be. -/
structure Divisible (width height : Rat) (division : Int) : Prop where
  count : division ≠ 0
  sides : width ≠ 0 ∨ height ≠ 0
  sides_of_neg : division < 0 → width ≠ 0 ∧ height ≠ 0

theorem squarish_of_divisible (h : Divisible width height division) :
    ∃ d, squarish width height division = .ok d := by
  have hcount : (division : Rat) ≠ 0 := Int.cast_ne_zero.mpr h.count
  have hnonneg : ∀ {side : Rat}, 0 < division → 0 ≤ |side| / division := fun hpos =>
    div_nonneg (abs_nonneg _) (by exact_mod_cast hpos.le)
  rw [squarish_eq width height h.count]
  split
  case isTrue hle =>
    have hwidth : width ≠ 0 := by
      rintro rfl
      rcases lt_or_gt_of_ne h.count with hneg | hpos
      · exact (h.sides_of_neg hneg).1 rfl
      · rw [abs_zero, zero_div] at hle
        have hpart := le_antisymm hle (hnonneg hpos)
        rcases div_eq_zero_iff.mp hpart with hheight | hzero
        · exact h.sides.elim (fun hne => hne rfl) (fun hne => hne (abs_eq_zero.mp hheight))
        · exact hcount hzero
    exact Outcome.bind_isOk (wholeCells_isOk (div_ne_zero (abs_ne_zero.mpr hwidth) hcount) _)
      fun _ => ⟨_, rfl⟩
  case isFalse hlt =>
    have hheight : height ≠ 0 := by
      rintro rfl
      rw [abs_zero, zero_div] at hlt
      rcases lt_or_gt_of_ne h.count with hneg | hpos
      · exact (h.sides_of_neg hneg).2 rfl
      · exact hlt (hnonneg hpos)
    exact Outcome.bind_isOk (wholeCells_isOk (div_ne_zero (abs_ne_zero.mpr hheight) hcount) _)
      fun _ => ⟨_, rfl⟩

theorem squarish_of_not_divisible (h : ¬ Divisible width height division) :
    squarish width height division = .error .divisionByZero := by
  by_cases hcount : division = 0
  · rw [hcount, squarish_zero]
  · rw [squarish_eq width height hcount]
    by_cases hwidth : width = 0
    · -- a height would have been divided, by a count above zero
      have hpart : |height| / division ≤ 0 := by
        by_cases hheight : height = 0
        · rw [hheight, abs_zero, zero_div]
        · have hneg : division < 0 := by
            by_contra hpos
            exact h ⟨hcount, Or.inr hheight, fun hneg => absurd hneg hpos⟩
          exact div_nonpos_of_nonneg_of_nonpos (abs_nonneg _) (by exact_mod_cast hneg.le)
      rw [hwidth, abs_zero, zero_div, if_pos hpart, wholeCells_zero]
      rfl
    · have hneg : division < 0 ∧ height = 0 := by
        by_contra hnot
        refine h ⟨hcount, Or.inl hwidth, fun hneg => ⟨hwidth, fun hheight => hnot ⟨hneg, hheight⟩⟩⟩
      have hpart : |width| / division < 0 :=
        div_neg_of_pos_of_neg (abs_pos.mpr hwidth) (by exact_mod_cast hneg.1)
      rw [hneg.2, abs_zero, zero_div, if_neg (not_le.mpr hpart), wholeCells_zero]
      rfl

-- ================================================================= tiling

/-- What a division is, whatever the count: one side has as many parts as asked, and
the other one as many cells, one at least. -/
theorem squarish_cases {d : Division Rat} (h : squarish width height division = .ok d) :
    division ≠ 0
      ∧ ((1 ≤ d.rows ∧ d = ⟨|width| / division, |height| / d.rows, d.rows, division⟩)
        ∨ 1 ≤ d.cols ∧ d = ⟨|width| / d.cols, |height| / division, division, d.cols⟩) := by
  rcases eq_or_ne division 0 with rfl | hdivision
  · rw [squarish_zero] at h
    cases h
  · refine ⟨hdivision, ?_⟩
    rw [squarish_eq width height hdivision] at h
    split at h
    · obtain ⟨rows, hrows, h⟩ := Outcome.bind_eq_ok.mp h
      cases h
      exact Or.inl ⟨one_le_of_wholeCells hrows, rfl⟩
    · obtain ⟨cols, hcols, h⟩ := Outcome.bind_eq_ok.mp h
      cases h
      exact Or.inr ⟨one_le_of_wholeCells hcols, rfl⟩

/-- Rows and columns together are as high and as wide as the box. -/
structure Division.Tiles (d : Division Rat) (width height : Rat) : Prop where
  cols_eq : d.cols * d.width = width
  rows_eq : d.rows * d.height = height

theorem tiles_of_squarish {d : Division Rat} (h : squarish width height division = .ok d) :
    d.Tiles |width| |height| := by
  have hpos : ∀ {n : Int}, 1 ≤ n → (n : Rat) ≠ 0 := fun hone => Int.cast_ne_zero.mpr (by omega)
  obtain ⟨hdivision, ⟨hrows, hd⟩ | ⟨hcols, hd⟩⟩ := squarish_cases h
  · rw [hd]
    exact ⟨mul_div_cancel₀ _ (Int.cast_ne_zero.mpr hdivision), mul_div_cancel₀ _ (hpos hrows)⟩
  · rw [hd]
    exact ⟨mul_div_cancel₀ _ (hpos hcols), mul_div_cancel₀ _ (Int.cast_ne_zero.mpr hdivision)⟩

-- ================================================================= counts

/-- The near-square division of a box can be drawn: the count can be, and the shorter
side holds two parts of the longer one. -/
structure Drawable (width height : Rat) (division : Int) : Prop where
  count : isCount division = true
  two_parts : 2 * max |width| |height| ≤ division * min |width| |height|

theorem drawable_iff_of_wide (hwide : |height| ≤ |width|) :
    Drawable width height division
      ↔ isCount division = true ∧ 2 * |width| ≤ division * |height| := by
  constructor
  · intro ⟨hcount, hparts⟩
    rw [max_eq_left hwide, min_eq_right hwide] at hparts
    exact ⟨hcount, hparts⟩
  · intro ⟨hcount, hparts⟩
    exact ⟨hcount, by rwa [max_eq_left hwide, min_eq_right hwide]⟩

theorem drawable_comm : Drawable width height division ↔ Drawable height width division := by
  constructor
  · intro ⟨hcount, hparts⟩
    exact ⟨hcount, by rwa [max_comm, min_comm]⟩
  · intro ⟨hcount, hparts⟩
    exact ⟨hcount, by rwa [max_comm, min_comm]⟩

theorem isCount_cells_iff {short long : Rat} (hlong : 0 < long) (hshort : short ≤ long)
    (hcount : isCount division = true) :
    isCount (cells short long division) = true ↔ 2 * long ≤ division * short := by
  obtain ⟨hleast, hmost⟩ := isCount_iff.mp hcount
  have hcells : cells short long division ≤ division := cells_le hlong hshort (by omega)
  rw [← two_le_cells_iff hlong, isCount_iff]
  omega

/-- What comes out of the division can be drawn exactly under that condition. -/
theorem isCount_squarish_iff {d : Division Rat} (h : squarish width height division = .ok d) :
    (isCount d.rows && isCount d.cols) = true ↔ Drawable width height division := by
  rw [Bool.and_eq_true]
  by_cases hdivision : isCount division = true
  · have hone : 1 ≤ division := by
      have hleast := (isCount_iff.mp hdivision).1
      omega
    rcases le_or_gt |height| |width| with hwide | htall
    · have hwidth : width ≠ 0 := by
        rintro rfl
        have hheight : height = 0 := abs_nonpos_iff.mp (abs_zero (α := Rat) ▸ hwide)
        have hnot : ¬ Divisible 0 height division := fun hdivisible =>
          hdivisible.sides.elim (fun hne => hne rfl) fun hne => hne hheight
        cases h.symm.trans (squarish_of_not_divisible hnot)
      cases h.symm.trans (squarish_wide hwide hwidth hone)
      rw [isCount_cells_iff (abs_pos.mpr hwidth) hwide hdivision, drawable_iff_of_wide hwide]
      exact and_comm
    · have hheight : 0 < |height| := (abs_nonneg width).trans_lt htall
      cases h.symm.trans (squarish_tall htall hone)
      rw [isCount_cells_iff hheight htall.le hdivision, drawable_comm,
        drawable_iff_of_wide htall.le]
  · -- the count asked for is one of the two
    refine ⟨fun hcounts => absurd ?_ hdivision, fun hdrawable => absurd hdrawable.count hdivision⟩
    rcases (squarish_cases h).2 with ⟨-, hd⟩ | ⟨-, hd⟩
    · rw [hd] at hcounts
      exact hcounts.2
    · rw [hd] at hcounts
      exact hcounts.1

/-- A division of a box into near-square cells. The longer side has as many parts as
asked; where the shorter side holds one of them, the cells are no shorter along it
than the parts, and less than twice as long. -/
structure Division.NearSquare (d : Division Rat) (width height : Rat) (division : Int) : Prop where
  tiles : d.Tiles width height
  rows_range : 1 ≤ d.rows ∧ d.rows ≤ division
  cols_range : 1 ≤ d.cols ∧ d.cols ≤ division
  cols_of_wide : height ≤ width → d.cols = division
  rows_of_tall : width ≤ height → d.rows = division
  cell_of_wide : height ≤ width → width / division ≤ height →
    d.width ≤ d.height ∧ d.height < 2 * d.width
  cell_of_tall : width ≤ height → height / division ≤ width →
    d.height ≤ d.width ∧ d.width < 2 * d.height

/-- The division of a square has squares for cells. -/
theorem nearSquare_square (hside : 0 < width) (hdivision : 1 ≤ division) :
    Division.NearSquare ⟨width / division, width / division, division, division⟩ width width
      division := by
  have hcount : (0 : Rat) < division := by exact_mod_cast (by omega : 0 < division)
  have hpos : 0 < width / division := div_pos hside hcount
  have hcell : width / division ≤ width / division ∧ width / division < 2 * (width / division) :=
    ⟨le_rfl, by linarith⟩
  constructor
  case tiles => exact ⟨mul_div_cancel₀ _ hcount.ne', mul_div_cancel₀ _ hcount.ne'⟩
  case rows_range => exact ⟨hdivision, le_rfl⟩
  case cols_range => exact ⟨hdivision, le_rfl⟩
  case cols_of_wide => exact fun _ => rfl
  case rows_of_tall => exact fun _ => rfl
  case cell_of_wide => exact fun _ _ => hcell
  case cell_of_tall => exact fun _ _ => hcell

/-- Every box with an extent is divided into near-square cells that tile it, whatever
the count of parts. -/
theorem squarish_near_square (hwidth : 0 < width) (hheight : 0 < height) (hdivision : 1 ≤ division) :
    ∃ d, squarish width height division = .ok d ∧ d.NearSquare width height division := by
  have hwidthAbs : |width| = width := abs_of_pos hwidth
  have hheightAbs : |height| = height := abs_of_pos hheight
  rcases lt_trichotomy height width with hwide | rfl | htall
  · have hwideAbs : |height| ≤ |width| := by
      rw [hwidthAbs, hheightAbs]
      exact hwide.le
    have hd := squarish_wide hwideAbs hwidth.ne' hdivision
    have htiles := tiles_of_squarish hd
    rw [hwidthAbs, hheightAbs] at hd htiles
    refine ⟨_, hd, ?_⟩
    constructor
    case tiles => exact htiles
    case rows_range => exact ⟨one_le_cells _ _ _, cells_le hwidth hwide.le hdivision⟩
    case cols_range => exact ⟨hdivision, le_rfl⟩
    case cols_of_wide => exact fun _ => rfl
    case rows_of_tall => exact fun htall => absurd htall (not_le.mpr hwide)
    case cell_of_wide => exact fun _ hpart => cell_bounds hwidth hdivision hpart
    case cell_of_tall => exact fun htall => absurd htall (not_le.mpr hwide)
  · have hd := squarish_wide le_rfl hwidth.ne' hdivision
    rw [hwidthAbs, cells_self hwidth hdivision] at hd
    exact ⟨_, hd, nearSquare_square hwidth hdivision⟩
  · have htallAbs : |width| < |height| := by
      rw [hwidthAbs, hheightAbs]
      exact htall
    have hd := squarish_tall htallAbs hdivision
    have htiles := tiles_of_squarish hd
    rw [hwidthAbs, hheightAbs] at hd htiles
    refine ⟨_, hd, ?_⟩
    constructor
    case tiles => exact htiles
    case rows_range => exact ⟨hdivision, le_rfl⟩
    case cols_range => exact ⟨one_le_cells _ _ _, cells_le hheight htall.le hdivision⟩
    case cols_of_wide => exact fun hwide => absurd hwide (not_le.mpr htall)
    case rows_of_tall => exact fun _ => rfl
    case cell_of_wide => exact fun hwide => absurd hwide (not_le.mpr htall)
    case cell_of_tall => exact fun _ hpart => cell_bounds hheight hdivision hpart

/-- A box three quarters as high as wide holds seven whole parts of ten, which are
stretched over its height. -/
theorem squarish_near_square_stretched :
    ((0 : Rat) < 100 ∧ (0 : Rat) < 75 ∧ (1 : Int) ≤ 10)
      ∧ ∃ d, squarish (100 : Rat) 75 10 = .ok d ∧ d.NearSquare 100 75 10
        ∧ d.rows = 7 ∧ d.cols = 10 ∧ d.height = 75 / 7 := by
  have hwidth : (0 : Rat) < 100 := by norm_num
  have hheight : (0 : Rat) < 75 := by norm_num
  obtain ⟨d, hd, hnear⟩ := squarish_near_square hwidth hheight (by decide : (1 : Int) ≤ 10)
  have hvalue : (squarish (100 : Rat) 75 10).toOption.map (fun d => (d.rows, d.cols, d.height))
      = some (7, 10, 75 / 7) := by
    decide +kernel
  obtain ⟨_, hd', hparts⟩ := Outcome.ok_of_toOption hvalue
  cases hd.symm.trans hd'
  obtain ⟨hrows, hrest⟩ := Prod.mk.inj hparts
  obtain ⟨hcols, hheights⟩ := Prod.mk.inj hrest
  exact ⟨⟨hwidth, hheight, by decide⟩, d, hd, hnear, hrows, hcols, hheights⟩

end MapSheets.Grating
