import MapSheets.Proofs.Drawing.GratingMarks
import MapSheets.Proofs.Grating.Label
import MapSheets.Proofs.Number.Rational
import Mathlib.Data.Int.ConditionallyCompleteOrder
import Mathlib.Data.List.ProdSigma
import Mathlib.Order.Interval.Set.UnorderedInterval
import Mathlib.Tactic.FieldSimp
import Mathlib.Tactic.Linarith

/-
Lines, cells and labels of a grating over exact quantities. The lines in front of
the rows, and those in front of the columns, stand in a strict order from one side
of the box to the other (`Lined`). The center of a cell lies halfway between two
neighbors in that order, and so between no others: it is inside its own cell alone
(`Celled`). The rows are counted from one side and named from one side, and the
row of the first label is the topmost where the two flips agree (`Named`).
-/

namespace MapSheets.Grating

variable {g : Grating Rat}

-- ================================================================== places

/-- The step from a row to the next one, up the page or down. -/
def rise (g : Grating Rat) : Rat := if g.flipY then -g.height else g.height

theorem rowY_eq (g : Grating Rat) (row : Int) : g.rowY row = g.minY + row * g.rise := by
  unfold rowY rise
  split
  · rw [mul_neg]
    rfl
  · rfl

theorem colX_eq (g : Grating Rat) (col : Int) : g.colX col = g.minX + col * g.width := rfl

/-- The point in the middle of a cell. -/
def center (g : Grating Rat) (row col : Int) : Point Rat :=
  (g.corner row col).between (g.corner (row + 1) (col + 1))

theorem center_x (g : Grating Rat) (row col : Int) :
    (g.center row col).x = (g.colX col + g.colX (col + 1)) / 2 := rfl

theorem center_y (g : Grating Rat) (row col : Int) :
    (g.center row col).y = (g.rowY row + g.rowY (row + 1)) / 2 := rfl

/-- The points of a cell that are on none of its lines. -/
def inside (g : Grating Rat) (row col : Int) : Set (Point Rat) :=
  {p | p.x ∈ Set.uIoo (g.colX col) (g.colX (col + 1))
    ∧ p.y ∈ Set.uIoo (g.rowY row) (g.rowY (row + 1))}

-- ================================================================ in order

/-- What is halfway between two neighbors that grow is between no others. -/
theorem half_mem_iff {f : Int → Rat} (hf : StrictMono f) {i j : Int} :
    (f j + f (j + 1)) / 2 ∈ Set.Ioo (f i) (f (i + 1)) ↔ i = j := by
  have hstep : f j < f (j + 1) := hf (lt_add_one j)
  constructor
  · intro ⟨hlow, hhigh⟩
    have hi : i < j + 1 := hf.lt_iff_lt.mp (by linarith)
    have hj : j < i + 1 := hf.lt_iff_lt.mp (by linarith)
    omega
  · rintro rfl
    constructor <;> linarith

/-- The same for neighbors in either order. -/
theorem half_mem_uIoo_iff {f : Int → Rat} (hf : StrictMono f ∨ StrictAnti f) {i j : Int} :
    (f j + f (j + 1)) / 2 ∈ Set.uIoo (f i) (f (i + 1)) ↔ i = j := by
  rcases hf with hup | hdown
  · rw [Set.uIoo_of_lt (hup (lt_add_one i))]
    exact half_mem_iff hup
  · rw [Set.uIoo_of_gt (hdown (lt_add_one i)), ← half_mem_iff hdown.neg]
    simp only [Set.mem_Ioo]
    constructor
    · intro ⟨hlow, hhigh⟩
      constructor <;> linarith
    · intro ⟨hlow, hhigh⟩
      constructor <;> linarith

theorem half_strictMono {f : Int → Rat} (hf : StrictMono f) :
    StrictMono fun i => (f i + f (i + 1)) / 2 := by
  intro i j hij
  have hnear := hf hij
  have hnext := hf (by omega : i + 1 < j + 1)
  dsimp only
  linarith

theorem half_strictAnti {f : Int → Rat} (hf : StrictAnti f) :
    StrictAnti fun i => (f i + f (i + 1)) / 2 := by
  intro i j hij
  have hnear := hf hij
  have hnext := hf (by omega : i + 1 < j + 1)
  dsimp only
  linarith

/-- The lines of a grating stand in a strict order from one side of a box to the
other, and reach across it. -/
structure Lined (g : Grating Rat) (box : Bounds Rat) : Prop where
  rowLine_eq : ∀ row, g.rowLine row = ⟨⟨box.minX, g.rowY row⟩, ⟨box.maxX, g.rowY row⟩⟩
  colLine_eq : ∀ col, g.colLine col = ⟨⟨g.colX col, g.rowY 0⟩, ⟨g.colX col, g.rowY g.rows⟩⟩
  rows_ordered : if g.flipY then StrictAnti g.rowY else StrictMono g.rowY
  cols_ordered : StrictMono g.colX
  firstRow_eq : g.rowY 0 = if g.flipY then box.maxY else box.minY
  lastRow_eq : g.rowY g.rows = if g.flipY then box.minY else box.maxY
  firstCol_eq : g.colX 0 = box.minX
  lastCol_eq : g.colX g.cols = box.maxX

/-- A grating has a center for every cell, under a label of its own and inside no
other cell. -/
structure Celled (g : Grating Rat) : Prop where
  length_centers : (g.centers.length : Int) = g.rows * g.cols
  labels_nodup : (g.centers.map Prod.fst).Nodup
  mem_centers_iff : ∀ label p, (label, p) ∈ g.centers ↔ ∃ row col,
    g.HasRow row ∧ g.HasCol col ∧ label = g.cellLabel row col ∧ p = g.center row col
  center_mem_iff : ∀ row col row' col',
    g.center row col ∈ g.inside row' col' ↔ row' = row ∧ col' = col

/-- One row has the first label, and it is the topmost exactly where both flips are
set or neither is. The columns are numbered in their order. -/
structure Named (g : Grating Rat) : Prop where
  exists_first : ∃! row, g.HasRow row ∧ g.rowLabel row = "A"
  first_top_iff : ∀ row, g.HasRow row → g.rowLabel row = "A" →
    ((∀ row', g.HasRow row' → ∀ col, (g.center row' col).y ≤ (g.center row col).y)
      ↔ g.flipY = g.flipYLabel)
  exists_number : ∀ col, g.HasCol col → ∃ n, Decimal.Writes (g.colLabel col) n
  numbers_ordered : ∀ col col', g.HasCol col → g.HasCol col' →
    ∀ n n', Decimal.Writes (g.colLabel col) n → Decimal.Writes (g.colLabel col') n' →
      (n < n' ↔ g.colX col < g.colX col')

-- =================================================================== cells

/-- Column by column the labels and the centers of all cells. -/
theorem centers_eq_map (g : Grating Rat) :
    g.centers = (below g.cols ×ˢ below g.rows).map fun cell =>
      (g.cellLabel cell.2 cell.1, g.center cell.2 cell.1) := by
  unfold centers
  show _ = ((below g.cols).flatMap fun col => (below g.rows).map (Prod.mk col)).map _
  rw [List.map_flatMap]
  simp only [List.map_map]
  rfl

theorem celled (hrows : 0 ≤ g.rows) (hcols : 0 ≤ g.cols)
    (hordered : StrictMono g.rowY ∨ StrictAnti g.rowY) (hcolX : StrictMono g.colX) :
    g.Celled := by
  constructor
  case length_centers => exact Grating.length_centers hrows hcols
  case labels_nodup =>
    rw [centers_eq_map, List.map_map]
    refine List.Nodup.map_on (fun cell hcell cell' hcell' h => ?_)
      ((nodup_below _).product (nodup_below _))
    obtain ⟨hcol, hrow⟩ := List.mem_product.mp hcell
    obtain ⟨hcol', hrow'⟩ := List.mem_product.mp hcell'
    obtain ⟨hr, hc⟩ := (cellLabel_inj (mem_below.mp hrow) (mem_below.mp hcol) (mem_below.mp hrow')
      (mem_below.mp hcol')).mp h
    exact Prod.ext hc hr
  case mem_centers_iff =>
    intro label p
    rw [centers_eq_map, List.mem_map]
    constructor
    · rintro ⟨⟨col, row⟩, hcell, h⟩
      obtain ⟨hcol, hrow⟩ := List.mem_product.mp hcell
      obtain ⟨hlabel, hp⟩ := Prod.mk.inj h
      exact ⟨row, col, mem_below.mp hrow, mem_below.mp hcol, hlabel.symm, hp.symm⟩
    · rintro ⟨row, col, hrow, hcol, rfl, rfl⟩
      exact ⟨(col, row), List.mem_product.mpr ⟨mem_below.mpr hcol, mem_below.mpr hrow⟩, rfl⟩
  case center_mem_iff =>
    intro row col row' col'
    show _ ∈ Set.uIoo _ _ ∧ _ ∈ Set.uIoo _ _ ↔ _
    rw [center_x, center_y, half_mem_uIoo_iff (Or.inl hcolX), half_mem_uIoo_iff hordered]
    exact and_comm

-- ================================================================== making

/-- Rows and columns of a size, between the sides of a box. -/
structure Fills (g : Grating Rat) (box : Bounds Rat) : Prop where
  rows_count : 2 ≤ g.rows
  cols_count : 2 ≤ g.cols
  width_pos : 0 < g.width
  height_pos : 0 < g.height
  minX_eq : g.minX = box.minX
  maxX_eq : g.maxX = box.maxX
  minY_eq : g.minY = if g.flipY then box.maxY else box.minY
  maxY_eq : g.maxY = if g.flipY then box.minY else box.maxY
  width_eq : g.cols * g.width = box.maxX - box.minX
  height_eq : g.rows * g.height = box.maxY - box.minY

theorem exists_ofBox (x y : Rat) {width height : Rat} (hwidth : 0 < width) (hheight : 0 < height)
    {rows cols : Int} (hrows : isCount rows = true) (hcols : isCount cols = true)
    (flipY flipYLabel : Bool) :
    ∃ g : Grating Rat, ofBox x y width height rows cols flipY flipYLabel = .ok g
      ∧ (g.rows = rows ∧ g.cols = cols ∧ g.flipY = flipY ∧ g.flipYLabel = flipYLabel)
      ∧ g.Fills ⟨x, x + width, y, y + height⟩ := by
  have hrowsPos := isCount_pos hrows
  have hcolsPos := isCount_pos hcols
  refine ⟨_, ofBox_eq x y width height hrows hcols flipY flipYLabel, ⟨rfl, rfl, rfl, rfl⟩, ?_⟩
  constructor
  case rows_count => exact (isCount_iff.mp hrows).1
  case cols_count => exact (isCount_iff.mp hcols).1
  case width_pos => exact div_pos hwidth hcolsPos
  case height_pos => exact div_pos hheight hrowsPos
  case minX_eq => rfl
  case maxX_eq => rfl
  case minY_eq => rfl
  case maxY_eq => rfl
  case width_eq =>
    show (cols : Rat) * (width / cols) = x + width - x
    field_simp
    ring
  case height_eq =>
    show (rows : Rat) * (height / rows) = y + height - y
    field_simp
    ring

variable {box : Bounds Rat}

theorem Fills.rowY_ordered (h : g.Fills box) :
    if g.flipY then StrictAnti g.rowY else StrictMono g.rowY := by
  have hheight := h.height_pos
  cases hflip : g.flipY with
  | true =>
      refine strictAnti_int_of_succ_lt fun row => ?_
      rw [rowY_eq, rowY_eq, rise, if_pos hflip]
      push_cast
      linarith
  | false =>
      refine strictMono_int_of_lt_succ fun row => ?_
      rw [rowY_eq, rowY_eq, rise, if_neg (Bool.eq_false_iff.mp hflip)]
      push_cast
      linarith

theorem Fills.colX_ordered (h : g.Fills box) : StrictMono g.colX := by
  have hwidth := h.width_pos
  refine strictMono_int_of_lt_succ fun col => ?_
  rw [colX_eq, colX_eq]
  push_cast
  linarith

theorem Fills.lined (h : g.Fills box) : g.Lined box := by
  have hheight := h.height_eq
  have hwidth := h.width_eq
  have hfirst : g.rowY 0 = g.minY := by simp [rowY_eq]
  have hlast : g.rowY g.rows = g.maxY := by
    rw [rowY_eq, h.minY_eq, h.maxY_eq, rise]
    split <;> linarith
  constructor
  case rowLine_eq =>
    intro row
    unfold rowLine
    rw [h.minX_eq, h.maxX_eq]
  case colLine_eq =>
    intro col
    unfold colLine
    rw [hfirst, hlast]
  case rows_ordered => exact h.rowY_ordered
  case cols_ordered => exact h.colX_ordered
  case firstRow_eq => rw [hfirst, h.minY_eq]
  case lastRow_eq => rw [hlast, h.maxY_eq]
  case firstCol_eq => simp [colX_eq, h.minX_eq]
  case lastCol_eq =>
    rw [colX_eq, h.minX_eq]
    linarith

theorem Fills.celled (h : g.Fills box) : g.Celled := by
  have hrows := h.rows_count
  have hcols := h.cols_count
  refine Grating.celled (by omega) (by omega) ?_ h.colX_ordered
  have hordered := h.rowY_ordered
  split at hordered
  case isTrue => exact Or.inr hordered
  case isFalse => exact Or.inl hordered

/-- The row of the first label. -/
def firstRow (g : Grating Rat) : Int := if g.flipYLabel then 0 else g.rows - 1

theorem rowLabel_eq_first_iff {row : Int} (h : g.HasRow row) :
    g.rowLabel row = "A" ↔ row = g.firstRow := by
  rw [h.rowLabel_eq_first_iff]
  unfold place firstRow
  split <;> omega

/-- Where rows run up the page the last one is the topmost, and where they run down
the first one is. -/
theorem Fills.top_iff (h : g.Fills box) {row : Int} (hrow : g.HasRow row) :
    (∀ row', g.HasRow row' → ∀ col, (g.center row' col).y ≤ (g.center row col).y)
      ↔ row = if g.flipY then 0 else g.rows - 1 := by
  have hordered := h.rowY_ordered
  have hfirst : g.HasRow 0 := ⟨le_rfl, by linarith [h.rows_count]⟩
  have hlast : g.HasRow (g.rows - 1) := ⟨by linarith [h.rows_count], by linarith⟩
  obtain ⟨hlow, hhigh⟩ := hrow
  cases hflip : g.flipY with
  | true =>
      rw [if_pos hflip] at hordered
      have hcenter : ∀ row' col, (g.center row' col).y ≤ (g.center row col).y ↔ row ≤ row' :=
        fun row' col => (half_strictAnti hordered).le_iff_ge
      simp only [hcenter]
      exact ⟨fun hall => le_antisymm (hall 0 hfirst 0) hlow, fun hrow row' hrow' _ => hrow ▸ hrow'.1⟩
  | false =>
      rw [if_neg (Bool.eq_false_iff.mp hflip)] at hordered
      have hcenter : ∀ row' col, (g.center row' col).y ≤ (g.center row col).y ↔ row' ≤ row :=
        fun row' col => (half_strictMono hordered).le_iff_le
      simp only [hcenter]
      constructor
      · intro hall
        have htop := hall _ hlast 0
        show row = g.rows - 1
        omega
      · intro hrow row' hrow' _
        have hlast' : row = g.rows - 1 := hrow
        have hbelow := hrow'.2
        omega

theorem Fills.named (h : g.Fills box) : g.Named := by
  have hrows := h.rows_count
  have hfirst : g.HasRow g.firstRow := by
    unfold firstRow HasRow
    split <;> omega
  constructor
  case exists_first =>
    exact ⟨g.firstRow, ⟨hfirst, (rowLabel_eq_first_iff hfirst).mpr rfl⟩, fun row hrow =>
      (rowLabel_eq_first_iff hrow.1).mp hrow.2⟩
  case first_top_iff =>
    intro row hrow hlabel
    rw [h.top_iff hrow, (rowLabel_eq_first_iff hrow).mp hlabel]
    unfold firstRow
    -- the two ends of the rows differ, so the flips must agree
    cases hflip : g.flipY with
    | true => cases hlabels : g.flipYLabel with
      | true => simp
      | false => simp; omega
    | false => cases hlabels : g.flipYLabel with
      | true => simp; omega
      | false => simp
  case exists_number => exact fun col hcol => ⟨_, hcol.writes_colLabel⟩
  case numbers_ordered =>
    intro col col' hcol hcol' n n' hn hn'
    have hnumber := hcol.writes_colLabel.value.symm.trans hn.value
    have hnumber' := hcol'.writes_colLabel.value.symm.trans hn'.value
    have hlow := hcol.1
    have hlow' := hcol'.1
    rw [h.colX_ordered.lt_iff_lt]
    omega

/-- A grating over a box divides it: its lines stand in a strict order from side to
side, every cell has its center and a label of its own, and the labels run as the
flips say. -/
theorem ofBox_divides (x y : Rat) {width height : Rat} (hwidth : 0 < width) (hheight : 0 < height)
    {rows cols : Int} (hrows : isCount rows = true) (hcols : isCount cols = true)
    (flipY flipYLabel : Bool) :
    ∃ g : Grating Rat, ofBox x y width height rows cols flipY flipYLabel = .ok g
      ∧ (g.rows = rows ∧ g.cols = cols ∧ g.flipY = flipY ∧ g.flipYLabel = flipYLabel)
      ∧ g.Lined ⟨x, x + width, y, y + height⟩ ∧ g.Celled ∧ g.Named := by
  obtain ⟨g, hg, hfields, hfills⟩ := exists_ofBox x y hwidth hheight hrows hcols flipY flipYLabel
  exact ⟨g, hg, hfields, hfills.lined, hfills.celled, hfills.named⟩

/-- A sheet in twenty-five rows, more than there are letters. Its rows are counted
downwards and its labels run down the page as well, so the row of the first label
is the last one, at the foot. -/
theorem ofBox_divides_downward :
    (isCount 25 = true ∧ isCount 12 = true)
      ∧ ∃ g : Grating Rat, ofBox 500000 6320000 25000 20000 25 12 true false = .ok g
        ∧ g.Lined ⟨500000, 500000 + 25000, 6320000, 6320000 + 20000⟩ ∧ g.Celled ∧ g.Named
        ∧ g.rowLabel 24 = "A" ∧ ∃ row, g.HasRow row ∧ (g.center 24 0).y < (g.center row 0).y := by
  have hrows : isCount 25 = true := by decide
  have hcols : isCount 12 = true := by decide
  obtain ⟨g, hg, ⟨hgrows, -, hflip, hlabels⟩, hlined, hcelled, hnamed⟩ :=
    ofBox_divides 500000 6320000 (by norm_num : (0 : Rat) < 25000)
      (by norm_num : (0 : Rat) < 20000) hrows hcols true false
  have hlast : g.HasRow 24 := ⟨by decide, by omega⟩
  have hlabel : g.rowLabel 24 = "A" := by
    rw [rowLabel_eq_first_iff hlast, firstRow, hlabels, hgrows]
    decide
  refine ⟨⟨hrows, hcols⟩, g, hg, hlined, hcelled, hnamed, hlabel, ?_⟩
  by_contra hnone
  have htop := (hnamed.first_top_iff 24 hlast hlabel).mp fun row hrow col =>
    not_lt.mp fun hlt => hnone ⟨row, hrow, hlt⟩
  rw [hflip, hlabels] at htop
  cases htop

end MapSheets.Grating
