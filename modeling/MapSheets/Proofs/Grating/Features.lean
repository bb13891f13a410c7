import MapSheets.Proofs.Grating.Division

/-
The features of a grating. A map of features is made of two parts that are computed
apart: the labels come from a grating over the box, the places from a division of it.
Over exact quantities the features are those of the grating with the cells of the
division (`exists_of_features`), so what is to be shown is that the two have cells of
one size (`sizes_of_divide`).

They do, up to a sign. A height below zero is given back its sign where the cells are
made near-square, a width below zero is not; such a box is drawn on the far side of
its first corner (`features_eq_grating_iff`).

A division that fails is the one way to fail apart from counts out of range, and only
the near-square one can, over any quantities in which the counts are finite.
-/

namespace MapSheets.Grating

-- ================================================================ counting

section

variable {α : Type} [Scalar α] {minX minY maxX maxY : α} {rows cols : Int} {rectangle : Bool}

/-- A point for every cell, and a line on every side of one. -/
structure Features.Counts (f : Features α) (rows cols : Int) : Prop where
  points : (f.points.length : Int) = rows * cols
  lines : (f.lines.length : Int) = (cols + 1) + (rows + 1)

/-- Over a division of the box nothing is refused but its counts. -/
theorem features_of_divide (flipped : Bool) {d : Division α}
    (hd : divide (maxX - minX) (maxY - minY) rows cols rectangle = .ok d) :
    ((isCount d.rows = true ∧ isCount d.cols = true)
        ∧ ∃ f, features minX minY maxX maxY rows cols flipped rectangle = .ok f
          ∧ f.Counts d.rows d.cols)
      ∨ ¬(isCount d.rows = true ∧ isCount d.cols = true)
        ∧ ∃ e, features minX minY maxX maxY rows cols flipped rectangle = .error e
          ∧ e.family = .grating := by
  unfold features
  dsimp only
  rw [Outcome.lift_eq_ok.mpr hd, Outcome.ok_bind]
  rcases ofBox_cases minX minY (maxX - minX) (maxY - minY) d.rows d.cols false flipped with
    ⟨hcounts, g, hg⟩ | ⟨hcounts, e, he, hfamily⟩
  · have hrows := (isCount_iff.mp hcounts.1).1
    have hcols := (isCount_iff.mp hcounts.2).1
    rw [hg, Outcome.ok_bind]
    refine Or.inl ⟨hcounts, _, rfl, ?_⟩
    constructor
    case points => exact length_cellwise (by omega) (by omega) _
    case lines =>
      dsimp only
      rw [List.length_append, List.length_map, List.length_map, length_below, length_below]
      omega
  · rw [he]
    exact Or.inr ⟨hcounts, e, rfl, hfamily⟩

theorem features_of_divide_error (flipped : Bool) {fault : Fault}
    (hd : divide (maxX - minX) (maxY - minY) rows cols rectangle = .error fault) :
    features minX minY maxX maxY rows cols flipped rectangle = .error (.fault fault) := by
  unfold features
  dsimp only
  rw [hd]
  rfl

/-- The near-square division if it can be drawn, with the sign of the height, and else
the one that was given. -/
def nearOr (given : Division α) (height : α) (near : Division α) : Division α :=
  if isCount near.rows && isCount near.cols then
    if height < 0 then { near with height := -near.height } else near
  else given

section

variable {width height across down : α} (hacross : share width cols = .ok across)
  (hdown : share height rows = .ok down)
include hacross hdown

theorem divide_given : divide width height rows cols true = .ok ⟨across, down, rows, cols⟩ := by
  unfold divide
  rw [hacross, hdown]
  rfl

theorem divide_near : divide width height rows cols false
    = (squarish width height (max rows cols)).map (nearOr ⟨across, down, rows, cols⟩ height) := by
  unfold divide nearOr
  rw [hacross, hdown]
  cases squarish width height (max rows cols) with
  | error fault => rfl
  | ok near =>
      dsimp only [bind, Except.bind, Except.map]
      rw [if_neg Bool.false_ne_true]
      split <;> rfl

end

/-- A length is shared out in every arithmetic in which the count is finite. -/
theorem exists_share (length : α) {count : Int}
    (hcount : Scalar.isFinite (Scalar.ofInt count : α) = true) :
    ∃ part, share length count = .ok part := by
  unfold share Scalar.ofInt?
  split
  · exact ⟨_, rfl⟩
  · dsimp only
    rw [if_pos hcount]
    exact ⟨_, rfl⟩

end

-- ================================================================== places

variable {rows cols : Int} {flipped rectangle : Bool}

/-- The features of the grating itself: the centers of its cells with their labels,
and its lines, columns first. -/
def asFeatures (g : Grating Rat) : Features Rat where
  points := g.centers
  lines := (below (g.cols + 1)).map g.colLine ++ (below (g.rows + 1)).map g.rowLine

/-- The grating with the cells of a division in place of its own. -/
def withCells (g : Grating Rat) (d : Division Rat) : Grating Rat :=
  { g with width := d.width, height := d.height }

/-- A grating over a box, counted from its first corner. -/
structure Over (g : Grating Rat) (box : Bounds Rat) (d : Division Rat) : Prop where
  rows_eq : g.rows = d.rows
  cols_eq : g.cols = d.cols
  minX_eq : g.minX = box.minX
  maxX_eq : g.maxX = box.maxX
  minY_eq : g.minY = box.minY
  maxY_eq : g.maxY = box.maxY
  width_eq : g.width = box.width / d.cols
  height_eq : g.height = box.height / d.rows
  flipY_eq : g.flipY = false

theorem over_of_ofBox {box : Bounds Rat} {d : Division Rat} {g : Grating Rat}
    (h : ofBox box.minX box.minY box.width box.height d.rows d.cols false flipped = .ok g) :
    g.Over box d := by
  rcases ofBox_cases box.minX box.minY box.width box.height d.rows d.cols false flipped with
    ⟨⟨hrows, hcols⟩, -⟩ | ⟨-, e, he, -⟩
  · rw [ofBox_eq _ _ _ _ hrows hcols] at h
    cases h
    exact ⟨rfl, rfl, rfl, add_sub_cancel _ _, rfl, add_sub_cancel _ _, rfl, rfl, rfl⟩
  · cases he.symm.trans h

section

variable {g : Grating Rat} {box : Bounds Rat} {d : Division Rat}

theorem Over.lastCol_eq (h : g.Over box d) (hcols : isCount d.cols = true) :
    g.colLine d.cols = ⟨⟨box.maxX, box.minY⟩, ⟨box.maxX, box.maxY⟩⟩ := by
  have hlast : g.colX d.cols = box.maxX := by
    rw [colX_eq, h.minX_eq, h.width_eq, mul_div_cancel₀ _ (isCount_pos hcols).ne']
    exact add_sub_cancel _ _
  unfold colLine
  rw [hlast, h.minY_eq, h.maxY_eq]

theorem Over.lastRow_eq (h : g.Over box d) (hrows : isCount d.rows = true) :
    g.rowLine d.rows = ⟨⟨box.minX, box.maxY⟩, ⟨box.maxX, box.maxY⟩⟩ := by
  have hlast : g.rowY d.rows = box.maxY := by
    rw [rowY_eq, rise, if_neg (Bool.eq_false_iff.mp h.flipY_eq), h.minY_eq, h.height_eq,
      mul_div_cancel₀ _ (isCount_pos hrows).ne']
    exact add_sub_cancel _ _
  unfold rowLine
  rw [hlast, h.minX_eq, h.maxX_eq]

end

/-- The features are those of the grating with the cells of the division. -/
theorem exists_of_features {f : Features Rat} {box : Bounds Rat}
    (h : features box.minX box.minY box.maxX box.maxY rows cols flipped rectangle = .ok f) :
    ∃ d g, divide box.width box.height rows cols rectangle = .ok d
      ∧ ofBox box.minX box.minY box.width box.height d.rows d.cols false flipped = .ok g
      ∧ f = (g.withCells d).asFeatures := by
  obtain ⟨d, hd, h⟩ := Outcome.bind_eq_ok.mp h
  obtain ⟨g, hg, h⟩ := Outcome.bind_eq_ok.mp h
  have hover := over_of_ofBox hg
  have hx : ∀ col, box.minX + d.width * Scalar.ofInt col = (g.withCells d).colX col := by
    intro col
    rw [← hover.minX_eq, mul_comm]
    rfl
  have hy : ∀ row, box.minY + d.height * Scalar.ofInt row = (g.withCells d).rowY row := by
    intro row
    rw [← hover.minY_eq, mul_comm, rowY_eq, rise, if_neg]
    · rfl
    · exact Bool.eq_false_iff.mp hover.flipY_eq
  have hmiddle : ∀ a b : Rat, a + (b - a) / 2 = (a + b) / 2 := fun a b => by ring
  refine ⟨d, g, Outcome.lift_eq_ok.mp hd, hg, ?_⟩
  cases h
  simp only [hx, hy]
  refine congrArg₂ Features.mk ?points ?lines
  case points =>
    rw [← hover.rows_eq, ← hover.cols_eq]
    exact List.flatMap_congr fun col _ => List.map_congr_left fun row _ =>
      congrArg (Prod.mk _) (Point.ext (hmiddle _ _) (hmiddle _ _))
  case lines =>
    rw [← hover.minX_eq, ← hover.maxX_eq, ← hover.minY_eq, ← hover.maxY_eq, ← hover.rows_eq,
      ← hover.cols_eq]
    rfl

-- =================================================================== sizes

section

variable {width height : Rat} {d : Division Rat}

theorem share_rat (length : Rat) (count : Int) : share length count = .ok (length / count) := by
  unfold share
  split
  case isTrue hzero =>
    rw [hzero, Int.cast_zero, div_zero]
  case isFalse => rfl

/-- The box is divided near-square: so it was asked for, and it can be drawn. -/
structure Squared (width height : Rat) (rows cols : Int) (rectangle : Bool) : Prop where
  asked : rectangle = false
  drawable : Drawable width height (max rows cols)

/-- A box is divided as given, or near-square with a height that keeps its sign. -/
theorem divide_cases (hd : divide width height rows cols rectangle = .ok d) :
    (¬ Squared width height rows cols rectangle ∧ d = ⟨width / cols, height / rows, rows, cols⟩)
      ∨ Squared width height rows cols rectangle
        ∧ ∃ near, squarish width height (max rows cols) = .ok near
          ∧ d = { near with height := if height < 0 then -near.height else near.height } := by
  cases rectangle with
  | true =>
      cases hd.symm.trans (divide_given (share_rat width cols) (share_rat height rows))
      exact Or.inl ⟨fun h => (nomatch h.asked), rfl⟩
  | false =>
      rw [divide_near (share_rat width cols) (share_rat height rows)] at hd
      cases hnear : squarish width height (max rows cols) with
      | error fault =>
          rw [hnear] at hd
          cases hd
      | ok near =>
          have hdrawable := isCount_squarish_iff hnear
          rw [hnear] at hd
          cases hd
          unfold nearOr
          split
          case isTrue hcounts =>
            refine Or.inr ⟨⟨rfl, hdrawable.mp hcounts⟩, near, rfl, ?_⟩
            by_cases hneg : height < 0
            · rw [if_pos hneg, if_pos hneg]
            · rw [if_neg hneg, if_neg hneg]
          case isFalse hcounts =>
            exact Or.inl ⟨fun h => hcounts (hdrawable.mpr h.drawable), rfl⟩

/-- Rows share out the height of the box. Columns share out its width, which has lost
its sign where the cells are near-square. -/
theorem sizes_of_divide (hd : divide width height rows cols rectangle = .ok d)
    (hrows : isCount d.rows = true) (hcols : isCount d.cols = true) :
    d.height = height / d.rows
      ∧ (¬ Squared width height rows cols rectangle → d.width = width / d.cols)
      ∧ (Squared width height rows cols rectangle → d.width = |width| / d.cols) := by
  rcases divide_cases hd with ⟨hplain, rfl⟩ | ⟨hsquared, near, hnear, rfl⟩
  · exact ⟨rfl, fun _ => rfl, fun hsquared => absurd hsquared hplain⟩
  · have htiles := tiles_of_squarish hnear
    have hwidth : near.width = |width| / near.cols :=
      eq_div_of_mul_eq (isCount_pos hcols).ne' ((mul_comm _ _).trans htiles.cols_eq)
    have hheight : near.height = |height| / near.rows :=
      eq_div_of_mul_eq (isCount_pos hrows).ne' ((mul_comm _ _).trans htiles.rows_eq)
    refine ⟨?_, fun hplain => absurd hsquared hplain, fun _ => hwidth⟩
    show (if height < 0 then -near.height else near.height) = _
    split
    case isTrue hneg => rw [hheight, abs_of_neg hneg, neg_div, neg_neg]
    case isFalse hnonneg => rw [hheight, abs_of_nonneg (not_lt.mp hnonneg)]

end

-- ==================================================================== features

/-- A box is drawn on the far side of its first corner: its corners are exchanged along
the first axis, and it is divided near-square. -/
structure Turned (box : Bounds Rat) (rows cols : Int) (rectangle : Bool) : Prop where
  exchanged : box.maxX < box.minX
  squared : Squared box.width box.height rows cols rectangle

/-- The grating on the far side of its first corner. -/
def turned (g : Grating Rat) : Grating Rat := { g with width := -g.width }

/-- The second line of the columns tells the two sides apart. -/
theorem asFeatures_turned_ne {g : Grating Rat} (hcols : 1 ≤ g.cols) (hwidth : g.width ≠ 0) :
    g.turned.asFeatures ≠ g.asFeatures := by
  intro h
  have hlines := List.append_inj_left (congrArg Features.lines h) (by simp [turned])
  have hsecond : g.turned.colLine 1 = g.colLine 1 :=
    List.map_inj_left.mp hlines 1 (mem_below.mpr ⟨by decide, Int.lt_add_of_pos_left 1 hcols⟩)
  have hplace : g.minX + (1 : Int) * -g.width = g.minX + (1 : Int) * g.width :=
    congrArg (fun line => line.start.x) hsecond
  rw [Int.cast_one, one_mul, one_mul, add_right_inj] at hplace
  exact hwidth (by linarith)

theorem withCells_eq {g : Grating Rat} {d : Division Rat} (hwidth : d.width = g.width)
    (hheight : d.height = g.height) : g.withCells d = g := by
  unfold withCells
  rw [hwidth, hheight]

theorem withCells_eq_turned {g : Grating Rat} {d : Division Rat} (hwidth : d.width = -g.width)
    (hheight : d.height = g.height) : g.withCells d = g.turned := by
  unfold withCells turned
  rw [hwidth, hheight]

/-- The cells of the division are those of the grating, unless they run on where the
grating turns back. -/
theorem Over.withCells_cases {g : Grating Rat} {box : Bounds Rat} {d : Division Rat}
    (h : g.Over box d) (hd : divide box.width box.height rows cols rectangle = .ok d)
    (hrows : isCount d.rows = true) (hcols : isCount d.cols = true) :
    (¬ Turned box rows cols rectangle → g.withCells d = g)
      ∧ (Turned box rows cols rectangle → g.withCells d = g.turned) := by
  obtain ⟨hheight, hplain, hsquared⟩ := sizes_of_divide hd hrows hcols
  rw [← h.height_eq] at hheight
  rw [← h.width_eq] at hplain
  constructor
  · intro hforward
    refine withCells_eq ?_ hheight
    by_cases hnear : Squared box.width box.height rows cols rectangle
    · have hnonneg : 0 ≤ box.width :=
        sub_nonneg.mpr (not_lt.mp fun hexchanged => hforward ⟨hexchanged, hnear⟩)
      rw [hsquared hnear, abs_of_nonneg hnonneg, h.width_eq]
    · exact hplain hnear
  · intro hturned
    have hneg : box.width < 0 := sub_neg.mpr hturned.exchanged
    refine withCells_eq_turned ?_ hheight
    rw [hsquared hturned.squared, abs_of_neg hneg, neg_div, h.width_eq]

/-- The features of a box that can be drawn are those of the grating over it, with as
many rows and columns as the division has: the centers of its cells with their labels
and its lines, the last ones on the far sides of the box. There is one exception. A
near-square division of a box whose corners are exchanged along the first axis has
cells of a width above zero where those of the grating are below, and the features
are those of the grating turned about its first corner. -/
theorem features_eq_grating_iff (box : Bounds Rat) {f : Features Rat}
    (hf : features box.minX box.minY box.maxX box.maxY rows cols flipped rectangle = .ok f) :
    ∃ d g, divide box.width box.height rows cols rectangle = .ok d
      ∧ f.Counts d.rows d.cols
      ∧ ofBox box.minX box.minY box.width box.height d.rows d.cols false flipped = .ok g
      ∧ (f = g.asFeatures ↔ ¬ Turned box rows cols rectangle)
      ∧ (Turned box rows cols rectangle → f = g.turned.asFeatures)
      ∧ g.colLine d.cols = ⟨⟨box.maxX, box.minY⟩, ⟨box.maxX, box.maxY⟩⟩
      ∧ g.rowLine d.rows = ⟨⟨box.minX, box.maxY⟩, ⟨box.maxX, box.maxY⟩⟩ := by
  obtain ⟨d, g, hd, hg, hfeatures⟩ := exists_of_features hf
  have hover := over_of_ofBox hg
  rcases features_of_divide flipped hd with ⟨⟨hrows, hcols⟩, f', hf', hcounts⟩ | ⟨-, e, he, -⟩
  · cases hf.symm.trans hf'
    obtain ⟨hforward, hback⟩ := hover.withCells_cases hd hrows hcols
    have hturned : Turned box rows cols rectangle → f = g.turned.asFeatures := fun h => by
      rw [hfeatures, hback h]
    refine ⟨d, g, hd, hcounts, hg, ⟨fun hsame h => ?_, fun h => ?_⟩, hturned,
      hover.lastCol_eq hcols, hover.lastRow_eq hrows⟩
    · have hwidth : g.width ≠ 0 := by
        rw [hover.width_eq]
        exact div_ne_zero (sub_neg.mpr h.exchanged).ne (isCount_pos hcols).ne'
      have hone : 1 ≤ g.cols := by
        rw [hover.cols_eq]
        have hleast := (isCount_iff.mp hcols).1
        omega
      exact asFeatures_turned_ne hone hwidth ((hturned h).symm.trans hsame)
    · rw [hfeatures, hforward h]
  · cases hf.symm.trans he

/-- A box of a hundred by a hundred with its corners exchanged along the first axis, in
two by two. The columns of the grating run back to zero, those of the near-square
features away from it, to two hundred. -/
theorem features_eq_grating_iff_exchanged :
    ∃ f d g, features (100 : Rat) 0 0 100 2 2 false false = .ok f
      ∧ divide (0 - 100 : Rat) (100 - 0) 2 2 false = .ok d
      ∧ ofBox (100 : Rat) 0 (0 - 100) (100 - 0) d.rows d.cols false false = .ok g
      ∧ f ≠ g.asFeatures ∧ f = g.turned.asFeatures
      ∧ f.points.map (fun p => p.2.x) = [125, 125, 175, 175] := by
  have hvalue : (features (100 : Rat) 0 0 100 2 2 false false).toOption.map
      (fun f => f.points.map fun p => p.2.x) = some [125, 125, 175, 175] := by
    decide +kernel
  obtain ⟨f, hf, hpoints⟩ := Outcome.ok_of_toOption hvalue
  have hturned : Turned ⟨100, 0, 0, 100⟩ 2 2 false := by
    refine ⟨by norm_num, rfl, by decide, ?_⟩
    decide +kernel
  obtain ⟨d, g, hd, -, hg, hiff, hback, -, -⟩ :=
    features_eq_grating_iff ⟨100, 0, 0, 100⟩ hf
  exact ⟨f, d, g, hf, hd, hg, fun hsame => hiff.mp hsame hturned, hback hturned, hpoints⟩

-- ==================================================================== endings

/-- Features come with counts that can be drawn, or counts are refused. -/
def Documented {α : Type} (features : Outcome (Features α)) : Prop :=
  (∃ f rows cols, features = .ok f ∧ (isCount rows = true ∧ isCount cols = true)
      ∧ f.Counts rows cols)
    ∨ ∃ e, features = .error e ∧ e.family = .grating

section

variable {α : Type} [Scalar α] {box : Bounds α} {rows cols : Int} {flipped rectangle : Bool}

/-- A division that fails is told as it is. -/
theorem documented_iff_divide :
    Documented (features box.minX box.minY box.maxX box.maxY rows cols flipped rectangle)
      ↔ ∃ d, divide box.width box.height rows cols rectangle = .ok d := by
  constructor
  · intro h
    cases hd : divide box.width box.height rows cols rectangle with
    | ok d => exact ⟨d, rfl⟩
    | error fault =>
        have herror := features_of_divide_error flipped hd
        rcases h with ⟨f, r, c, hf, -⟩ | ⟨e, he, hfamily⟩
        · cases herror.symm.trans hf
        · cases herror.symm.trans he
          cases fault <;> cases hfamily
  · rintro ⟨d, hd⟩
    rcases features_of_divide flipped hd with ⟨hcounts, f, hf, hf'⟩ | ⟨-, e, he⟩
    · exact Or.inl ⟨f, d.rows, d.cols, hf, hcounts, hf'⟩
    · exact Or.inr ⟨e, he⟩

theorem documented_iff_squarish (hrows : Scalar.isFinite (Scalar.ofInt rows : α) = true)
    (hcols : Scalar.isFinite (Scalar.ofInt cols : α) = true) :
    Documented (features box.minX box.minY box.maxX box.maxY rows cols flipped rectangle)
      ↔ (rectangle = false → ∃ d, squarish box.width box.height (max rows cols) = .ok d) := by
  obtain ⟨across, hacross⟩ := exists_share box.width hcols
  obtain ⟨down, hdown⟩ := exists_share box.height hrows
  rw [documented_iff_divide]
  cases rectangle with
  | true => exact ⟨fun _ => nofun, fun _ => ⟨_, divide_given hacross hdown⟩⟩
  | false =>
      rw [divide_near hacross hdown]
      cases squarish box.width box.height (max rows cols) with
      | error fault => exact ⟨fun ⟨_, hd⟩ => (nomatch hd), fun h => (nomatch (h rfl).choose_spec)⟩
      | ok near => exact ⟨fun _ _ => ⟨near, rfl⟩, fun _ => ⟨_, rfl⟩⟩

end

/-- Features over exact bounds end as documented, unless the cells are to be near-square
and there is nothing to divide by: then it is told that a division was by zero. In every
arithmetic in which the counts are finite the near-square division is the one step that
can fail; without it the counts are refused exactly where one is out of range. -/
theorem features_documented_iff (box : Bounds Rat) (rows cols : Int) (flipped rectangle : Bool) :
    (Documented (features box.minX box.minY box.maxX box.maxY rows cols flipped rectangle)
        ↔ (rectangle = false → Divisible box.width box.height (max rows cols)))
      ∧ (rectangle = false → ¬ Divisible box.width box.height (max rows cols) →
        features box.minX box.minY box.maxX box.maxY rows cols flipped rectangle
          = .error (.fault .divisionByZero))
      ∧ ∀ {α : Type} [Scalar α] (box : Bounds α),
        Scalar.isFinite (Scalar.ofInt rows : α) = true →
        Scalar.isFinite (Scalar.ofInt cols : α) = true →
        (Documented (features box.minX box.minY box.maxX box.maxY rows cols flipped rectangle)
            ↔ (rectangle = false → ∃ d, squarish box.width box.height (max rows cols) = .ok d))
          ∧ (rectangle = true →
            ((∃ e, features box.minX box.minY box.maxX box.maxY rows cols flipped rectangle
                = .error e)
              ↔ ¬(isCount rows = true ∧ isCount cols = true))) := by
  refine ⟨?exact, ?failing, fun box hrows hcols => ⟨documented_iff_squarish hrows hcols, ?given⟩⟩
  case exact =>
    rw [documented_iff_squarish (Scalar.isFinite_rat _) (Scalar.isFinite_rat _)]
    refine forall_congr' fun _ => ⟨fun ⟨d, hd⟩ => ?_, squarish_of_divisible⟩
    by_contra h
    cases hd.symm.trans (squarish_of_not_divisible h)
  case failing =>
    rintro rfl h
    have hdivide := divide_near (share_rat box.width cols) (share_rat box.height rows)
    rw [squarish_of_not_divisible h] at hdivide
    exact features_of_divide_error flipped hdivide
  case given =>
    rintro rfl
    obtain ⟨across, hacross⟩ := exists_share box.width hcols
    obtain ⟨down, hdown⟩ := exists_share box.height hrows
    have hd := divide_given hacross hdown
    rcases features_of_divide flipped hd with ⟨hcounts, f, hf, -⟩ | ⟨hcounts, e, he, -⟩
    · exact ⟨fun ⟨e, he⟩ => (nomatch hf.symm.trans he), fun hnot => absurd hcounts hnot⟩
    · exact ⟨fun _ => hcounts, fun _ => ⟨e, he⟩⟩

/-- Counts of zero are refused over a box that is divided as given. Near-square cells
cannot be made by them, nor four by four in a box that is a point. -/
theorem features_documented_iff_zero :
    Documented (features (0 : Rat) 0 100 100 0 0 false true)
      ∧ ¬ Documented (features (0 : Rat) 0 100 100 0 0 false false)
      ∧ features (0 : Rat) 0 100 100 0 0 false false = .error (.fault .divisionByZero)
      ∧ features (0 : Rat) 0 0 0 4 4 false false = .error (.fault .divisionByZero) := by
  have hzero : ¬ Divisible (100 - 0 : Rat) (100 - 0) (max 0 0) := fun h => h.count rfl
  have hpoint : ¬ Divisible (0 - 0 : Rat) (0 - 0) (max 4 4) := fun h =>
    h.sides.elim (fun hne => hne (sub_self 0)) (fun hne => hne (sub_self 0))
  obtain ⟨hiff, hfailing, -⟩ := features_documented_iff ⟨0, 100, 0, 100⟩ 0 0 false false
  refine ⟨?_, fun h => hzero (hiff.mp h rfl), hfailing rfl hzero, ?_⟩
  · exact (features_documented_iff ⟨0, 100, 0, 100⟩ 0 0 false true).1.mpr nofun
  · exact (features_documented_iff ⟨0, 0, 0, 0⟩ 4 4 false false).2.1 rfl hpoint

end MapSheets.Grating
