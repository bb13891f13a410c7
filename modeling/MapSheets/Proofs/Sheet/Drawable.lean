import MapSheets.Proofs.Drawing.GratingMarks
import MapSheets.Proofs.Sheet.Accepted
import MapSheets.Proofs.Trellis.Edge
import MapSheets.Sheet.Composition
import Mathlib.Algebra.Order.Floor.Ring
import Mathlib.Tactic.Positivity

/-
What can be drawn with settings that were accepted. The checks are on amounts as
they were given; what is drawn with is made from them later, in whatever quantities
the program calculates. The spacing loses its fraction, and one below a meter
becomes none at all: every coordinate is then divided by zero (`Spacing.Fails`). The
scale and the resolution become quantities, which a whole number can be too large
for, and what a pixel covers can be rounded to nothing; exact quantities are neither
(`Accepted.coversGround`). The counts of a grating are counted up to, which only
whole numbers can be, but a count with a point in it passes its check. Nothing else
stands in the way (`Sheet.drawable_iff`), and over exact quantities only the spacing
and the counts do (`Accepted.drawable_exact`).
-/

namespace MapSheets

-- ============================================================= conversions

namespace Outcome

variable {α : Type} [Scalar α] {β : Type}

/-- Work that fails at most where a quantity has no whole number or a whole number no
quantity, with the fault of that. -/
abbrev UpToConversion (α : Type) [Scalar α] (x : Outcome β) : Prop :=
  Ends Any (fun f => ∃ e, f = .fault e
    ∧ ((∃ x : α, Scalar.floor? x = .error e)
      ∨ ∃ n, (Scalar.ofInt? n : Except Fault α) = .error e)) x

theorem upToConversion_floor (x : α) :
    UpToConversion α (liftM (Scalar.floor? x) : Outcome Int) := by
  cases h : Scalar.floor? x with
  | error e => exact ends_error ⟨e, rfl, Or.inl ⟨x, h⟩⟩
  | ok n => exact ends_ok trivial

theorem upToConversion_ceil (x : α) :
    UpToConversion α (liftM (Scalar.ceil? x) : Outcome Int) := by
  unfold Scalar.ceil?
  cases h : Scalar.floor? (-x) with
  | error e => exact ends_error ⟨e, rfl, Or.inl ⟨-x, h⟩⟩
  | ok n => exact ends_ok trivial

theorem upToConversion_ofInt (n : Int) :
    UpToConversion α (liftM (Scalar.ofInt? n : Except Fault α) : Outcome α) := by
  cases h : (Scalar.ofInt? n : Except Fault α) with
  | error e => exact ends_error ⟨e, rfl, Or.inr ⟨n, h⟩⟩
  | ok x => exact ends_ok trivial

end Outcome

-- ================================================================= spacings

namespace Spacing

section
variable (α : Type) [Scalar α] [NumberText α] [Elementary α]

/-- Every coordinate can be split at a spacing, and an edge that runs forward can be
made for it up to conversions; nothing is divided by zero. -/
structure Works (s : Spacing) : Prop where
  splits : ∀ meters, ∃ p, s.split meters = .ok p
  edges : ∀ start finish across : α, 0 < finish - start →
    Outcome.UpToConversion α (Edge.between start finish across s)

variable {α}

theorem works_of_ne_zero {s : Spacing} (h : s.size ≠ 0) : s.Works α := by
  have hsplit : ∀ meters, ∃ p, s.split meters = .ok p := by
    intro meters
    unfold split
    rw [if_neg h]
    exact ⟨_, rfl⟩
  refine ⟨hsplit, fun start finish across hforward => ?_⟩
  have hends : ∀ meters,
      Outcome.UpToConversion α (liftM (s.split meters) : Outcome SplitCoord) := by
    intro meters
    obtain ⟨p, hp⟩ := hsplit meters
    rw [hp]
    exact Outcome.ends_ok trivial
  unfold Edge.between Edge.ofLength
  rw [if_neg (not_not.mpr hforward)]
  refine .bind_any (fun startFloor => ?_) (Outcome.upToConversion_floor start)
  refine .bind_any (fun startSplit => ?_) (hends startFloor)
  refine .bind_any (fun endFloor => ?_) (Outcome.upToConversion_floor finish)
  refine .bind_any (fun endSplit => ?_) (hends endFloor)
  refine .bind_any (fun ceiling => ?_) (Outcome.upToConversion_ceil finish)
  refine .bind_any (fun first => ?_) (Outcome.upToConversion_ofInt _)
  refine .bind_any (fun last => ?_) (Outcome.upToConversion_ofInt _)
  exact .bind_any (fun size => Outcome.ends_ok trivial) (Outcome.upToConversion_ofInt _)

end

/-- No conversion of doubles is a division, so where a spacing works nothing is divided
by zero on the way to an edge. -/
theorem Works.edge_ne_remainderByZero {s : Spacing} (h : s.Works Float)
    {start finish : Float} (across : Float) (hforward : 0 < finish - start) :
    Edge.between start finish across s ≠ .error (.fault .remainderByZero) := by
  intro hdivided
  obtain ⟨e, he, hconversion⟩ := (h.edges start finish across hforward).failure _ hdivided
  cases he
  rcases hconversion with ⟨x, hx⟩ | ⟨n, hn⟩
  · change (Binary.decode x).floor? = _ at hx
    cases hdecoded : Binary.decode x
    all_goals
      rw [hdecoded] at hx
      cases hx
  · unfold Scalar.ofInt? at hn
    dsimp only at hn
    split at hn
    all_goals cases hn

/-- With exact quantities there is an edge, as every conversion has a result. -/
theorem Works.exists_edge [NumberText Rat] [Elementary Rat] {s : Spacing} (h : s.Works Rat)
    {start finish : Rat} (across : Rat) (hforward : 0 < finish - start) :
    ∃ e, Edge.between start finish across s = .ok e := by
  cases hedge : Edge.between start finish across s with
  | ok e => exact ⟨e, rfl⟩
  | error f =>
      obtain ⟨e, -, hconversion⟩ := (h.edges start finish across hforward).failure f hedge
      rcases hconversion with ⟨x, hx⟩ | ⟨n, hn⟩
      · cases hx
      · cases (Scalar.ofInt?_rat n).symm.trans hn

end Spacing

-- ================================================================= amounts

namespace Amount

section
variable {α : Type} [Scalar α] {a : Amount α}

/-- The quantity that an amount is rounded to. -/
def rounded : Amount α → α
  | whole n => Scalar.ofInt n
  | real x => x
  | flag b => if b then 1 else 0

/-- The amount is no whole number that is too large for a quantity. -/
def Fits (a : Amount α) : Prop :=
  ∀ n, a = whole n → Scalar.isFinite (Scalar.ofInt n : α) = true

theorem value?_of_fits (h : a.Fits) : a.value? = .ok a.rounded := by
  cases a with
  | whole n => exact if_pos (h n rfl)
  | real x => rfl
  | flag b => rfl

theorem value?_of_not_fits (h : ¬ a.Fits) : a.value? = .error .wholeTooLarge := by
  unfold Fits at h
  push Not at h
  obtain ⟨n, rfl, hlarge⟩ := h
  exact if_neg hlarge

/-- The whole part of an amount above zero is one at least, unless it has a point in
it: then it is as large as the whole part of that quantity. -/
theorem one_le_truncate?_iff (h : ¬ a.isAtMostZero) :
    (∃ n, a.truncate? = .ok n ∧ 1 ≤ n)
      ↔ ∀ x, a = real x → ∃ n, Scalar.truncate? x = .ok n ∧ 1 ≤ n := by
  cases a with
  | whole n =>
      have hpositive : 0 < n := by simpa [isAtMostZero] using h
      exact iff_of_true ⟨n, rfl, Int.add_one_le_iff.mpr hpositive⟩ nofun
  | real x =>
      constructor
      · rintro hone _ ⟨⟩
        exact hone
      · intro hone
        exact hone x rfl
  | flag b =>
      cases b with
      | false => exact absurd rfl h
      | true => exact iff_of_true ⟨1, rfl, le_rfl⟩ nofun

end

/-- An exact amount above zero is a quantity above zero. -/
theorem rounded_pos {a : Amount Rat} (h : ¬ a.isAtMostZero) : 0 < a.rounded := by
  cases a with
  | whole n =>
      have hpositive : 0 < n := by simpa [isAtMostZero] using h
      exact Int.cast_pos.mpr hpositive
  | real x => exact not_le.mp (mt decide_eq_true h)
  | flag b =>
      cases b with
      | false => exact absurd rfl h
      | true => exact zero_lt_one (α := Rat)

end Amount

namespace Sheet

-- ================================================================ measures

section
variable {α : Type} [Scalar α] {s : Sheet α}

/-- The scale and the resolution become quantities, and the ground that they give a
pixel comes out above zero. -/
structure CoversGround (s : Sheet α) : Prop where
  scale : s.scale.Fits
  dpi : s.dpi.Fits
  dpi_ne_zero : Scalar.isZero s.dpi.rounded = false
  pos : 0 < s.scale.rounded * Mercator.metersPerInch / s.dpi.rounded

theorem groundPixel_of_fits (hscale : s.scale.Fits) (hdpi : s.dpi.Fits) :
    s.groundPixel
      = Scalar.quotient? (s.scale.rounded * Mercator.metersPerInch) s.dpi.rounded := by
  unfold groundPixel
  rw [Amount.value?_of_fits hscale, Amount.value?_of_fits hdpi]
  rfl

/-- A whole number beyond the quantities is the failure, whichever of the two it is. -/
theorem groundPixel_of_not_fits (h : ¬(s.scale.Fits ∧ s.dpi.Fits)) :
    s.groundPixel = .error .wholeTooLarge := by
  unfold groundPixel
  by_cases hscale : s.scale.Fits
  · rw [Amount.value?_of_fits hscale,
      Amount.value?_of_not_fits fun hdpi => h ⟨hscale, hdpi⟩]
    rfl
  · rw [Amount.value?_of_not_fits hscale]
    rfl

theorem exists_groundPixel_iff :
    (∃ ground, s.groundPixel = .ok ground ∧ 0 < ground) ↔ s.CoversGround := by
  constructor
  · rintro ⟨ground, hground, hpos⟩
    obtain ⟨hscale, hdpi⟩ : s.scale.Fits ∧ s.dpi.Fits := by
      by_contra hlarge
      cases (groundPixel_of_not_fits hlarge).symm.trans hground
    rw [groundPixel_of_fits hscale hdpi, Scalar.quotient?] at hground
    split at hground
    case isTrue => cases hground
    case isFalse hzero =>
      cases hground
      exact ⟨hscale, hdpi, Bool.not_eq_true _ ▸ hzero, hpos⟩
  · intro h
    refine ⟨_, ?_, h.pos⟩
    rw [groundPixel_of_fits h.scale h.dpi, Scalar.quotient?, h.dpi_ne_zero]
    rfl

theorem gridSpacing_of_truncate? {n : Int} (h : s.spacing.truncate? = .ok n) :
    s.gridSpacing = .ok ⟨n⟩ := by
  unfold gridSpacing
  rw [h]
  rfl

end

/-- A pixel covers some ground at every scale and resolution that is accepted, if the
quantities are exact. -/
theorem Accepted.coversGround {s : Sheet Rat} (h : s.Accepted) : s.CoversGround where
  scale _ _ := rfl
  dpi _ _ := rfl
  dpi_ne_zero := by
    rw [Scalar.isZero_rat]
    exact decide_eq_false (Amount.rounded_pos h.dpi).ne'
  pos := by
    have hscale := Amount.rounded_pos h.scale
    have hdpi := Amount.rounded_pos h.dpi
    have hinch : (0 : Rat) < Mercator.metersPerInch := by
      show (0 : Rat) < 254 / 10000
      norm_num
    positivity

-- ================================================================ gratings

section
variable {α : Type} [Scalar α] [NumberText α] {s : Sheet α}

theorem exists_gratingMarks {rows cols : Int} (hrows : s.gratingRows = .int rows)
    (hcols : s.gratingCols = .int cols) (hrange : Grating.isCount rows = true)
    (hrange' : Grating.isCount cols = true) (width height : α) (box : PixelBox α) :
    ∃ g, Grating.ofBox 0 0 width height rows cols false false = .ok g
      ∧ (g.IsWritable box → ∃ marks, s.gratingMarks width height box = .ok marks
        ∧ (marks.lines.length : Int) = rows + cols + 2
        ∧ (marks.labels.length : Int) = rows * cols) := by
  obtain ⟨g, hg, hgrows, hgcols⟩ : ∃ g,
      Grating.ofBox 0 0 width height rows cols false false = .ok g ∧ g.rows = rows
        ∧ g.cols = cols :=
    ⟨_, Grating.ofBox_eq 0 0 width height hrange hrange' false false, rfl, rfl⟩
  refine ⟨g, hg, fun hwritable => ?_⟩
  obtain ⟨marks, hmarks, hlines, hlabels⟩ := Grating.exists_marks
    (hgrows ▸ Grating.isCount_nonneg hrange) (hgcols ▸ Grating.isCount_nonneg hrange')
    hwritable (.number (Scalar.ratio 1 2)) 10
  refine ⟨marks, ?_, hgrows ▸ hgcols ▸ hlines, hgrows ▸ hgcols ▸ hlabels⟩
  unfold gratingMarks
  rw [hrows, hcols]
  show Grating.ofBox 0 0 width height rows cols false false >>= _ = _
  rw [hg]
  exact hmarks

variable [OfDouble α]

variable [Elementary α]

/-- Settings that every part of a sheet can be drawn with. The marks of a grating are
those of the page that it divides, where the places of its labels can be written. -/
structure Drawable (s : Sheet α) : Prop where
  grid : ∃ spacing, s.gridSpacing = .ok spacing ∧ 1 ≤ spacing.size ∧ spacing.Works α
  ground : ∃ ground, s.groundPixel = .ok ground ∧ 0 < ground
  grating : s.drawGrating.isTruthy = true → ∃ rows cols,
    gratingCount s.gratingRows = .ok rows ∧ gratingCount s.gratingCols = .ok cols
      ∧ ∀ width height box, ∃ g, Grating.ofBox 0 0 width height rows cols false false = .ok g
        ∧ (g.IsWritable box → ∃ marks, s.gratingMarks width height box = .ok marks
          ∧ (marks.lines.length : Int) = rows + cols + 2
          ∧ (marks.labels.length : Int) = rows * cols)

/-- With accepted settings everything can be drawn if and only if a spacing with a point
in it has a meter at least before the point, a pixel covers some ground as it is
calculated, and the counts of a grating that is drawn are whole numbers. -/
theorem Accepted.drawable_conditions (h : s.Accepted) :
    s.Drawable ↔ (∀ x, s.spacing = .real x → ∃ n, Scalar.truncate? x = .ok n ∧ 1 ≤ n)
      ∧ s.CoversGround
      ∧ (s.drawGrating.isTruthy = true →
        ∀ count ∈ [s.gratingRows, s.gratingCols], ∃ n, count = .int n) := by
  rw [← Amount.one_le_truncate?_iff h.spacing, ← exists_groundPixel_iff]
  constructor
  case mp =>
    intro hdrawable
    refine ⟨?_, hdrawable.ground, fun hdrawn count hcount => ?_⟩
    · obtain ⟨spacing, hgrid, hsize, -⟩ := hdrawable.grid
      obtain ⟨n, hn, hspacing⟩ := Outcome.bind_eq_ok.mp hgrid
      cases hspacing
      exact ⟨n, hn, hsize⟩
    · rcases (h.counts hdrawn count hcount).cases with ⟨n, hn, -⟩ | ⟨x, text, -, herror⟩
      · exact ⟨n, hn⟩
      · -- such a count has no whole number
        obtain ⟨rows, cols, hrows, hcols, -⟩ := hdrawable.grating hdrawn
        rcases List.mem_pair.mp hcount with rfl | rfl
        · rw [herror] at hrows
          cases hrows
        · rw [herror] at hcols
          cases hcols
  case mpr =>
    rintro ⟨⟨n, hn, hone⟩, hground, hwhole⟩
    have hworks : Spacing.Works α ⟨n⟩ := Spacing.works_of_ne_zero (by dsimp only; omega)
    refine ⟨⟨_, gridSpacing_of_truncate? hn, hone, hworks⟩, hground, fun hdrawn => ?_⟩
    have hcounts : ∀ count ∈ [s.gratingRows, s.gratingCols],
        ∃ n, count = .int n ∧ Grating.isCount n = true := by
      intro count hcount
      rcases (h.counts hdrawn count hcount).cases with hn | ⟨x, text, rfl, -⟩
      · exact hn
      · obtain ⟨n, hn⟩ := hwhole hdrawn _ hcount
        cases hn
    obtain ⟨rows, hrows, hrange⟩ := hcounts s.gratingRows List.mem_cons_self
    obtain ⟨cols, hcols, hrange'⟩ := hcounts s.gratingCols (by simp)
    refine ⟨rows, cols, by rw [hrows]; rfl, by rw [hcols]; rfl, fun width height box => ?_⟩
    exact exists_gratingMarks hrows hcols hrange hrange' width height box

end

/-- With exact quantities a pixel covers some ground in any case, and a spacing with a
point in it has a meter before the point if it is a meter at least. -/
theorem Accepted.drawable_exact [NumberText Rat] [Elementary Rat] {s : Sheet Rat}
    (h : s.Accepted) :
    s.Drawable ↔ (∀ x, s.spacing = .real x → 1 ≤ x)
      ∧ (s.drawGrating.isTruthy = true →
        ∀ count ∈ [s.gratingRows, s.gratingCols], ∃ n, count = .int n) := by
  have hmeter : ∀ x, s.spacing = .real x →
      ((∃ n, Scalar.truncate? x = .ok n ∧ 1 ≤ n) ↔ 1 ≤ x) := by
    intro x hx
    have hspacing := h.spacing
    rw [hx] at hspacing
    have hpositive : 0 < x := Amount.rounded_pos hspacing
    rw [Scalar.truncate?_rat_of_nonneg hpositive.le]
    constructor
    · rintro ⟨_, ⟨⟩, hone⟩
      exact_mod_cast Int.le_floor.mp hone
    · intro hone
      exact ⟨_, rfl, Int.le_floor.mpr (by exact_mod_cast hone)⟩
  rw [h.drawable_conditions]
  constructor
  · rintro ⟨hspacing, -, hwhole⟩
    exact ⟨fun x hx => (hmeter x hx).mp (hspacing x hx), hwhole⟩
  · rintro ⟨hspacing, hwhole⟩
    exact ⟨fun x hx => (hmeter x hx).mpr (hspacing x hx), h.coversGround, hwhole⟩

/-- With exact quantities a grating is drawn whole, as every place can be written. -/
theorem Drawable.exists_gratingMarks [NumberText Rat] [Elementary Rat] {s : Sheet Rat}
    (h : s.Drawable) (hdrawn : s.drawGrating.isTruthy = true) :
    ∃ rows cols, gratingCount s.gratingRows = .ok rows ∧ gratingCount s.gratingCols = .ok cols
      ∧ ∀ width height box, ∃ marks, s.gratingMarks width height box = .ok marks
        ∧ (marks.lines.length : Int) = rows + cols + 2
        ∧ (marks.labels.length : Int) = rows * cols := by
  obtain ⟨rows, cols, hrows, hcols, hmarks⟩ := h.grating hdrawn
  refine ⟨rows, cols, hrows, hcols, fun width height box => ?_⟩
  obtain ⟨g, -, hwhole⟩ := hmarks width height box
  exact hwhole fun _ _ => ⟨Scalar.isFinite_rat _, Scalar.isFinite_rat _⟩

/-- A scale beyond all doubles. -/
def tooLarge : List (String × Json) := [("name", .str "a"), ("scale", .int ((10 ^ 200) ^ 2))]

end Sheet

end MapSheets
