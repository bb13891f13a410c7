import Mathlib.Tactic.FieldSimp
import MapSheets.Proofs.Number.Real
import MapSheets.Cell.Basic

/-
The web map over the real numbers. A latitude is drawn at a height above the equator
(`height`), and a height is that of one latitude (`latOf`); between the ends of the web map
the two undo each other and keep their order. What is drawn depends on the zoom by the size
of the world alone (`drawn`): the pixel of a point leads back to it at every zoom, and the
middle of two pixels is the pixel of the middle in longitude and in height (`drawn_between`).
So the middle of a cell on the map is one place, and it lies in the cell.
-/

namespace MapSheets

open Real

namespace Mercator

-- ================================================== latitudes and heights

/-- The height above the equator that a latitude is drawn at; the web map reaches from `-π`
to `π`. -/
noncomputable def height (lat : ℝ) : ℝ := arsinh (tan (lat * (π / 180)))

/-- The latitude of a height. -/
noncomputable def latOf (u : ℝ) : ℝ := arctan (sinh u) * (180 / π)

section

variable {lat south north : ℝ}

theorem latOf_height (h : |lat| < 90) : latOf (height lat) = lat := by
  unfold latOf height
  rw [sinh_arsinh, arctan_tan (Elementary.angle_mem_Ioo h).1 (Elementary.angle_mem_Ioo h).2]
  field_simp

theorem latOf_strictMono : StrictMono latOf := fun _ _ h =>
  mul_lt_mul_of_pos_right (arctan_strictMono (sinh_lt_sinh.mpr h)) (by positivity)

theorem latOf_mono : Monotone latOf := latOf_strictMono.monotone

theorem height_le_height (hsouth : |south| < 90) (hnorth : |north| < 90) (h : south ≤ north) :
    height south ≤ height north := by
  rw [← latOf_strictMono.le_iff_le, latOf_height hsouth, latOf_height hnorth]
  exact h

/-- A height between those of two latitudes is that of a latitude between them. -/
theorem latOf_between (hsouth : |south| < 90) (hnorth : |north| < 90) (h : south ≤ north) :
    south ≤ latOf ((height north + height south) / 2)
      ∧ latOf ((height north + height south) / 2) ≤ north := by
  have hheights := height_le_height hsouth hnorth h
  constructor
  · calc
      south = latOf (height south) := (latOf_height hsouth).symm
      _ ≤ latOf ((height north + height south) / 2) := latOf_mono (by linarith)
  · calc
      latOf ((height north + height south) / 2) ≤ latOf (height north) :=
        latOf_mono (by linarith)
      _ = north := latOf_height hnorth

end

-- ================================================================== pixels

/-- The pixel of a longitude and a height in a world of so many pixels. -/
noncomputable def drawn (world lng u : ℝ) : Point ℝ :=
  ⟨(lng + 180) / 360 * world, (1 - u / π) / 2 * world⟩

/-- The middle of two pixels is the pixel of the middle. -/
theorem drawn_between (world lng₁ lng₂ u₁ u₂ : ℝ) :
    (drawn world lng₁ u₁).between (drawn world lng₂ u₂)
      = drawn world ((lng₁ + lng₂) / 2) ((u₁ + u₂) / 2) := by
  unfold Point.between drawn
  rw [Scalar.ofNat_real, Point.mk.injEq]
  constructor <;> ring

variable {lat lng zoom side : ℝ}

theorem clampLat_real (lat : ℝ) :
    clampLat lat = max (-85.05112878) (min 85.05112878 lat) := by
  have hgreatest : (greatestLat : ℝ) = 85.05112878 := by
    show ((8505112878 : ℤ) : ℝ) / ((100000000 : ℤ) : ℝ) = 85.05112878
    norm_num
  unfold clampLat
  rw [Scalar.greatest_real, Scalar.least_real, hgreatest]

theorem clampLat_of_reach (hsouth : -85.05112878 ≤ lat)
    (hnorth : lat ≤ 85.05112878) : clampLat lat = lat := by
  rw [clampLat_real, min_eq_right hnorth, max_eq_right hsouth]

theorem abs_clampLat_lt (lat : ℝ) : |clampLat lat| < 90 := by
  rw [clampLat_real, abs_lt]
  constructor
  · exact lt_max_of_lt_left (by norm_num)
  · exact max_lt (by norm_num) (min_lt_of_left_lt (by norm_num))

theorem pixelOf_real (lat lng zoom side : ℝ) :
    ∃ p, p = drawn (side * 2 ^ zoom) lng (height (clampLat lat))
      ∧ pixelOf lat lng zoom side = .ok (p.x, p.y) := by
  refine ⟨_, rfl, ?_⟩
  unfold pixelOf
  dsimp only
  rw [Elementary.powerOfTwo?_real, Outcome.ok_bind, Elementary.tangent?_real, Outcome.ok_bind]
  rw [Scalar.one_real]
  rfl

theorem pointOf_drawn (hside : 0 < side) (lng u zoom : ℝ) :
    pointOf (drawn (side * 2 ^ zoom) lng u).x (drawn (side * 2 ^ zoom) lng u).y zoom side
      = .ok (latOf u, lng) := by
  have hworld : side * 2 ^ zoom ≠ 0 := by positivity
  unfold pointOf
  dsimp only
  rw [Elementary.powerOfTwo?_real, Outcome.ok_bind, Scalar.quotient?_real hworld,
    Outcome.ok_bind, Scalar.quotient?_real hworld, Outcome.ok_bind, Elementary.hyperbolicSine?_real,
    Outcome.ok_bind]
  rw [Scalar.one_real]
  have hheight : π * (1 - 2 * (drawn (side * 2 ^ zoom) lng u).y / (side * 2 ^ zoom)) = u := by
    unfold drawn
    field_simp
    ring
  have hlng : (drawn (side * 2 ^ zoom) lng u).x / (side * 2 ^ zoom) * 360 - 180 = lng := by
    unfold drawn
    field_simp
    ring
  rw [show Elementary.pi = π from rfl, hheight, hlng]
  rfl

end Mercator

namespace Cell

open Mercator

variable {c : Cell ℝ} {box : Bounds ℝ}

theorem tileSide_pos : (0 : ℝ) < tileSide := by
  unfold tileSide
  rw [Scalar.ofNat_real]
  norm_num

/-- The middle of a cell on the map, at any zoom: halfway between its sides in longitude and
in height. -/
theorem mapCenter_real (h : c.hull = .ok box) (zoom : ℝ) :
    c.mapCenter zoom = .ok ⟨
      latOf ((height (clampLat box.maxY) + height (clampLat box.minY)) / 2),
      (box.minX + box.maxX) / 2⟩ := by
  obtain ⟨p, hp, hnorthWest⟩ := pixelOf_real box.maxY box.minX zoom tileSide
  obtain ⟨q, hq, hsouthEast⟩ := pixelOf_real box.minY box.maxX zoom tileSide
  have hcenter : c.pixelCenter zoom = .ok (p.between q) := by
    unfold pixelCenter pixelCorners
    rw [h, Outcome.ok_bind, hnorthWest, hsouthEast]
    rfl
  unfold mapCenter
  rw [hcenter, hp, hq, drawn_between, Outcome.ok_bind, pointOf_drawn tileSide_pos]
  rfl

/-- A cell's box has its sides in order. -/
theorem ordered_of_hull (h : c.hull = .ok box) : box.minX ≤ box.maxX ∧ box.minY ≤ box.maxY := by
  obtain ⟨p, -, h⟩ := Outcome.bind_eq_ok.mp h
  obtain ⟨q, -, h⟩ := Outcome.bind_eq_ok.mp h
  cases h
  exact ⟨Scalar.least_le_greatest_real _ _, Scalar.least_le_greatest_real _ _⟩

end Cell

/-- A pixel leads back to its point at every zoom and for tiles of every size, a point
beyond the ends of the web map to the end. The middle of a cell between the ends is the same
point at every zoom, and lies in the box of the cell. -/
theorem Mercator.pixel_there_and_back :
    (∀ lat lng zoom side : ℝ, 0 < side → ∃ x y, pixelOf lat lng zoom side = .ok (x, y)
        ∧ pointOf x y zoom side = .ok (max (-85.05112878) (min 85.05112878 lat), lng))
      ∧ ∀ (c : Cell ℝ) (box : Bounds ℝ), c.hull = .ok box →
        -85.05112878 ≤ box.minY → box.maxY ≤ 85.05112878 →
          ∃ p, (∀ zoom, c.mapCenter zoom = .ok p) ∧ box.contains ⟨p.lng, p.lat⟩ = true := by
  constructor
  · intro lat lng zoom side hside
    obtain ⟨p, hp, hpixel⟩ := pixelOf_real lat lng zoom side
    refine ⟨p.x, p.y, hpixel, ?_⟩
    rw [hp, pointOf_drawn hside, latOf_height (abs_clampLat_lt lat), clampLat_real]
  · intro c box hbox hsouth hnorth
    obtain ⟨hx, hy⟩ := Cell.ordered_of_hull hbox
    have habsSouth : |box.minY| < 90 := abs_lt.mpr ⟨by linarith, by linarith⟩
    have habsNorth : |box.maxY| < 90 := abs_lt.mpr ⟨by linarith, by linarith⟩
    obtain ⟨habove, hbelow⟩ := latOf_between habsSouth habsNorth hy
    refine ⟨⟨latOf ((height box.maxY + height box.minY) / 2), (box.minX + box.maxX) / 2⟩,
      fun zoom => ?_, ?_⟩
    · rw [Cell.mapCenter_real hbox, clampLat_of_reach hsouth (hy.trans hnorth),
        clampLat_of_reach (hsouth.trans hy) hnorth]
    · simp only [Bounds.contains, Bool.and_eq_true, decide_eq_true_eq]
      exact ⟨⟨⟨by linarith, by linarith⟩, habove⟩, hbelow⟩

/-- A point at 57 degrees north is led back to, and one at the pole to the end of the web
map. The middle of a cell at 57 degrees is one place in it. -/
theorem Mercator.pixel_there_and_back_north :
    (0 : ℝ) < 256
      ∧ (∃ x y, pixelOf (57 : ℝ) 5 3 256 = .ok (x, y) ∧ pointOf x y 3 256 = .ok (57, 5))
      ∧ (∃ x y, pixelOf (90 : ℝ) 5 3 256 = .ok (x, y)
        ∧ pointOf x y 3 256 = .ok (85.05112878, 5))
      ∧ ∃ (c : Cell ℝ) (box : Bounds ℝ), c.hull = .ok box
        ∧ (-85.05112878 ≤ box.minY ∧ box.maxY ≤ 85.05112878)
        ∧ ∃ p, (∀ zoom, c.mapCenter zoom = .ok p) ∧ box.contains ⟨p.lng, p.lat⟩ = true := by
  have hside : (0 : ℝ) < 256 := by norm_num
  obtain ⟨hpixel, hcenter⟩ := pixel_there_and_back
  refine ⟨hside, ?_, ?_, ?_⟩
  · obtain ⟨x, y, hdrawn, hback⟩ := hpixel 57 5 3 256 hside
    refine ⟨x, y, hdrawn, ?_⟩
    rw [hback, min_eq_right (by norm_num), max_eq_right (by norm_num)]
  · obtain ⟨x, y, hdrawn, hback⟩ := hpixel 90 5 3 256 hside
    refine ⟨x, y, hdrawn, ?_⟩
    rw [hback, min_eq_left (by norm_num), max_eq_right (by norm_num)]
  · let c : Cell ℝ :=
      { mdgid := .whole "A", southWest := some ⟨57, 5⟩, northEast := some ⟨57.25, 5.5⟩ }
    have hhull : c.hull = .ok ⟨5, 5.5, 57, 57.25⟩ := by
      show Except.ok (Bounds.mk (Scalar.least 5.5 5) (Scalar.greatest 5.5 5)
        (Scalar.least 57.25 57) (Scalar.greatest 57.25 57)) = _
      rw [Scalar.least_real, Scalar.greatest_real, Scalar.least_real, Scalar.greatest_real,
        min_eq_right (by norm_num), max_eq_left (by norm_num), min_eq_right (by norm_num),
        max_eq_left (by norm_num)]
    have hsouth : (-85.05112878 : ℝ) ≤ 57 := by norm_num
    have hnorth : (57.25 : ℝ) ≤ 85.05112878 := by norm_num
    exact ⟨c, _, hhull, ⟨hsouth, hnorth⟩, hcenter c _ hhull hsouth hnorth⟩

end MapSheets
