import Mathlib.Tactic.FieldSimp
import MapSheets.Proofs.Number.Real
import MapSheets.Geodesy.Mercator

/-
Zoom, ground resolution and paper scale over the real numbers. At a latitude the map is
as wide as the parallel, and a zoom and a ground resolution are two ways to say in how
many tiles that width is drawn: `zoomOf` and `groundOf` take one to the other and back
(`groundOf_zoomOf`, `zoomOf_groundOf`). The zoom that is computed from a scale and the
one that is computed from a ground resolution are both `zoomOf`.

A step is refused where a divisor is zero or a logarithm has no value, and nowhere else;
so a scale that got as far as the zoom comes back out of the ground resolution, whatever
the latitude is (`scaleOfGround_of_zoom`).
-/

namespace MapSheets

open Real

namespace Mercator

-- =========================================================== the two ways

/-- The length of the parallel at a latitude. -/
noncomputable def parallel (circumference lat : ℝ) : ℝ := cos (lat * (π / 180)) * circumference

/-- The zoom at which a width is drawn with so much ground in a pixel. -/
noncomputable def zoomOf (width ground : ℝ) : ℝ := logb 2 (width / ground / 256)

/-- The ground in a pixel where a width is drawn at a zoom. -/
noncomputable def groundOf (width zoom : ℝ) : ℝ := width / (256 * 2 ^ zoom)

section

variable {width ground : ℝ}

theorem groundOf_zoomOf (h : 0 < width / ground / 256) : groundOf width (zoomOf width ground) = ground := by
  have hwidth : width ≠ 0 := by
    rintro rfl
    simp at h
  have hground : ground ≠ 0 := by
    rintro rfl
    simp at h
  unfold groundOf zoomOf
  rw [rpow_logb two_pos (by norm_num) h]
  field_simp

theorem groundOf_pos (hwidth : 0 < width) (zoom : ℝ) : 0 < groundOf width zoom := by
  unfold groundOf
  positivity

theorem zoomOf_groundOf (hwidth : 0 < width) (zoom : ℝ) : zoomOf width (groundOf width zoom) = zoom := by
  have hpower : (0 : ℝ) < 2 ^ zoom := rpow_pos_of_pos two_pos zoom
  have hpixels : width / groundOf width zoom / 256 = 2 ^ zoom := by
    unfold groundOf
    field_simp
  unfold zoomOf
  rw [hpixels, logb_rpow two_pos (by norm_num)]

end

-- ============================================================== the steps

theorem metersPerInch_real : (metersPerInch : ℝ) = 0.0254 := by
  show ((254 : ℤ) : ℝ) / ((10000 : ℤ) : ℝ) = 0.0254
  norm_num

theorem tileSide_real : (tileSide : ℝ) = 256 := Scalar.ofNat_real 256

section

variable {circumference scale dpi lat zoom ground : ℝ}

theorem parallelLength_real (circumference lat : ℝ) :
    parallelLength circumference lat = .ok (parallel circumference lat) := by
  unfold parallelLength
  rw [Elementary.cosine?_real, Outcome.ok_bind, Scalar.ofNat_real]
  rfl

theorem scaleOfGround_real (dpi ground : ℝ) : scaleOfGround dpi ground = ground * dpi / 0.0254 := by
  unfold scaleOfGround
  rw [metersPerInch_real]

theorem groundOfScale_eq_ok_iff :
    groundOfScale scale dpi = .ok ground ↔ dpi ≠ 0 ∧ ground = scale * 0.0254 / dpi := by
  unfold groundOfScale
  rw [Scalar.quotient?_real_iff, metersPerInch_real]

theorem groundOfZoom_real (circumference zoom lat : ℝ) :
    groundOfZoom circumference zoom lat = .ok (groundOf (parallel circumference lat) zoom) := by
  have hpixels : (256 : ℝ) * 2 ^ zoom ≠ 0 := by positivity
  unfold groundOfZoom
  rw [parallelLength_real, Outcome.ok_bind, Elementary.powerOfTwo?_real, Outcome.ok_bind,
    tileSide_real]
  exact Scalar.quotient?_real hpixels _

theorem zoomForGround_eq_ok_iff : zoomForGround circumference ground lat = .ok zoom
    ↔ 0 < parallel circumference lat / ground / 256
      ∧ zoom = zoomOf (parallel circumference lat) ground := by
  unfold zoomForGround
  rw [parallelLength_real, Outcome.ok_bind, Outcome.bind_eq_ok, tileSide_real]
  constructor
  · rintro ⟨pixels, hpixels, hzoom⟩
    obtain ⟨-, rfl⟩ := Scalar.quotient?_real_iff.mp hpixels
    rw [← div_div] at hzoom
    exact Elementary.logarithm₂?_real_iff.mp hzoom
  · rintro ⟨hpositive, hzoom⟩
    have hground : ground ≠ 0 := by
      rintro rfl
      simp at hpositive
    refine ⟨_, Scalar.quotient?_real (mul_ne_zero hground (by norm_num)) _, ?_⟩
    rw [← div_div]
    exact Elementary.logarithm₂?_real_iff.mpr ⟨hpositive, hzoom⟩

theorem zoomForScale_eq_ok_iff : zoomForScale circumference scale dpi lat = .ok zoom
    ↔ dpi ≠ 0 ∧ 0 < parallel circumference lat / (scale * 0.0254 / dpi) / 256
      ∧ zoom = zoomOf (parallel circumference lat) (scale * 0.0254 / dpi) := by
  unfold zoomForScale
  rw [Outcome.bind_eq_ok]
  constructor
  · rintro ⟨ground, hground, h⟩
    obtain ⟨hdpi, rfl⟩ := groundOfScale_eq_ok_iff.mp hground
    rw [parallelLength_real, Outcome.ok_bind, tileSide_real] at h
    obtain ⟨pixels, hpixels, hzoom⟩ := Outcome.bind_eq_ok.mp h
    obtain ⟨-, rfl⟩ := Scalar.quotient?_real_iff.mp hpixels
    exact ⟨hdpi, Elementary.logarithm₂?_real_iff.mp hzoom⟩
  · rintro ⟨hdpi, hpositive, hzoom⟩
    refine ⟨_, groundOfScale_eq_ok_iff.mpr ⟨hdpi, rfl⟩, ?_⟩
    have hground : scale * 0.0254 / dpi ≠ 0 := by
      intro hzero
      simp [hzero] at hpositive
    rw [parallelLength_real, Outcome.ok_bind, tileSide_real, Scalar.quotient?_real hground,
      Outcome.ok_bind]
    exact Elementary.logarithm₂?_real_iff.mpr ⟨hpositive, hzoom⟩

-- ======================================================== there and back

/-- The ground in a pixel at a zoom that was found for a scale has that scale. -/
theorem scaleOfGround_of_zoom (hzoom : zoomForScale circumference scale dpi lat = .ok zoom)
    (hground : groundOfZoom circumference zoom lat = .ok ground) :
    scaleOfGround dpi ground = scale := by
  obtain ⟨hdpi, hpositive, rfl⟩ := zoomForScale_eq_ok_iff.mp hzoom
  rw [groundOfZoom_real, groundOf_zoomOf hpositive] at hground
  cases hground
  rw [scaleOfGround_real]
  field_simp

theorem parallel_pos (hcircumference : 0 < circumference) (hlat : |lat| < 90) :
    0 < parallel circumference lat :=
  mul_pos (cos_pos_of_mem_Ioo (Elementary.angle_mem_Ioo hlat)) hcircumference

end

end Mercator

end MapSheets
