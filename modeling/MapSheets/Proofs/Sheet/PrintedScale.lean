import MapSheets.Proofs.Geodesy.Resolution
import MapSheets.Proofs.Cell.Filling
import MapSheets.Proofs.Sheet.Context

/-
The scale that a sheet prints. Off the poles scale, ground resolution and zoom are three
names of one thing: each is computed from the others, there and back without a loss
(`Mercator.Reversible`). What a sheet prints is not the scale it was set to but the one
that is computed back from the zoom; over the real numbers they are the same, for every
cell that has a zoom at all, and every cell with both corners has one whose south edge is
not at a pole.
-/

namespace MapSheets

namespace Mercator

/-- At a latitude of the globe every scale, zoom and ground resolution has the others, and
comes back from them. -/
structure Reversible (circumference lat : ℝ) : Prop where
  scale (scale dpi : ℝ) : 0 < scale → 0 < dpi →
    ∃ zoom, zoomForScale circumference scale dpi lat = .ok zoom
      ∧ groundOfZoom circumference zoom lat = .ok (scale * 0.0254 / dpi)
      ∧ scaleOfGround dpi (scale * 0.0254 / dpi) = scale
  zoom (zoom : ℝ) : ∃ ground, groundOfZoom circumference zoom lat = .ok ground
    ∧ zoomForGround circumference ground lat = .ok zoom
  ground (ground : ℝ) : 0 < ground →
    ∃ zoom, zoomForGround circumference ground lat = .ok zoom
      ∧ groundOfZoom circumference zoom lat = .ok ground

theorem reversible {circumference lat : ℝ} (hcircumference : 0 < circumference)
    (hlat : |lat| < 90) : Reversible circumference lat := by
  have hwidth := parallel_pos hcircumference hlat
  have hpixels {ground : ℝ} (hground : 0 < ground) :
      0 < parallel circumference lat / ground / 256 := by positivity
  constructor
  case scale =>
    intro scale dpi hscale hdpi
    have hground : 0 < scale * 0.0254 / dpi := by positivity
    have hzoom := zoomForScale_eq_ok_iff.mpr ⟨hdpi.ne', hpixels hground, rfl⟩
    have hback := groundOfZoom_real circumference
      (zoomOf (parallel circumference lat) (scale * 0.0254 / dpi)) lat
    rw [groundOf_zoomOf (hpixels hground)] at hback
    exact ⟨_, hzoom, hback, scaleOfGround_of_zoom hzoom hback⟩
  case zoom =>
    intro zoom
    have hground := hpixels (groundOf_pos hwidth zoom)
    exact ⟨_, groundOfZoom_real circumference zoom lat,
      zoomForGround_eq_ok_iff.mpr ⟨hground, (zoomOf_groundOf hwidth zoom).symm⟩⟩
  case ground =>
    intro ground hground
    refine ⟨_, zoomForGround_eq_ok_iff.mpr ⟨hpixels hground, rfl⟩, ?_⟩
    rw [groundOfZoom_real, groundOf_zoomOf (hpixels hground)]

theorem circumference_pos : 0 < (circumference : ℝ) := by
  unfold circumference
  rw [Scalar.ofNat_real, Scalar.ofNat_real]
  exact mul_pos (mul_pos two_pos Real.pi_pos) (by norm_num)

end Mercator

-- ========================================================= the printed values

namespace Cell

variable {c : Cell ℝ}

theorem secondsAt_real_isOk (p : LatLng ℝ) : ∃ s, secondsAt p = .ok s := ⟨_, rfl⟩

theorem printedCorner_isOk [NumberText ℝ] {name : CornerName} (h : ∃ p, c.corner name = .ok p) :
    ∃ texts, c.printedCorner name = .ok texts := by
  have hcomputed : ∃ texts,
      (do dmsOf printedPlaces (← c.corner name)) = .ok texts :=
    Outcome.bind_isOk h (dmsOf_isOk (fun x => ⟨⌊x⌋, rfl⟩) _)
  unfold printedCorner
  split
  · exact ⟨_, rfl⟩
  · exact hcomputed

theorem arcSeconds_isOk (h : ∃ p, c.corner .southWest = .ok p) :
    ∃ seconds, c.arcSeconds = .ok seconds := by
  unfold arcSeconds
  split
  · exact ⟨_, rfl⟩
  · exact Outcome.bind_isOk h secondsAt_real_isOk

end Cell

namespace SheetContext

variable [NumberText ℝ] [Survey ℝ] {c : Cell ℝ} {s : Sheet ℝ} {ctx : SheetContext ℝ}

/-- The printed scale is the one that the sheet is set to. -/
theorem value_scale (h : ofCell c s = .ok ctx) : s.scale.value? = .ok ctx.scale := by
  obtain ⟨corner, scale, dpi, -, hscale, -, hzoom, hground, hprinted⟩ :=
    (printed_of_ofCell h).resolution
  rw [hprinted, hscale, Mercator.scaleOfGround_of_zoom hzoom hground]

/-- A cell and settings that have all that is computed for print: a scale and a resolution
above zero, two corners with the south edge off the poles, and a middle on the military
grid. -/
structure Printable (c : Cell ℝ) (s : Sheet ℝ) : Prop where
  scale : ∃ scale, s.scale.value? = .ok scale ∧ 0 < scale
  dpi : ∃ dpi, s.dpi.value? = .ok dpi ∧ 0 < dpi
  south : ∃ p, c.corner .southWest = .ok p ∧ |p.lat| < 90
  middle : ∃ box reference, c.hull = .ok box
    ∧ Survey.militaryReference ((box.minY + box.maxY) / 2) ((box.minX + box.maxX) / 2) 0
      = .ok reference

theorem ofCell_isOk (h : Printable c s) : ∃ ctx, ofCell c s = .ok ctx := by
  obtain ⟨scale, hscale, hscalePos⟩ := h.scale
  obtain ⟨dpi, hdpi, hdpiPos⟩ := h.dpi
  obtain ⟨corner, hcorner, hlat⟩ := h.south
  obtain ⟨box, reference, hbox, hreference⟩ := h.middle
  obtain ⟨zoom, hzoom, hground, -⟩ :=
    (Mercator.reversible Mercator.circumference_pos hlat).scale scale dpi hscalePos hdpiPos
  obtain ⟨northEast, hnorthEast, -⟩ := Outcome.bind_eq_ok.mp hbox
  obtain ⟨ne, hne⟩ := Cell.printedCorner_isOk ⟨northEast, hnorthEast⟩
  obtain ⟨sw, hsw⟩ := Cell.printedCorner_isOk ⟨corner, hcorner⟩
  obtain ⟨seconds, hseconds⟩ := Cell.arcSeconds_isOk ⟨corner, hcorner⟩
  have hcell := Cell.zoomForScale_eq_ok_iff.mpr ⟨corner, hcorner, hzoom⟩
  unfold ofCell
  simp only [hcorner, Outcome.lift_eq_ok.mpr hscale, Outcome.lift_eq_ok.mpr hdpi, hcell,
    Outcome.lift_eq_ok.mpr hground, hbox, hne, hsw, hseconds, hreference, Outcome.ok_bind]
  exact ⟨_, rfl⟩

end SheetContext

/-- The resolutions take one another back, and so a sheet prints the scale that it is set
to: whenever the values of a cell are printed, and of every cell that has what is computed
for print. -/
theorem Mercator.scale_there_and_back {circumference lat : ℝ} (hcircumference : 0 < circumference)
    (hlat : |lat| < 90) :
    Reversible circumference lat
      ∧ ∀ [NumberText ℝ] [Survey ℝ] (c : Cell ℝ) (s : Sheet ℝ),
        (∀ ctx, SheetContext.ofCell c s = .ok ctx → s.scale.value? = .ok ctx.scale)
          ∧ (SheetContext.Printable c s → ∃ ctx, SheetContext.ofCell c s = .ok ctx) :=
  ⟨reversible hcircumference hlat,
    fun _ _ => ⟨fun _ => SheetContext.value_scale, SheetContext.ofCell_isOk⟩⟩

namespace SingleSquare

/-- A survey of one place, which lies in the square 35V LD. -/
noncomputable scoped instance : Survey ℝ where
  project _ zone _ _ := .error (.zoneRefused zone "" "")
  locate srid _ _ := .error (.referenceUnknown srid)
  militaryReference lat lng _ :=
    if lat = 57 ∧ lng = 24.25 then .ok "35V LD" else .error .outsideMilitaryGrid

/-- A cell around that place. -/
noncomputable def cell : Cell ℝ :=
  { mdgid := .whole "A", southWest := some ⟨56.9, 24⟩, northEast := some ⟨57.1, 24.5⟩ }

theorem hull_cell : cell.hull = .ok ⟨24, 24.5, 56.9, 57.1⟩ := by
  show Except.ok (Bounds.mk (Scalar.least 24.5 24) (Scalar.greatest 24.5 24)
    (Scalar.least 57.1 56.9) (Scalar.greatest 57.1 56.9)) = _
  rw [Scalar.least_real, Scalar.greatest_real, Scalar.least_real, Scalar.greatest_real,
    min_eq_right (by norm_num), max_eq_left (by norm_num), min_eq_right (by norm_num),
    max_eq_left (by norm_num)]

theorem printable_cell : SheetContext.Printable cell { name := "50k" } where
  scale := ⟨(50000 : ℤ), rfl, by norm_num⟩
  dpi := ⟨(144 : ℤ), rfl, by norm_num⟩
  south := ⟨⟨56.9, 24⟩, rfl, by norm_num [abs_lt]⟩
  middle := ⟨_, "35V LD", hull_cell, if_pos ⟨by norm_num, by norm_num⟩⟩

/-- At 57 degrees north the scale 1:50000 has a zoom at 144 pixels in an inch and comes back
from it, and a sheet of the settings that nobody changed prints it. -/
theorem scale_there_and_back_north :
    0 < (Mercator.circumference : ℝ) ∧ |(57 : ℝ)| < 90
      ∧ (∃ zoom : ℝ, Mercator.zoomForScale Mercator.circumference 50000 144 57 = .ok zoom
        ∧ Mercator.groundOfZoom Mercator.circumference zoom 57 = .ok (50000 * 0.0254 / 144))
      ∧ ∀ [NumberText ℝ], ∃ ctx,
        SheetContext.ofCell cell { name := "50k" } = .ok ctx ∧ ctx.scale = 50000 := by
  have hlat : |(57 : ℝ)| < 90 := by norm_num [abs_lt]
  have hback := Mercator.scale_there_and_back Mercator.circumference_pos hlat
  obtain ⟨zoom, hzoom, hground, -⟩ := hback.1.scale 50000 144 (by norm_num) (by norm_num)
  refine ⟨Mercator.circumference_pos, hlat, ⟨zoom, hzoom, hground⟩, ?_⟩
  intro _
  obtain ⟨hscale, hprinted⟩ := hback.2 cell { name := "50k" }
  obtain ⟨ctx, hctx⟩ := hprinted printable_cell
  have hvalue : (.ok ((50000 : ℤ) : ℝ) : Except Fault ℝ) = .ok ctx.scale := hscale ctx hctx
  refine ⟨ctx, hctx, ?_⟩
  rw [Except.ok.injEq] at hvalue
  rw [← hvalue]
  norm_num

end SingleSquare

end MapSheets
