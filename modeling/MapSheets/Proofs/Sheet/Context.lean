import MapSheets.Proofs.Outcome
import MapSheets.Sheet.Context

/-
What is printed for a cell, taken apart. A sheet's values are computed in ten steps, and
most of what the steps return is printed as it is: `Printed` says of the finished values
which step each of them came from, so a law about one of them does not go through the
others.
-/

namespace MapSheets

variable {α : Type} [Scalar α] [Elementary α]

theorem Cell.zoomForScale_eq_ok_iff {c : Cell α} {scale dpi zoom : α} :
    c.zoomForScale scale dpi = .ok zoom ↔ ∃ p, c.corner .southWest = .ok p
      ∧ Mercator.zoomForScale Mercator.circumference scale dpi p.lat = .ok zoom := by
  unfold zoomForScale
  simp only [Outcome.bind_eq_ok, Outcome.lift_eq_ok]

namespace SheetContext

variable [NumberText α] [Survey α]

/-- The steps that the printed values of a cell came from. -/
structure Printed (c : Cell α) (s : Sheet α) (ctx : SheetContext α) : Prop where
  /-- The zoom is that of the scale, and the printed scale that of the zoom. -/
  resolution : ∃ corner scale dpi, c.corner .southWest = .ok corner
    ∧ s.scale.value? = .ok scale ∧ s.dpi.value? = .ok dpi
    ∧ Mercator.zoomForScale Mercator.circumference scale dpi corner.lat = .ok ctx.zoom
    ∧ Mercator.groundOfZoom Mercator.circumference ctx.zoom corner.lat = .ok ctx.ground
    ∧ ctx.scale = Mercator.scaleOfGround dpi ctx.ground
  northEast : c.printedCorner .northEast = .ok ctx.northEastDms
  southWest : c.printedCorner .southWest = .ok ctx.southWestDms
  seconds : c.arcSeconds = .ok ctx.seconds
  middle : ∃ box, c.hull = .ok box
    ∧ Survey.militaryReference ((box.minY + box.maxY) / 2) ((box.minX + box.maxX) / 2) 0
      = .ok ctx.militaryReference
  /-- The others are those of the cell and of its settings as they stand. -/
  copied : ctx = { ctx with
    mdgid := c.mdgid.text, referenceNumber := c.referenceNumber, sheetNumber := c.sheetNumber
    series := c.series, nrn := c.nrn, country := c.country, city := c.city
    zone := c.zone.label?.getD standardZone, hemisphere := c.hemisphere.letter
    dpi := s.dpi, spacing := s.spacing
    publishedAt := (c.publishedAt.map (·.dateText)).getD ""
    editor := c.editor, editedAt := (c.editDate.map (·.dateText)).getD "" }

variable {c : Cell α} {s : Sheet α} {ctx : SheetContext α}

theorem printed_of_ofCell (h : ofCell c s = .ok ctx) : Printed c s ctx := by
  obtain ⟨corner, hcorner, h⟩ := Outcome.bind_eq_ok.mp h
  obtain ⟨scale, hscale, h⟩ := Outcome.bind_eq_ok.mp h
  obtain ⟨dpi, hdpi, h⟩ := Outcome.bind_eq_ok.mp h
  obtain ⟨zoom, hzoom, h⟩ := Outcome.bind_eq_ok.mp h
  obtain ⟨ground, hground, h⟩ := Outcome.bind_eq_ok.mp h
  obtain ⟨box, hbox, h⟩ := Outcome.bind_eq_ok.mp h
  obtain ⟨northEast, hnorthEast, h⟩ := Outcome.bind_eq_ok.mp h
  obtain ⟨southWest, hsouthWest, h⟩ := Outcome.bind_eq_ok.mp h
  obtain ⟨seconds, hseconds, h⟩ := Outcome.bind_eq_ok.mp h
  obtain ⟨reference, hreference, h⟩ := Outcome.bind_eq_ok.mp h
  cases h
  obtain ⟨corner', hcorner', hzoom⟩ := Cell.zoomForScale_eq_ok_iff.mp hzoom
  rw [hcorner, Except.ok.injEq] at hcorner'
  subst hcorner'
  exact {
    resolution := ⟨corner, scale, dpi, hcorner, Outcome.lift_eq_ok.mp hscale,
      Outcome.lift_eq_ok.mp hdpi, hzoom, Outcome.lift_eq_ok.mp hground, rfl⟩
    northEast := hnorthEast
    southWest := hsouthWest
    seconds := hseconds
    middle := ⟨box, hbox, hreference⟩
    copied := rfl }

end SheetContext

end MapSheets
