import MapSheets.Proofs.Geodesy.Coarse
import MapSheets.Proofs.Trellis.Corners
import Mathlib.Tactic.NormNum

/-
The way a trellis counts northings. South of the equator a northing counts from
ten thousand kilometers, so that it is positive there, and a corner alone would
count by its own latitude. A trellis counts all of its corners in one way, told
by the top edge: from zero if that is on the equator or north of it, and from
ten thousand kilometers if the whole frame is south (`corners_count_alike`).

Two corners are compared and four are changed. That is enough, because both
ends of an edge have one latitude; and the lower corners of a frame are south
where its upper ones are, so they differ only if the upper ones are north.
-/

namespace MapSheets

-- ================================================== sides of the equator

namespace Hemisphere

theorem ofLat_eq_south_iff {α : Type} [Scalar α] {lat : α} : ofLat lat = south ↔ lat < 0 := by
  unfold ofLat
  split
  case isTrue h => exact iff_of_true rfl h
  case isFalse h => exact iff_of_false (by decide) h

theorem eq_north_of_ne_south {side : Hemisphere} (h : side ≠ south) : side = north := by
  cases side with
  | north => rfl
  | south => exact absurd rfl h

/-- What is below a latitude of the south is south. -/
theorem ofLat_south_of_lt {low high : Rat} (h : low < high) (hsouth : ofLat high = south) :
    ofLat low = south :=
  ofLat_eq_south_iff.mpr (h.trans (ofLat_eq_south_iff.mp hsouth))

/-- The northing of the equator on a side. -/
def equatorNorthing : Hemisphere → Rat
  | north => 0
  | south => GridPoint.falseNorthing

end Hemisphere

-- ======================================================== counted points

namespace GridPoint

theorem northingOn_rat (side : Hemisphere) (fromEquator : Rat) :
    northingOn side fromEquator = fromEquator + side.equatorNorthing := by
  cases side with
  | north => exact (add_zero fromEquator).symm
  | south => rfl

variable [Survey Rat] {ellipsoid : Ellipsoid Rat} {zone : Int} {place : Point Rat}
  {side : Hemisphere} {p : GridPoint Rat}

/-- A grid point is the projection of a place into a zone, on one side of the
equator, with its northing counted from a number for the equator. -/
structure Counts (p : GridPoint Rat) (ellipsoid : Ellipsoid Rat) (zone : Int) (place : Point Rat)
    (side : Hemisphere) (equator : Rat) : Prop where
  zone_eq : p.zone = zone
  hemisphere_eq : p.hemisphere = side
  northing_eq : ∃ fromEquator,
    Survey.project ellipsoid zone place.x place.y = .ok (p.easting, fromEquator)
      ∧ p.northing = fromEquator + equator

/-- Alone a place counts as on the side of its latitude. -/
theorem counts_of_inZone [NumberText Rat] (h : inZone ellipsoid zone place.x place.y = .ok p) :
    p.Counts ellipsoid zone place (Hemisphere.ofLat place.y)
      (Hemisphere.ofLat place.y).equatorNorthing := by
  obtain ⟨hzone, hside, fromEquator, hproject, hnorthing⟩ := of_inZone h
  exact ⟨hzone, hside, fromEquator, hproject, hnorthing.trans (northingOn_rat _ _)⟩

/-- Counted from the equator a point is a northern one, from whatever side. -/
theorem Counts.countedFromEquator (h : p.Counts ellipsoid zone place side side.equatorNorthing) :
    p.countedFromEquator.Counts ellipsoid zone place .north 0 := by
  obtain ⟨hzone, hside, fromEquator, hproject, hnorthing⟩ := h
  unfold GridPoint.countedFromEquator
  rw [hside]
  cases side with
  | north => exact ⟨hzone, hside, fromEquator, hproject, hnorthing⟩
  | south =>
      refine ⟨hzone, rfl, fromEquator, hproject, ?_⟩
      show p.northing - falseNorthing = fromEquator + 0
      rw [hnorthing]
      exact (add_sub_cancel_right _ _).trans (add_zero _).symm

end GridPoint

namespace Trellis

section
variable [NumberText Rat] [Elementary Rat] [Survey Rat] {ellipsoid : Ellipsoid Rat}
  {spacing : Spacing} {zone : Option Int} {topLeft bottomRight : Point Rat} {t : Trellis Rat}

/-- All corners of a trellis lie in its zone, on one side of the equator, and
count their northings from one number for the equator: ten thousand kilometers
where the top edge is south of it, and zero everywhere else. -/
theorem corners_count_alike (h : ofFrame ellipsoid spacing zone topLeft bottomRight = .ok t) :
    ∃ side equator, (side = .north ∧ equator = 0 ∨ side = .south ∧ equator = 10000000)
      ∧ (side = .south ↔ topLeft.y < 0)
      ∧ ∀ corner : FrameCorner, (t.corners.cornerAt corner).Counts ellipsoid t.zone
          (corner.point topLeft bottomRight) side equator := by
  obtain ⟨⟨-, hheight⟩, -, c, hc, hmade⟩ := made_of_ofFrame h
  have hcounts corner := GridPoint.counts_of_inZone (Corners.ofFrame_cornerAt hc corner)
  have hupper : c.topLeft.hemisphere = .ofLat topLeft.y := (hcounts .topLeft).hemisphere_eq
  have hlower : c.bottomLeft.hemisphere = .ofLat bottomRight.y :=
    (hcounts .bottomLeft).hemisphere_eq
  refine ⟨.ofLat topLeft.y, (Hemisphere.ofLat topLeft.y).equatorNorthing, ?_,
    Hemisphere.ofLat_eq_south_iff, fun corner => ?_⟩
  · cases Hemisphere.ofLat topLeft.y with
    | north => exact Or.inl ⟨rfl, rfl⟩
    | south => exact Or.inr ⟨rfl, rfl⟩
  · rw [(ofCorners_corners hmade).2, Corners.inOneHemisphere_cornerAt, hupper, hlower]
    by_cases hsame : Hemisphere.ofLat topLeft.y = .ofLat bottomRight.y
    · rw [if_pos hsame]
      have hside : Hemisphere.ofLat (corner.point topLeft bottomRight).y = .ofLat topLeft.y := by
        cases corner with
        | topLeft => rfl
        | topRight => rfl
        | bottomLeft => exact hsame.symm
        | bottomRight => exact hsame.symm
      have hcorner := hcounts corner
      rwa [hside] at hcorner
    · -- the frame straddles the equator, or touches it from the south
      rw [if_neg hsame]
      have hnorth : Hemisphere.ofLat topLeft.y = .north :=
        Hemisphere.eq_north_of_ne_south fun hsouth =>
          hsame (hsouth.trans (Hemisphere.ofLat_south_of_lt hheight hsouth).symm)
      rw [hnorth]
      exact (hcounts corner).countedFromEquator

end

open scoped Coarse in
/-- A frame that touches the equator from the south: its corners count from zero,
so that the lower ones have a negative northing. -/
theorem corners_count_alike_touching :
    ∃ t : Trellis Rat, ofFrame .standard .thousand none ⟨3, 0⟩ ⟨301 / 100, -1 / 100⟩ = .ok t
      ∧ t.bottomRight.hemisphere = .north ∧ t.bottomRight.northing = -110574 / 100 := by
  have hdrawn : (ofFrame (α := Rat) .standard .thousand none ⟨3, 0⟩
      ⟨301 / 100, -1 / 100⟩).toOption.map (fun _ => ()) = some () := by
    decide +kernel
  obtain ⟨t, ht, -⟩ := Outcome.ok_of_toOption hdrawn
  obtain ⟨side, equator, hcases, hsouth, hcounts⟩ := corners_count_alike ht
  rcases hcases with ⟨rfl, rfl⟩ | ⟨rfl, rfl⟩
  · obtain ⟨-, hside, fromEquator, hproject, hnorthing⟩ := hcounts .bottomRight
    injection hproject with hproject
    refine ⟨t, ht, hside, hnorthing.trans ?_⟩
    rw [← (Prod.mk.inj hproject).2]
    show (-1 / 100 : Rat) * 110574 + 0 = -110574 / 100
    norm_num
  · exact absurd (hsouth.mp rfl) (lt_irrefl 0)

end Trellis

end MapSheets
