import MapSheets.Proofs.Outcome
import MapSheets.Trellis.Basic

/-
The corners of a trellis. A trellis that was made has the zone that was asked
for, or else that of the center of its frame, and all four corners are points
of that zone: projecting a corner keeps the zone it is asked for, and counting
a northing from the equator moves no point to another zone.

A corner is named by a `FrameCorner`, so what is true of each of the four is
said once: `ofFrame_cornerAt` for the projected points, `inOneHemisphere_cornerAt`
for those of the trellis, and `made_of_ofFrame` for how the two hang together.
-/

namespace MapSheets

variable {α : Type} [Scalar α]

namespace GridPoint

/-- Counting from the equator keeps the zone. -/
@[simp] theorem countedFromEquator_zone (p : GridPoint α) :
    p.countedFromEquator.zone = p.zone := by
  unfold countedFromEquator
  cases p.hemisphere with
  | south => rfl
  | north => rfl

/-- The northing on a side of the equator of a point that is so far from it. -/
def northingOn : Hemisphere → α → α
  | .north, fromEquator => fromEquator
  | .south, fromEquator => fromEquator + falseNorthing

/-- A point that was projected is on the side of its latitude and counts its
northing as on that side. -/
theorem of_inZone [NumberText α] [Survey α] {ellipsoid : Ellipsoid α} {zone : Int} {lng lat : α}
    {p : GridPoint α} (h : inZone ellipsoid zone lng lat = .ok p) :
    p.zone = zone ∧ p.hemisphere = Hemisphere.ofLat lat
      ∧ ∃ fromEquator, Survey.project ellipsoid zone lng lat = .ok (p.easting, fromEquator)
        ∧ p.northing = northingOn (Hemisphere.ofLat lat) fromEquator := by
  unfold inZone at h
  dsimp only at h
  split at h
  case isTrue => cases h
  case isFalse =>
    split at h
    case isTrue => cases h
    case isFalse =>
      obtain ⟨⟨_, fromEquator⟩, hproject, h⟩ := Outcome.bind_eq_ok.mp h
      -- the northing counts in one of two ways, and then it is finite or not
      cases hside : Hemisphere.ofLat lat
      all_goals
        rw [hside] at h
        dsimp only at h
        split at h
        case isTrue => cases h; exact ⟨rfl, rfl, fromEquator, hproject, rfl⟩
        case isFalse => cases h

/-- A projected point lies in the zone it was projected into. -/
theorem inZone_zone [NumberText α] [Survey α] {ellipsoid : Ellipsoid α} {zone : Int} {lng lat : α}
    {p : GridPoint α} (h : inZone ellipsoid zone lng lat = .ok p) : p.zone = zone :=
  (of_inZone h).1

end GridPoint

/-- The corners of a frame. -/
inductive FrameCorner where
  | topLeft
  | topRight
  | bottomLeft
  | bottomRight

/-- Where a corner of a frame is, by longitude and latitude. -/
def FrameCorner.point (topLeft bottomRight : Point α) : FrameCorner → Point α
  | .topLeft => topLeft
  | .topRight => ⟨bottomRight.x, topLeft.y⟩
  | .bottomLeft => ⟨topLeft.x, bottomRight.y⟩
  | .bottomRight => bottomRight

namespace Trellis

namespace Corners

/-- The grid point of a corner. -/
def cornerAt (c : Corners α) : FrameCorner → GridPoint α
  | .topLeft => c.topLeft
  | .topRight => c.topRight
  | .bottomLeft => c.bottomLeft
  | .bottomRight => c.bottomRight

/-- The way northings count is one and the same for all corners. -/
theorem inOneHemisphere_cornerAt (c : Corners α) (corner : FrameCorner) :
    c.inOneHemisphere.cornerAt corner
      = if c.topLeft.hemisphere = c.bottomLeft.hemisphere then c.cornerAt corner
        else (c.cornerAt corner).countedFromEquator := by
  unfold inOneHemisphere
  split
  case isTrue => rfl
  case isFalse => cases corner <;> rfl

/-- All four corners are points of one zone. -/
def InZone (c : Corners α) (zone : Int) : Prop :=
  c.topLeft.zone = zone ∧ c.topRight.zone = zone ∧ c.bottomLeft.zone = zone
    ∧ c.bottomRight.zone = zone

/-- The way northings count does not matter to the zone. -/
theorem InZone.inOneHemisphere {c : Corners α} {zone : Int} (h : c.InZone zone) :
    c.inOneHemisphere.InZone zone := by
  unfold Corners.inOneHemisphere
  split
  case isTrue => exact h
  case isFalse =>
    unfold InZone
    simp only [GridPoint.countedFromEquator_zone]
    exact h

section
variable [NumberText α] [Survey α] {ellipsoid : Ellipsoid α} {zone : Int}
  {topLeft bottomRight : Point α} {c : Corners α}

/-- The corners of a frame are its projected points. -/
theorem ofFrame_cornerAt (h : ofFrame ellipsoid zone topLeft bottomRight = .ok c)
    (corner : FrameCorner) : GridPoint.inZone ellipsoid zone (corner.point topLeft bottomRight).x
      (corner.point topLeft bottomRight).y = .ok (c.cornerAt corner) := by
  obtain ⟨tl, htl, h⟩ := Outcome.bind_eq_ok.mp h
  obtain ⟨tr, htr, h⟩ := Outcome.bind_eq_ok.mp h
  obtain ⟨bl, hbl, h⟩ := Outcome.bind_eq_ok.mp h
  obtain ⟨br, hbr, h⟩ := Outcome.bind_eq_ok.mp h
  cases h
  cases corner with
  | topLeft => exact htl
  | topRight => exact htr
  | bottomLeft => exact hbl
  | bottomRight => exact hbr

/-- The corners of a frame lie in the zone they are projected into. -/
theorem ofFrame_inZone (h : ofFrame ellipsoid zone topLeft bottomRight = .ok c) : c.InZone zone :=
  have hzone corner := GridPoint.inZone_zone (ofFrame_cornerAt h corner)
  ⟨hzone .topLeft, hzone .topRight, hzone .bottomLeft, hzone .bottomRight⟩

end

end Corners

/-- The corners of a trellis. -/
def corners (t : Trellis α) : Corners α := ⟨t.topLeft, t.topRight, t.bottomLeft, t.bottomRight⟩

/-- The zone of a frame: the one asked for, or else that of the center. -/
def frameZone (zone : Option Int) (topLeft bottomRight : Point α) : Except Fault Int :=
  match zone with
  | some z => .ok z
  | none => Zone.numberAt ((topLeft.y + bottomRight.y) / 2) ((topLeft.x + bottomRight.x) / 2)

variable [NumberText α] [Elementary α]

/-- A trellis keeps the zone and the corners it is made of. -/
theorem ofCorners_corners {ellipsoid : Ellipsoid α} {spacing : Spacing} {zone : Int}
    {c : Corners α} {t : Trellis α} (h : ofCorners ellipsoid spacing zone c = .ok t) :
    t.zone = zone ∧ t.corners = c := by
  obtain ⟨_, -, h⟩ := Outcome.bind_eq_ok.mp h
  obtain ⟨_, -, h⟩ := Outcome.bind_eq_ok.mp h
  obtain ⟨_, -, h⟩ := Outcome.bind_eq_ok.mp h
  obtain ⟨_, -, h⟩ := Outcome.bind_eq_ok.mp h
  cases h
  exact ⟨rfl, rfl⟩

variable [Survey α] {ellipsoid : Ellipsoid α} {spacing : Spacing} {zone : Option Int}
  {topLeft bottomRight : Point α} {t : Trellis α}

/-- The making of a trellis with the choice of its zone as one step. -/
theorem ofFrame_eq (ellipsoid : Ellipsoid α) (spacing : Spacing) (zone : Option Int)
    (topLeft bottomRight : Point α) : ofFrame ellipsoid spacing zone topLeft bottomRight = (do
      if ¬(topLeft.x < bottomRight.x ∧ bottomRight.y < topLeft.y) then
        throw (.frameInvalid (pointText topLeft) (pointText bottomRight))
      let z ← frameZone zone topLeft bottomRight
      if z = 0 then throw (.polarFrame (pointText topLeft) (pointText bottomRight))
      let corners ← Corners.ofFrame ellipsoid z topLeft bottomRight
      ofCorners ellipsoid spacing z corners.inOneHemisphere) := by
  cases zone <;> rfl

/-- How the trellis of a frame was made: the frame is not empty, the zone is
the one of the frame, and the corners are the projected ones, brought to one
way of counting northings. -/
theorem made_of_ofFrame (h : ofFrame ellipsoid spacing zone topLeft bottomRight = .ok t) :
    (topLeft.x < bottomRight.x ∧ bottomRight.y < topLeft.y)
      ∧ frameZone zone topLeft bottomRight = .ok t.zone
      ∧ ∃ c, Corners.ofFrame ellipsoid t.zone topLeft bottomRight = .ok c
        ∧ ofCorners ellipsoid spacing t.zone c.inOneHemisphere = .ok t := by
  rw [ofFrame_eq] at h
  split at h
  case isTrue => cases h
  case isFalse hframe =>
    obtain ⟨z, hz, h⟩ := Outcome.bind_eq_ok.mp h
    split at h
    case isTrue => cases h
    case isFalse =>
      obtain ⟨c, hc, h⟩ := Outcome.bind_eq_ok.mp h
      obtain rfl := (ofCorners_corners h).1
      exact ⟨Classical.not_not.mp hframe, Outcome.lift_eq_ok.mp hz, c, hc, h⟩

/-- The trellis of a frame is laid out in the zone of the center of the frame. -/
theorem ofFrame_zone (h : ofFrame ellipsoid spacing none topLeft bottomRight = .ok t) :
    Zone.numberAt ((topLeft.y + bottomRight.y) / 2) ((topLeft.x + bottomRight.x) / 2) = .ok t.zone
      ∧ t.corners.InZone t.zone := by
  obtain ⟨-, hzone, c, hc, h⟩ := made_of_ofFrame h
  rw [(ofCorners_corners h).2]
  exact ⟨hzone, (Corners.ofFrame_inZone hc).inOneHemisphere⟩

/-- The trellis of a cell is laid out in the zone of the center of the cell. -/
theorem ofCell_zone {c : Cell α} {sw ne : LatLng α} (hsw : c.southWest = some sw) (hne : c.northEast = some ne)
    (h : ofCell ellipsoid spacing c = .ok t) :
    Zone.numberAt ((ne.lat + sw.lat) / 2) ((sw.lng + ne.lng) / 2) = .ok t.zone
      ∧ t.corners.InZone t.zone := by
  have hnw : c.northWestCorner = .ok ⟨sw.lng, ne.lat⟩ := by
    unfold Cell.northWestCorner Cell.corner
    rw [hsw, hne]
    rfl
  have hse : c.southEastCorner = .ok ⟨ne.lng, sw.lat⟩ := by
    unfold Cell.southEastCorner Cell.corner
    rw [hsw, hne]
    rfl
  unfold ofCell at h
  rw [hnw, hse] at h
  exact ofFrame_zone h

end Trellis

end MapSheets
