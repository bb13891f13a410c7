import MapSheets.Cell.Parts
import MapSheets.Geodesy.MilitaryGrid
import MapSheets.Proofs.Cell.Describing

/-
Cells and their places fail in no strange way. Making a cell fails for what it
is made of; the rest are the surveys of points and the corners that a cell must
have.
-/

namespace MapSheets

open Outcome

-- ================================================================== places

/-- A survey that fails in no strange way. -/
class FamiliarSurvey (α : Type) [Survey α] : Prop where
  project (ellipsoid : Ellipsoid α) (zone : Int) (lng lat : α) :
    Familiar (Survey.project ellipsoid zone lng lat)
  locate (srid : Int) (x y : α) : Familiar (Survey.locate srid x y)
  militaryReference (lat lng : α) (digits : Int) :
    Familiar (Survey.militaryReference lat lng digits)

attribute [simp] FamiliarSurvey.project FamiliarSurvey.locate FamiliarSurvey.militaryReference

theorem Reference.project_familiar (ellipsoid : Ellipsoid Float) (zone : Int) (lng lat : Float) :
    Familiar (project ellipsoid zone lng lat) := by
  unfold project
  refine .ite (fun _ => ends_error rfl) fun _ => .ite (fun _ => ends_error rfl) fun _ => ?_
  refine .ite (fun _ => familiar_ok _) fun _ => ?_
  dsimp only
  split
  case h_1 => exact familiar_ok _
  case h_2 => exact familiar_ok _

theorem Reference.locate_familiar (srid : Int) (x y : Float) : Familiar (locate srid x y) := by
  unfold locate
  cases system? srid with
  | some s => exact familiar_ok _
  | none => exact ends_error rfl

theorem MilitaryGrid.reference_familiar (lat lng : Float) (digits : Int) :
    Familiar (reference lat lng digits) := by
  unfold reference
  refine .ite (fun _ => ?_) fun _ => ends_error rfl
  split
  case h_1 => exact familiar_ok _
  case h_2 => exact ends_error rfl

instance : FamiliarSurvey Float where
  project := Reference.project_familiar
  locate := Reference.locate_familiar
  militaryReference := MilitaryGrid.reference_familiar

section
variable {α : Type} [Survey α] [FamiliarSurvey α]

@[simp] theorem toGeographic_familiar (srid : Int) (x y : α) :
    Familiar (toGeographic srid x y) := by
  simp [toGeographic]

variable [Scalar α] [NumberText α]

@[simp] theorem GridPoint.inZone_familiar (ellipsoid : Ellipsoid α) (zone : Int) (lng lat : α) :
    Familiar (inZone ellipsoid zone lng lat) := by
  unfold inZone
  refine .unless (fun _ => rfl) fun _ => .unless (fun _ => rfl) fun _ => ?_
  refine (FamiliarSurvey.project _ _ _ _).bind fun _ => ?_
  exact .ite (fun _ => familiar_pure _) fun _ => ends_error rfl

end

-- =================================================================== cells

@[simp] theorem Parts.bounds_familiar {α : Type} [Scalar α] (mode : PartMode)
    (southWest northEast : LatLng α) (part : Int) :
    Familiar (bounds mode southWest northEast part) := by
  unfold bounds
  exact .ite (fun _ => ends_error rfl) fun _ => familiar_ok _

namespace Cell

variable {α : Type} (c : Cell α)

-- ================================================================= corners

@[simp] theorem corner_familiar (name : CornerName) : Familiar (c.corner name) := by
  unfold corner
  split
  case h_1 => exact familiar_ok _
  case h_2 => exact ends_error rfl

@[simp] theorem northWestCorner_familiar : Familiar c.northWestCorner := by
  simp [northWestCorner]

@[simp] theorem southEastCorner_familiar : Familiar c.southEastCorner := by
  simp [southEastCorner]

@[simp] theorem dividedCorners_familiar : Familiar c.dividedCorners := by
  unfold dividedCorners
  split
  case h_1 => exact familiar_ok _
  case h_2 => exact ends_error rfl

@[simp] theorem hull_familiar [Scalar α] : Familiar c.hull := by
  simp [hull]

-- ============================================================ what follows

section
variable [Scalar α]

@[simp] theorem dmsOf_familiar [NumberText α] (places : Nat) (p : LatLng α) :
    Familiar (dmsOf places p) := (dmsOf_describes places p).familiar

@[simp] theorem printedCorner_familiar [NumberText α] (name : CornerName) :
    Familiar (c.printedCorner name) := by
  unfold printedCorner
  split
  case h_1 => exact familiar_ok _
  case h_2 => simp

@[simp] theorem secondsAt_familiar [Elementary α] (p : LatLng α) : Familiar (secondsAt p) :=
  (secondsAt_describes p).familiar

@[simp] theorem arcSeconds_familiar [Elementary α] : Familiar c.arcSeconds := by
  unfold arcSeconds
  cases c.seconds with
  | some s => exact familiar_ok _
  | none => simp

@[simp] theorem zoomForScale_familiar [Elementary α] (scale dpi : α) :
    Familiar (c.zoomForScale scale dpi) := by
  simp [zoomForScale]

end

variable [Scalar α] [NumberText α] [Elementary α]

@[simp] theorem filled_familiar : Familiar c.filled := c.filled_describes.familiar

@[simp] theorem part_familiar (mode : PartMode) (number : Int) : Familiar (c.part mode number) := by
  unfold part
  refine .unless (fun _ => rfl) fun _ => ?_
  simp

end Cell

end MapSheets
