import MapSheets.Drawing.TrellisMarks
import MapSheets.Proofs.Trellis.Corners
import MapSheets.Proofs.Trellis.Family
import Mathlib.Tactic.FieldSimp
import Mathlib.Tactic.Ring

/-
Bars and the sides of the frame they end at. Opposite sides share a family of
bars, and the frame has an edge along each side. `Laid` is what every exact
trellis has that was made from a frame (`laid_of_ofFrame`): its edges run
forward and have a length, its families run between opposite edges, and its
page is as wide and as high as two of the edges are long.

From this alone the place of a bar's end on a side follows: it divides the side
as the value of the bar divides the edge (`Laid.along_endOf`). So a bar ends on
a side exactly if its value lies on the edge, both ends included
(`Laid.endsOn_iff`), while a family leaves out the outermost ends of its edges
(`Laid.value_between`).
-/

namespace MapSheets

namespace FrameSide

/-- The side across the frame. -/
def opposite : FrameSide → FrameSide
  | bottom => top
  | top => bottom
  | left => right
  | right => left

end FrameSide

namespace GridPoint

/-- A grid point as a point of the plane of its zone. -/
def planar {α : Type} (p : GridPoint α) : Point α := ⟨p.easting, p.northing⟩

end GridPoint

namespace Trellis

-- ======================================================= sides and families

section
variable {α : Type} [Scalar α]

/-- The line from corner to corner along a side, in the plane of the zone. -/
def edgeLine (t : Trellis α) : FrameSide → Segment α
  | .bottom => ⟨t.bottomLeft.planar, t.bottomRight.planar⟩
  | .top => ⟨t.topLeft.planar, t.topRight.planar⟩
  | .left => ⟨t.bottomLeft.planar, t.topLeft.planar⟩
  | .right => ⟨t.bottomRight.planar, t.topRight.planar⟩

/-- The edge of the frame along a side. -/
def edgeAt (t : Trellis α) : FrameSide → Edge α
  | .bottom => t.easting.start
  | .top => t.easting.finish
  | .left => t.northing.start
  | .right => t.northing.finish

/-- The bars that run to a side, as a family. -/
def familyAt (t : Trellis α) : FrameSide → Family α
  | .bottom | .top => t.easting
  | .left | .right => t.northing

/-- The bar of an index that runs to a side. -/
def barAt (t : Trellis α) (index : Int) : FrameSide → Bar α
  | .bottom | .top => t.eastingBar index
  | .left | .right => t.northingBar index

variable {t : Trellis α} {side : FrameSide} {bar : Bar α}

@[simp] theorem barAt_index (t : Trellis α) (i : Int) (side : FrameSide) :
    (t.barAt i side).index = i := by
  cases side <;> rfl

@[simp] theorem barAt_value (t : Trellis α) (i : Int) (side : FrameSide) :
    (t.barAt i side).value = (t.familyAt side).valueAt i := by
  cases side <;> rfl

/-- The bars that run to a side are those of the indexes of its family. -/
theorem mem_barsAt : bar ∈ t.barsAt side ↔
    ∃ i : Nat, (i : Int) < (t.familyAt side).steps ∧ t.barAt i side = bar := by
  have hmap : t.barsAt side
      = (List.range (t.familyAt side).steps.toNat).map fun (i : Nat) => t.barAt i side := by
    cases side <;> rfl
  rw [hmap, List.mem_map]
  simp only [List.mem_range, Int.lt_toNat]

/-- The bars that run to a side stand at the values of its family. -/
theorem barsAt_value (t : Trellis α) (side : FrameSide) :
    (t.barsAt side).map Bar.value = (t.familyAt side).values := by
  cases side with
  | bottom => exact t.eastingBars_value
  | top => exact t.eastingBars_value
  | left => exact t.northingBars_value
  | right => exact t.northingBars_value

end

-- =========================================================== how it is made

section
variable {α : Type} [Scalar α] [NumberText α] [Elementary α]

/-- A trellis that was made has an edge along each side from corner to corner,
families between opposite edges, and a page as wide and as high as one of the
edges is long. -/
theorem ofCorners_families {ellipsoid : Ellipsoid α} {spacing : Spacing} {zone : Int}
    {c : Corners α} {t : Trellis α} (h : ofCorners ellipsoid spacing zone c = .ok t) :
    (∀ side, ∃ across, Edge.between (side.along (t.edgeLine side).start)
        (side.along (t.edgeLine side).finish) across spacing = .ok (t.edgeAt side))
      ∧ (∀ side, t.familyAt side
        = Family.between (t.familyAt side).start (t.familyAt side).finish spacing)
      ∧ (∀ side, ∃ along, t.extent side = (t.edgeAt along).length)
      ∧ t.spacing = spacing := by
  obtain ⟨left, hleft, h⟩ := Outcome.bind_eq_ok.mp h
  obtain ⟨right, hright, h⟩ := Outcome.bind_eq_ok.mp h
  obtain ⟨bottom, hbottom, h⟩ := Outcome.bind_eq_ok.mp h
  obtain ⟨top, htop, h⟩ := Outcome.bind_eq_ok.mp h
  cases h
  refine ⟨fun side => ?_, fun side => ?_, fun side => ?_, rfl⟩
  case refine_1 =>
    cases side with
    | bottom => exact ⟨_, hbottom⟩
    | top => exact ⟨_, htop⟩
    | left => exact ⟨_, hleft⟩
    | right => exact ⟨_, hright⟩
  case refine_2 => cases side <;> rfl
  case refine_3 =>
    cases side with
    | bottom => exact ⟨.bottom, rfl⟩
    | top => exact ⟨.bottom, rfl⟩
    | left => exact ⟨.left, rfl⟩
    | right => exact ⟨.left, rfl⟩

/-- The trellis of a frame is made from corners. -/
theorem exists_corners_of_ofFrame [Survey α] {ellipsoid : Ellipsoid α} {spacing : Spacing}
    {zone : Option Int} {topLeft bottomRight : Point α} {t : Trellis α}
    (h : ofFrame ellipsoid spacing zone topLeft bottomRight = .ok t) :
    ∃ zone c, ofCorners ellipsoid spacing zone c = .ok t := by
  obtain ⟨-, -, c, -, h⟩ := made_of_ofFrame h
  exact ⟨_, _, h⟩

end

-- ================================================== exact trellises, laid out

/-- What an exact trellis has that was made from a frame. -/
structure Laid (t : Trellis Rat) : Prop where
  size_ne : t.spacing.size ≠ 0
  edges : ∀ side, ∃ start finish length, start < finish ∧ 0 < length
    ∧ t.edgeAt side = Edge.exact start finish length t.spacing
  families : ∀ side, t.familyAt side
    = Family.between (t.familyAt side).start (t.familyAt side).finish t.spacing
  extent_pos : ∀ side, 0 < t.extent side

/-- A trellis of corners is laid out on edges that run forward, if they have a
length, and each of them runs from corner to corner. -/
theorem laid_of_ofCorners [NumberText Rat] [Elementary Rat]
    (hlength : ∀ x y : Rat, 0 < x → 0 < Elementary.hypotenuse x y)
    {ellipsoid : Ellipsoid Rat} {spacing : Spacing} {zone : Int} {c : Corners Rat}
    {t : Trellis Rat} (h : ofCorners ellipsoid spacing zone c = .ok t) :
    t.Laid ∧ t.spacing = spacing
      ∧ ∀ side, (t.edgeAt side).start = side.along (t.edgeLine side).start
        ∧ (t.edgeAt side).finish = side.along (t.edgeLine side).finish := by
  obtain ⟨hedges, hfamilies, hextents, rfl⟩ := ofCorners_families h
  have hmade : ∀ side, ∃ length, side.along (t.edgeLine side).start
        < side.along (t.edgeLine side).finish ∧ 0 < length ∧ t.spacing.size ≠ 0
      ∧ t.edgeAt side = Edge.exact (side.along (t.edgeLine side).start)
        (side.along (t.edgeLine side).finish) length t.spacing := by
    intro side
    obtain ⟨across, hedge⟩ := hedges side
    obtain ⟨hforward, hsize, hexact⟩ := Edge.eq_exact_of_ofLength hedge
    exact ⟨_, hforward, hlength _ _ (sub_pos.mpr hforward), hsize, hexact⟩
  refine ⟨?_, rfl, fun side => ?_⟩
  · constructor
    case size_ne =>
      obtain ⟨_, -, -, hsize, -⟩ := hmade .bottom
      exact hsize
    case edges =>
      intro side
      obtain ⟨length, hforward, hpos, -, hexact⟩ := hmade side
      exact ⟨_, _, length, hforward, hpos, hexact⟩
    case families => exact hfamilies
    case extent_pos =>
      intro side
      obtain ⟨along, hextent⟩ := hextents side
      obtain ⟨_, -, hpos, -, hexact⟩ := hmade along
      rw [hextent, hexact]
      exact hpos
  · obtain ⟨_, -, -, -, hexact⟩ := hmade side
    constructor
    · rw [hexact]
      rfl
    · rw [hexact]
      rfl

/-- Every trellis of a frame is laid out on edges that run forward, if they
have a length. -/
theorem laid_of_ofFrame [NumberText Rat] [Elementary Rat] [Survey Rat]
    (hlength : ∀ x y : Rat, 0 < x → 0 < Elementary.hypotenuse x y)
    {ellipsoid : Ellipsoid Rat} {spacing : Spacing} {zone : Option Int}
    {topLeft bottomRight : Point Rat} {t : Trellis Rat}
    (h : ofFrame ellipsoid spacing zone topLeft bottomRight = .ok t) :
    t.Laid ∧ t.spacing = spacing := by
  obtain ⟨_, _, h⟩ := exists_corners_of_ofFrame h
  obtain ⟨hlaid, hspacing, -⟩ := laid_of_ofCorners hlength h
  exact ⟨hlaid, hspacing⟩

variable {t : Trellis Rat} {side : FrameSide} {bar : Bar Rat}

/-- A bar ends on a side if its end is between the ends of the side. -/
theorem endsOn_eq_true : t.endsOn side bar = true ↔
    0 ≤ side.along (side.endOf bar.line) ∧ side.along (side.endOf bar.line) ≤ t.extent side := by
  unfold endsOn onSide
  rw [Bool.and_eq_true, decide_eq_true_eq, decide_eq_true_eq]

namespace Laid

theorem forward (h : t.Laid) (side : FrameSide) :
    (t.edgeAt side).start < (t.edgeAt side).finish := by
  obtain ⟨_, _, _, hforward, -, hexact⟩ := h.edges side
  rw [hexact]
  exact hforward

theorem length_pos (h : t.Laid) (side : FrameSide) : 0 < (t.edgeAt side).length := by
  obtain ⟨_, _, _, -, hpos, hexact⟩ := h.edges side
  rw [hexact]
  exact hpos

theorem marks (h : t.Laid) (hsize : 0 < t.spacing.size) (side : FrameSide) :
    (t.edgeAt side).Marks t.spacing.size := by
  obtain ⟨_, _, _, -, -, hexact⟩ := h.edges side
  rw [hexact]
  exact Edge.exact_marks hsize _ _ _

-- ============================================================ the values

/-- Where there are bars the spacing is positive: for a negative one the marks
of every edge run backward, and no bars are counted. -/
theorem size_pos (h : t.Laid) (hbar : bar ∈ t.barsAt side) : 0 < t.spacing.size := by
  obtain ⟨i, hi, -⟩ := mem_barsAt.mp hbar
  rcases lt_or_gt_of_ne h.size_ne with hneg | hpos
  · exfalso
    have hrun : ∀ side, (t.edgeAt side).first < (t.edgeAt side).last := by
      intro side
      obtain ⟨_, _, _, hforward, -, hexact⟩ := h.edges side
      rw [hexact]
      exact Edge.exact_first_lt_last_of_neg hneg hforward _
    have hsteps : ∀ s e : Edge Rat, s.first < s.last →
        (Family.between s e t.spacing).steps ≤ 0 := fun s e hs =>
      Edge.stepsBetween_nonpos_of_neg hneg
        (lt_of_le_of_lt (min_le_left _ _) (lt_of_lt_of_le hs (le_max_left _ _)))
    rw [h.families side] at hi
    have hnone := hsteps (t.familyAt side).start (t.familyAt side).finish (by
      cases side with
      | bottom => exact hrun .bottom
      | top => exact hrun .bottom
      | left => exact hrun .left
      | right => exact hrun .left)
    omega
  · exact hpos

/-- The values at a side are the multiples of the spacing strictly between the
outermost ends of its edge and the one across. -/
theorem mem_values_iff (h : t.Laid) (hsize : 0 < t.spacing.size) (side : FrameSide) (v : Int) :
    v ∈ (t.familyAt side).values ↔ t.spacing.size ∣ v
      ∧ min (t.edgeAt side).start (t.edgeAt side.opposite).start < v
      ∧ (v : Rat) < max (t.edgeAt side).finish (t.edgeAt side.opposite).finish := by
  rw [h.families side]
  cases side with
  | bottom => exact Family.mem_values_between hsize (h.marks hsize .bottom) (h.marks hsize .top) v
  | left => exact Family.mem_values_between hsize (h.marks hsize .left) (h.marks hsize .right) v
  | top =>
      rw [min_comm, max_comm]
      exact Family.mem_values_between hsize (h.marks hsize .bottom) (h.marks hsize .top) v
  | right =>
      rw [min_comm, max_comm]
      exact Family.mem_values_between hsize (h.marks hsize .left) (h.marks hsize .right) v

theorem value_mem (hbar : bar ∈ t.barsAt side) : bar.value ∈ (t.familyAt side).values := by
  rw [← barsAt_value]
  exact List.mem_map_of_mem hbar

theorem value_dvd (h : t.Laid) (hbar : bar ∈ t.barsAt side) : t.spacing.size ∣ bar.value :=
  ((h.mem_values_iff (h.size_pos hbar) side _).mp (value_mem hbar)).1

/-- A bar at a side stands strictly between the outermost ends of the edges. -/
theorem value_between (h : t.Laid) (hbar : bar ∈ t.barsAt side) :
    min (t.edgeAt side).start (t.edgeAt side.opposite).start < bar.value
      ∧ (bar.value : Rat) < max (t.edgeAt side).finish (t.edgeAt side.opposite).finish :=
  ((h.mem_values_iff (h.size_pos hbar) side _).mp (value_mem hbar)).2

/-- Values are counted from that of the first bar in steps of the spacing. -/
theorem barAt_value_eq (h : t.Laid) (i : Int) (side : FrameSide) :
    (t.barAt i side).value = (t.familyAt side).first + i * t.spacing.size := by
  have hspacing : (t.familyAt side).spacing = t.spacing := by
    rw [h.families side]
    rfl
  rw [barAt_value, ← hspacing]
  rfl

/-- A bar of a higher index stands at a higher value. -/
theorem value_lt (h : t.Laid) (hsize : 0 < t.spacing.size) {i j : Int} (hij : i < j)
    (side : FrameSide) : ((t.barAt i side).value : Rat) < (t.barAt j side).value := by
  rw [Int.cast_lt, h.barAt_value_eq, h.barAt_value_eq]
  have := mul_lt_mul_of_pos_right hij hsize
  omega

-- ======================================================= places on a side

/-- The end of a bar divides the side as the value divides the edge. -/
theorem along_endOf (h : t.Laid) (i : Int) (side : FrameSide) :
    side.along (side.endOf (t.barAt i side).line)
      = t.extent side * (((t.barAt i side).value - (t.edgeAt side).start)
          / ((t.edgeAt side).finish - (t.edgeAt side).start)) := by
  have hdistance : ∀ (e : Edge Rat) (v page : Rat), 0 < e.length →
      e.distanceTo v * page / e.length = page * ((v - e.start) / (e.finish - e.start)) := by
    intro e v page hpos
    unfold Edge.distanceTo Edge.scale Edge.axisDelta
    field_simp
  cases side with
  | bottom => exact hdistance _ _ _ (h.length_pos .bottom)
  | top => exact hdistance _ _ _ (h.length_pos .top)
  | left => exact hdistance _ _ _ (h.length_pos .left)
  | right => exact hdistance _ _ _ (h.length_pos .right)

/-- A bar ends on a side if and only if its value lies on the edge. -/
theorem endsOn_iff (h : t.Laid) (hbar : bar ∈ t.barsAt side) :
    t.endsOn side bar = true
      ↔ (t.edgeAt side).start ≤ bar.value ∧ (bar.value : Rat) ≤ (t.edgeAt side).finish := by
  obtain ⟨i, -, rfl⟩ := mem_barsAt.mp hbar
  have hspan : 0 < (t.edgeAt side).finish - (t.edgeAt side).start := sub_pos.mpr (h.forward side)
  have hextent := h.extent_pos side
  rw [endsOn_eq_true, h.along_endOf, mul_nonneg_iff_of_pos_left hextent,
    mul_le_iff_le_one_right hextent, div_le_one hspan, le_div_iff₀ hspan, zero_mul, sub_nonneg,
    sub_le_sub_iff_right]

end Laid

end Trellis

end MapSheets
