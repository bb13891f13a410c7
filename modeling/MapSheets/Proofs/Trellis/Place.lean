import MapSheets.Proofs.Geodesy.Coarse
import MapSheets.Proofs.Plane.VisiblePart
import MapSheets.Proofs.Trellis.Frame
import Mathlib.Tactic.NormNum

/-
Bars in their places. Every side of the frame is drawn twice: as the line between
two projected corners in the plane of the zone (`edgeLine`) and as a side of the
page (`sideLine`). A bar ends on both, or on what continues them, and its two ends
there are calculated apart: the one on the page as a distance along the edge,
carried to the length of the page, the other by going from corner to corner. Both
divide their line in the ratio in which the value of the bar divides the edge
(`Laid.sideLine_pointAt`, `Laid.edgeLine_pointAt`), so a bar that is drawn at a
place of the side crosses the edge at the same place. That the ends come in the
order of the values follows from the ratio alone (`Laid.along_lt_along_iff`).
-/

namespace MapSheets

namespace FrameSide

/-- The grid point of a bar at a side. -/
def gridEnd {α : Type} : FrameSide → Bar α → GridPoint α
  | bottom, b | left, b => b.start
  | top, b | right, b => b.finish

/-- How far from the side that it is counted from a point lies. -/
def depth {α : Type} : FrameSide → Point α → α
  | bottom, p | top, p => p.y
  | left, p | right, p => p.x

/-- A point is known by its two coordinates, seen from any side. -/
theorem point_ext {α : Type} (side : FrameSide) {p q : Point α}
    (halong : side.along p = side.along q) (hdepth : side.depth p = side.depth q) : p = q := by
  cases side with
  | bottom => exact Point.ext halong hdepth
  | top => exact Point.ext halong hdepth
  | left => exact Point.ext hdepth halong
  | right => exact Point.ext hdepth halong

/-- Along a side a segment is run through at an even pace. -/
theorem along_pointAt (side : FrameSide) (s : Segment Rat) (r : Rat) :
    side.along (s.pointAt r)
      = side.along s.start + r * (side.along s.finish - side.along s.start) := by
  cases side <;> rfl

theorem depth_pointAt (side : FrameSide) (s : Segment Rat) (r : Rat) :
    side.depth (s.pointAt r)
      = side.depth s.start + r * (side.depth s.finish - side.depth s.start) := by
  cases side <;> rfl

end FrameSide

namespace Edge

/-- The part of an edge before a value: zero at its start and one at its finish. -/
def ratio (e : Edge Rat) (v : Rat) : Rat := (v - e.start) / (e.finish - e.start)

/-- The calculation of the other coordinate goes from end to end by the ratio. -/
theorem crossAt_eq (e : Edge Rat) (v startCross endCross : Rat) :
    e.crossAt v startCross endCross = startCross + e.ratio v * (endCross - startCross) := by
  show startCross + (endCross - startCross) * e.ratio v = _
  rw [mul_comm]

/-- From end to end by the ratio of a value is the value. -/
theorem start_add_ratio_mul {e : Edge Rat} (hforward : e.start < e.finish) (v : Rat) :
    e.start + e.ratio v * (e.finish - e.start) = v := by
  unfold ratio
  rw [div_mul_cancel₀ _ (sub_pos.mpr hforward).ne', add_sub_cancel]

/-- The ratio grows with the value. -/
theorem ratio_lt_ratio_iff {e : Edge Rat} (hforward : e.start < e.finish) {v w : Rat} :
    e.ratio v < e.ratio w ↔ v < w := by
  unfold ratio
  rw [div_lt_div_iff_of_pos_right (sub_pos.mpr hforward), sub_lt_sub_iff_right]

theorem ratio_start (e : Edge Rat) : e.ratio e.start = 0 := by
  unfold ratio
  rw [sub_self, zero_div]

theorem ratio_finish {e : Edge Rat} (hforward : e.start < e.finish) : e.ratio e.finish = 1 :=
  div_self (sub_pos.mpr hforward).ne'

end Edge

namespace Trellis

/-- A side of the page, in the direction of the edge along it. -/
def sideLine {α : Type} [Scalar α] (t : Trellis α) : FrameSide → Segment α
  | .bottom => ⟨⟨0, 0⟩, ⟨t.pageWidth, 0⟩⟩
  | .top => ⟨⟨0, t.pageHeight⟩, ⟨t.pageWidth, t.pageHeight⟩⟩
  | .left => ⟨⟨0, 0⟩, ⟨0, t.pageHeight⟩⟩
  | .right => ⟨⟨t.pageWidth, 0⟩, ⟨t.pageWidth, t.pageHeight⟩⟩

theorem along_sideLine_pointAt (t : Trellis Rat) (side : FrameSide) (r : Rat) :
    side.along ((t.sideLine side).pointAt r) = t.extent side * r := by
  cases side <;> simp [FrameSide.along, sideLine, extent, Segment.pointAt, mul_comm]

/-- All points of a side lie as deep on the page as the bars that end there. -/
theorem depth_sideLine_pointAt (t : Trellis Rat) (i : Int) (side : FrameSide) (r : Rat) :
    side.depth ((t.sideLine side).pointAt r) = side.depth (side.endOf (t.barAt i side).line) := by
  have hstart : side.depth (t.sideLine side).start
      = side.depth (side.endOf (t.barAt i side).line) := by
    cases side <;> rfl
  have hfinish : side.depth (t.sideLine side).finish
      = side.depth (side.endOf (t.barAt i side).line) := by
    cases side <;> rfl
  rw [side.depth_pointAt, hstart, hfinish, sub_self, mul_zero, add_zero]

namespace Laid

variable {t : Trellis Rat}

-- ========================================================= order on a side

/-- The place of a bar on a side is the part of its edge, at the length of the side. -/
theorem along_eq (h : t.Laid) (i : Int) (side : FrameSide) :
    side.along (side.endOf (t.barAt i side).line)
      = t.extent side * (t.edgeAt side).ratio (t.barAt i side).value :=
  h.along_endOf i side

/-- Along a side bars come in the order of their values. -/
theorem along_lt_along_iff (h : t.Laid) (i j : Int) (side : FrameSide) :
    side.along (side.endOf (t.barAt i side).line) < side.along (side.endOf (t.barAt j side).line)
      ↔ (t.barAt i side).value < (t.barAt j side).value := by
  rw [h.along_eq, h.along_eq, mul_lt_mul_iff_right₀ (h.extent_pos side),
    Edge.ratio_lt_ratio_iff (h.forward side), Int.cast_lt]

/-- The places on a side grow with the index if and only if the spacing is positive. -/
theorem along_increasing_iff (h : t.Laid) (side : FrameSide) :
    (∀ i j : Int, i < j →
        side.along (side.endOf (t.barAt i side).line) < side.along (side.endOf (t.barAt j side).line))
      ↔ 0 < t.spacing.size := by
  constructor
  · intro hincreasing
    have hvalues := (h.along_lt_along_iff 0 1 side).mp (hincreasing 0 1 one_pos)
    rw [h.barAt_value_eq, h.barAt_value_eq] at hvalues
    omega
  · intro hsize i j hij
    have hvalues := h.value_lt hsize hij side
    exact (h.along_lt_along_iff i j side).mpr (Int.cast_lt.mp hvalues)

/-- A bar ends strictly inside a side if and only if its value lies strictly inside
the edge. -/
theorem along_inside_iff (h : t.Laid) (i : Int) (side : FrameSide) :
    (0 < side.along (side.endOf (t.barAt i side).line)
        ∧ side.along (side.endOf (t.barAt i side).line) < t.extent side)
      ↔ (t.edgeAt side).start < (t.barAt i side).value
        ∧ ((t.barAt i side).value : Rat) < (t.edgeAt side).finish := by
  have hforward := h.forward side
  have hextent := h.extent_pos side
  rw [h.along_eq]
  refine and_congr ?_ ?_
  · rw [mul_pos_iff_of_pos_left hextent, ← Edge.ratio_start (t.edgeAt side),
      Edge.ratio_lt_ratio_iff hforward]
  · rw [mul_lt_iff_lt_one_right hextent, ← Edge.ratio_finish hforward,
      Edge.ratio_lt_ratio_iff hforward]

-- ==================================================== the same ratio twice

/-- On the page a bar divides the side in the ratio of its value. -/
theorem sideLine_pointAt (h : t.Laid) (i : Int) (side : FrameSide) :
    (t.sideLine side).pointAt ((t.edgeAt side).ratio (t.barAt i side).value)
      = side.endOf (t.barAt i side).line := by
  apply side.point_ext
  · rw [along_sideLine_pointAt, h.along_eq]
  · exact depth_sideLine_pointAt t i side _

/-- In the plane of the zone a bar divides the line between the corners in the ratio
of its value. -/
theorem edgeLine_pointAt (h : t.Laid) {side : FrameSide}
    (hstart : (t.edgeAt side).start = side.along (t.edgeLine side).start)
    (hfinish : (t.edgeAt side).finish = side.along (t.edgeLine side).finish) (i : Int) :
    (t.edgeLine side).pointAt ((t.edgeAt side).ratio (t.barAt i side).value)
      = (side.gridEnd (t.barAt i side)).planar := by
  apply side.point_ext
  · rw [side.along_pointAt, ← hstart, ← hfinish, Edge.start_add_ratio_mul (h.forward side)]
    cases side <;> rfl
  · rw [side.depth_pointAt, ← Edge.crossAt_eq]
    cases side <;> rfl

end Laid

-- ============================================================== the result

/-- Bars come in order along every side, from a positive spacing on; a bar ends
strictly inside a side exactly if its value lies strictly between the coordinates of
the two corners; and there is one ratio in which its end on the page divides the side
and its grid point divides the line between the corners. This holds for the bars of
all indexes, also outside the families. -/
theorem bars_in_place [NumberText Rat] [Elementary Rat]
    (hlength : ∀ x y : Rat, 0 < x → 0 < Elementary.hypotenuse x y)
    {ellipsoid : Ellipsoid Rat} {spacing : Spacing} {zone : Int} {c : Corners Rat}
    {t : Trellis Rat} (h : ofCorners ellipsoid spacing zone c = .ok t) (side : FrameSide) :
    ((∀ i j : Int, i < j → side.along (side.endOf (t.barAt i side).line)
          < side.along (side.endOf (t.barAt j side).line))
        ↔ 0 < spacing.size)
      ∧ ∀ i : Int,
        ((0 < side.along (side.endOf (t.barAt i side).line)
            ∧ side.along (side.endOf (t.barAt i side).line) < t.extent side)
          ↔ side.along (t.edgeLine side).start < (t.barAt i side).value
            ∧ ((t.barAt i side).value : Rat) < side.along (t.edgeLine side).finish)
        ∧ ∃! r, (t.sideLine side).pointAt r = side.endOf (t.barAt i side).line
          ∧ (t.edgeLine side).pointAt r = (side.gridEnd (t.barAt i side)).planar := by
  obtain ⟨hlaid, rfl, hends⟩ := laid_of_ofCorners hlength h
  obtain ⟨hstart, hfinish⟩ := hends side
  refine ⟨hlaid.along_increasing_iff side, fun i => ⟨?_, ?_⟩⟩
  · rw [← hstart, ← hfinish]
    exact hlaid.along_inside_iff i side
  · have hpage := hlaid.sideLine_pointAt i side
    refine ⟨_, ⟨hpage, hlaid.edgeLine_pointAt hstart hfinish i⟩, fun r hr => ?_⟩
    -- the side has an extent, so no two ratios lead to one place
    have hsame := congrArg side.along (hr.1.trans hpage.symm)
    rw [along_sideLine_pointAt, along_sideLine_pointAt] at hsame
    exact mul_left_cancel₀ (hlaid.extent_pos side).ne' hsame

open scoped Coarse in
/-- A frame that is narrower at its top: its first easting bar starts inside the lower
side and ends before the upper side begins, on the page as in the zone. -/
theorem bars_in_place_narrowing :
    ∃ t : Trellis Rat,
      ofCorners .standard .thousand 31
        ⟨⟨499300, 4402700, 31, .north⟩, ⟨501600, 4402900, 31, .north⟩,
          ⟨498900, 4400200, 31, .north⟩, ⟨501900, 4400300, 31, .north⟩⟩ = .ok t
      ∧ (∀ i j : Int, i < j → (t.eastingBar i).line.finish.x < (t.eastingBar j).line.finish.x)
      ∧ (t.eastingBar 0).value = 499000
      ∧ (0 < (t.eastingBar 0).line.start.x ∧ (t.eastingBar 0).line.start.x < t.pageWidth)
      ∧ ¬(0 < (t.eastingBar 0).line.finish.x ∧ (t.eastingBar 0).line.finish.x < t.pageWidth)
      ∧ ∃ r, (t.sideLine .top).pointAt r = (t.eastingBar 0).line.finish
        ∧ (t.edgeLine .top).pointAt r = (t.eastingBar 0).finish.planar := by
  have hvalues : (ofCorners (α := Rat) .standard .thousand 31
      ⟨⟨499300, 4402700, 31, .north⟩, ⟨501600, 4402900, 31, .north⟩,
        ⟨498900, 4400200, 31, .north⟩, ⟨501900, 4400300, 31, .north⟩⟩).toOption.map
      (fun t => (t.easting.valueAt 0, t.bottomLeft.easting, t.bottomRight.easting,
        t.topLeft.easting)) = some (499000, 498900, 501900, 499300) := by
    decide +kernel
  obtain ⟨t, ht, hvalues⟩ := Outcome.ok_of_toOption hvalues
  simp only [Prod.mk.injEq] at hvalues
  obtain ⟨hvalue, hbottomLeft, hbottomRight, htopLeft⟩ := hvalues
  have hvalue : (t.eastingBar 0).value = 499000 := hvalue
  obtain ⟨-, hbottom⟩ := bars_in_place Coarse.hypotenuse_pos ht .bottom
  obtain ⟨htop, hends⟩ := bars_in_place Coarse.hypotenuse_pos ht .top
  obtain ⟨hupper, r, hr, -⟩ := hends 0
  refine ⟨t, ht, htop.mpr (by decide), hvalue, (hbottom 0).1.mpr ⟨?_, ?_⟩, fun hinside => ?_,
    r, hr⟩
  · show t.bottomLeft.easting < (t.eastingBar 0).value
    rw [hvalue, hbottomLeft]
    norm_num
  · show ((t.eastingBar 0).value : Rat) < t.bottomRight.easting
    rw [hvalue, hbottomRight]
    norm_num
  · have hstart : t.topLeft.easting < (t.eastingBar 0).value := (hupper.mp hinside).1
    rw [hvalue, htopLeft] at hstart
    norm_num at hstart

end Trellis

end MapSheets
