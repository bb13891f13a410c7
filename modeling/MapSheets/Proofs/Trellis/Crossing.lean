import MapSheets.Proofs.Drawing.Bars
import MapSheets.Proofs.Outcome
import MapSheets.Trellis.Basic
import Mathlib.Tactic.FieldSimp

/-
Where bars cross. Two segments that do not run in parallel meet in the one point
that lies on the lines of both, and the parameter of that point on each of them is
a quotient over the same determinant (`Segment.pointAt_meetAt_comm`).

For a segment from the lower side of a page to the upper one and a segment from
the left side to the right one, with all ends on the page, the determinant is up to
its sign the sum of four products of distances from the corners
(`Segment.turn_riser`). None of the products is negative, and the parameter is the
sum of two of them over the sum of all, so the segments meet on the page; all four
products vanish only if both segments are the same diagonal
(`Segment.turn_eq_zero_iff`).
-/

namespace MapSheets

namespace Segment

variable {s r : Segment Rat} {p : Point Rat}

-- ======================================================= where lines meet

/-- The points of the line through a segment. -/
def line (s : Segment Rat) : Set (Point Rat) := Set.range s.pointAt

/-- The determinant of the directions of two segments. -/
def turn (s r : Segment Rat) : Rat :=
  (s.start.x - s.finish.x) * (r.start.y - r.finish.y)
    - (s.start.y - s.finish.y) * (r.start.x - r.finish.x)

theorem turn_comm (s r : Segment Rat) : r.turn s = -s.turn r := by
  unfold turn
  ring

/-- The parameter on a segment at which it meets the line of another one. -/
def meetAt (s r : Segment Rat) : Rat :=
  ((s.start.x - r.start.x) * (r.start.y - r.finish.y)
    - (s.start.y - r.start.y) * (r.start.x - r.finish.x)) / s.turn r

/-- The parameters on both segments lead to the same point. -/
theorem pointAt_meetAt_comm (hturn : s.turn r ≠ 0) :
    s.pointAt (s.meetAt r) = r.pointAt (r.meetAt s) := by
  have hdet : s.turn r = (s.start.x - s.finish.x) * (r.start.y - r.finish.y)
      - (s.start.y - s.finish.y) * (r.start.x - r.finish.x) := rfl
  unfold meetAt pointAt
  rw [turn_comm s r]
  generalize s.turn r = det at hturn hdet ⊢
  ext
  · dsimp only
    field_simp
    rw [hdet]
    ring
  · dsimp only
    field_simp
    rw [hdet]
    ring

/-- Segments that do not run in parallel meet; if they do there is no such point. -/
theorem meet_eq (s r : Segment Rat) : s.meet r
    = if s.turn r = 0 then .error .barsParallel else .ok (s.pointAt (s.meetAt r)) := by
  have hdet : s.turn r = (s.start.x - s.finish.x) * (r.start.y - r.finish.y)
      - (s.start.y - s.finish.y) * (r.start.x - r.finish.x) := rfl
  unfold meet meetAt pointAt
  dsimp only
  rw [← hdet, Scalar.isZero_rat]
  by_cases hturn : s.turn r = 0
  · rw [if_pos hturn, if_pos (decide_eq_true hturn)]
  · rw [if_neg hturn, if_neg (by simpa using hturn)]
    generalize s.turn r = det at hturn hdet ⊢
    congr 2
    · field_simp
      rw [hdet]
      ring
    · field_simp
      rw [hdet]
      ring

theorem meet_eq_error_iff : s.meet r = .error .barsParallel ↔ s.turn r = 0 := by
  rw [meet_eq]
  by_cases hturn : s.turn r = 0
  · simp [hturn]
  · simp [hturn]

theorem meet_eq_ok_iff :
    s.meet r = .ok p ↔ s.turn r ≠ 0 ∧ s.pointAt (s.meetAt r) = p := by
  rw [meet_eq]
  by_cases hturn : s.turn r = 0
  · simp [hturn]
  · simp [hturn]

/-- The point where two segments meet lies on the lines of both. -/
theorem mem_line_of_meet (h : s.meet r = .ok p) : p ∈ s.line ∧ p ∈ r.line := by
  obtain ⟨hturn, rfl⟩ := meet_eq_ok_iff.mp h
  exact ⟨⟨_, rfl⟩, ⟨_, (pointAt_meetAt_comm hturn).symm⟩⟩

-- ============================================ from side to side of a page

/-- A segment from the lower side of a page to the upper one. -/
def riser (height a b : Rat) : Segment Rat := ⟨⟨a, 0⟩, ⟨b, height⟩⟩

/-- A segment from the left side of a page to the right one. -/
def runner (width c d : Rat) : Segment Rat := ⟨⟨0, c⟩, ⟨width, d⟩⟩

/-- What two segments across a page have if they end on the page. -/
structure Spanning (width height a b c d : Rat) : Prop where
  width_pos : 0 < width
  height_pos : 0 < height
  lower : a ∈ Set.Icc 0 width
  upper : b ∈ Set.Icc 0 width
  left : c ∈ Set.Icc 0 height
  right : d ∈ Set.Icc 0 height

/-- Both segments are one diagonal of a page: the rising one, or the falling one,
which they run along in opposite directions. -/
def OneDiagonal (width height : Rat) (s r : Segment Rat) : Prop :=
  (s = ⟨⟨0, 0⟩, ⟨width, height⟩⟩ ∧ r = ⟨⟨0, 0⟩, ⟨width, height⟩⟩)
    ∨ (s = ⟨⟨width, 0⟩, ⟨0, height⟩⟩ ∧ r = ⟨⟨0, height⟩, ⟨width, 0⟩⟩)

section
variable {width height a b c d : Rat}

/-- The part of a riser below a runner, in terms of distances from the corners. -/
def partBelow (width a c d : Rat) : Rat := c * (width - a) + a * d

/-- The part of a riser above a runner. -/
def partAbove (width height b c d : Rat) : Rat := (height - c) * (width - b) + b * (height - d)

theorem turn_riser (width height a b c d : Rat) :
    (riser height a b).turn (runner width c d)
      = -(partBelow width a c d + partAbove width height b c d) := by
  unfold turn riser runner partBelow partAbove
  ring

theorem meetAt_riser (width height a b c d : Rat) :
    (riser height a b).meetAt (runner width c d)
      = partBelow width a c d / (partBelow width a c d + partAbove width height b c d) := by
  unfold meetAt
  rw [turn_riser, div_neg, ← neg_div]
  congr 1
  unfold riser runner partBelow
  ring

/-- Seen from the left side a page has the same parts. -/
theorem parts_comm (width height a b c d : Rat) :
    partBelow width a c d + partAbove width height b c d
      = partBelow height c a b + partAbove height width d a b := by
  unfold partBelow partAbove
  ring

theorem meetAt_runner (width height a b c d : Rat) :
    (runner width c d).meetAt (riser height a b)
      = partBelow height c a b / (partBelow height c a b + partAbove height width d a b) := by
  unfold meetAt
  rw [turn_comm, turn_riser, neg_neg, parts_comm]
  congr 1
  unfold riser runner partBelow
  ring

/-- A part of a whole is a parameter between the ends. -/
theorem part_mem {below above : Rat} (hbelow : 0 ≤ below) (habove : 0 ≤ above) :
    below / (below + above) ∈ Set.Icc (0 : Rat) 1 := by
  have hwhole : 0 ≤ below + above := add_nonneg hbelow habove
  exact ⟨div_nonneg hbelow hwhole, div_le_one_of_le₀ (le_add_of_nonneg_right habove) hwhole⟩

namespace Spanning

variable (h : Spanning width height a b c d)

include h

/-- A page may be looked at from the left side. -/
theorem turned : Spanning height width c d a b :=
  ⟨h.height_pos, h.width_pos, h.left, h.right, h.lower, h.upper⟩

theorem partBelow_nonneg : 0 ≤ partBelow width a c d :=
  add_nonneg (mul_nonneg h.left.1 (sub_nonneg.mpr h.lower.2)) (mul_nonneg h.lower.1 h.right.1)

theorem partAbove_nonneg : 0 ≤ partAbove width height b c d :=
  add_nonneg (mul_nonneg (sub_nonneg.mpr h.left.2) (sub_nonneg.mpr h.upper.2))
    (mul_nonneg h.upper.1 (sub_nonneg.mpr h.right.2))

/-- Segments across a page run in parallel only if both are one diagonal. -/
theorem turn_eq_zero_iff : (riser height a b).turn (runner width c d) = 0
    ↔ OneDiagonal width height (riser height a b) (runner width c d) := by
  rw [turn_riser, neg_eq_zero,
    add_eq_zero_iff_of_nonneg h.partBelow_nonneg h.partAbove_nonneg]
  constructor
  · rintro ⟨hbelow, habove⟩
    -- each of the four products is zero
    unfold partBelow at hbelow
    unfold partAbove at habove
    obtain ⟨hca, had⟩ := (add_eq_zero_iff_of_nonneg
      (mul_nonneg h.left.1 (sub_nonneg.mpr h.lower.2)) (mul_nonneg h.lower.1 h.right.1)).mp hbelow
    obtain ⟨hcb, hbd⟩ := (add_eq_zero_iff_of_nonneg
      (mul_nonneg (sub_nonneg.mpr h.left.2) (sub_nonneg.mpr h.upper.2))
      (mul_nonneg h.upper.1 (sub_nonneg.mpr h.right.2))).mp habove
    rcases mul_eq_zero.mp hca with rfl | ha
    · -- the runner starts at the lower left corner
      rw [sub_zero] at hcb
      obtain rfl : b = width := by
        linarith [(mul_eq_zero.mp hcb).resolve_left h.height_pos.ne']
      obtain rfl : d = height := by
        linarith [(mul_eq_zero.mp hbd).resolve_left h.width_pos.ne']
      obtain rfl : a = 0 := (mul_eq_zero.mp had).resolve_right h.height_pos.ne'
      exact Or.inl ⟨rfl, rfl⟩
    · -- the riser starts at the lower right corner
      obtain rfl : a = width := by linarith
      obtain rfl : d = 0 := (mul_eq_zero.mp had).resolve_left h.width_pos.ne'
      rw [sub_zero] at hbd
      obtain rfl : b = 0 := (mul_eq_zero.mp hbd).resolve_right h.height_pos.ne'
      rw [sub_zero] at hcb
      obtain rfl : c = height := by
        linarith [(mul_eq_zero.mp hcb).resolve_right h.width_pos.ne']
      exact Or.inr ⟨rfl, rfl⟩
  · rintro (⟨hs, hr⟩ | ⟨hs, hr⟩)
    · cases hs
      cases hr
      constructor
      · unfold partBelow
        ring
      · unfold partAbove
        ring
    · cases hs
      cases hr
      constructor
      · unfold partBelow
        ring
      · unfold partAbove
        ring

/-- A riser on the page is met between its ends. -/
theorem meetAt_riser_mem :
    (riser height a b).meetAt (runner width c d) ∈ Set.Icc (0 : Rat) 1 := by
  rw [meetAt_riser]
  exact part_mem h.partBelow_nonneg h.partAbove_nonneg

theorem meetAt_runner_mem :
    (runner width c d).meetAt (riser height a b) ∈ Set.Icc (0 : Rat) 1 := by
  rw [meetAt_runner]
  exact part_mem h.turned.partBelow_nonneg h.turned.partAbove_nonneg

end Spanning

end

end Segment

-- ========================================================= bars of a trellis

namespace Family

/-- The value at an index, which may be a fraction. -/
def quantityAt (f : Family Rat) : Amount Rat → Rat
  | .whole i => f.valueAt i
  | .real x => x * f.spacing.size + f.first
  | .flag b => f.valueAt b.toNat

theorem quantityAt?_rat (f : Family Rat) (i : Amount Rat) :
    f.quantityAt? i = .ok (f.quantityAt i) := by
  cases i <;> rfl

end Family

namespace Segment

/-- Both ends of a segment lie in a box. -/
def Within (s : Segment Rat) (b : Bounds Rat) : Prop := s.start ∈ b.region ∧ s.finish ∈ b.region

end Segment

namespace Trellis

variable {t : Trellis Rat} {i j : Amount Rat}

/-- Where the easting bar of an index lies on the page, also of one outside the family
or between two bars. -/
def eastingLineAt (t : Trellis Rat) (i : Amount Rat) : Segment Rat :=
  t.eastingLine (t.easting.quantityAt i)

/-- Where the northing bar of an index lies on the page. -/
def northingLineAt (t : Trellis Rat) (i : Amount Rat) : Segment Rat :=
  t.northingLine (t.northing.quantityAt i)

@[simp] theorem eastingLineAt_whole (t : Trellis Rat) (i : Int) :
    t.eastingLineAt (.whole i) = (t.eastingBar i).line := rfl

@[simp] theorem northingLineAt_whole (t : Trellis Rat) (i : Int) :
    t.northingLineAt (.whole i) = (t.northingBar i).line := rfl

/-- Two bars cross where their segments meet. -/
theorem crossing_eq (t : Trellis Rat) (i j : Amount Rat) :
    t.crossing i j = (t.eastingLineAt i).meet (t.northingLineAt j) := by
  unfold crossing
  rw [Family.quantityAt?_rat, Family.quantityAt?_rat]
  rfl

/-- Bars that end on the page go from side to side of it. -/
theorem exists_spanning (hwidth : 0 < t.pageWidth) (hheight : 0 < t.pageHeight)
    (hi : (t.eastingLineAt i).Within (.page t.pageWidth t.pageHeight))
    (hj : (t.northingLineAt j).Within (.page t.pageWidth t.pageHeight)) :
    ∃ a b c d, t.eastingLineAt i = .riser t.pageHeight a b
      ∧ t.northingLineAt j = .runner t.pageWidth c d
      ∧ Segment.Spanning t.pageWidth t.pageHeight a b c d := by
  obtain ⟨hlower, hupper⟩ := hi
  obtain ⟨hleft, hright⟩ := hj
  exact ⟨_, _, _, _, rfl, rfl, hwidth, hheight, (Bounds.mem_page.mp hlower).1,
    (Bounds.mem_page.mp hupper).1, (Bounds.mem_page.mp hleft).2, (Bounds.mem_page.mp hright).2⟩

/-- Bars that end on the page do not cross only if both are one diagonal. -/
theorem crossing_eq_error_iff (hwidth : 0 < t.pageWidth) (hheight : 0 < t.pageHeight)
    (hi : (t.eastingLineAt i).Within (.page t.pageWidth t.pageHeight))
    (hj : (t.northingLineAt j).Within (.page t.pageWidth t.pageHeight)) :
    t.crossing i j = .error .barsParallel
      ↔ Segment.OneDiagonal t.pageWidth t.pageHeight (t.eastingLineAt i) (t.northingLineAt j) := by
  obtain ⟨_, _, _, _, heasting, hnorthing, hspan⟩ := exists_spanning hwidth hheight hi hj
  rw [crossing_eq, Segment.meet_eq_error_iff, heasting, hnorthing]
  exact hspan.turn_eq_zero_iff

/-- Bars that end on the page cross between their ends. -/
theorem mem_points_of_crossing (hwidth : 0 < t.pageWidth) (hheight : 0 < t.pageHeight)
    (hi : (t.eastingLineAt i).Within (.page t.pageWidth t.pageHeight))
    (hj : (t.northingLineAt j).Within (.page t.pageWidth t.pageHeight)) {p : Point Rat}
    (h : t.crossing i j = .ok p) :
    p ∈ (t.eastingLineAt i).points ∧ p ∈ (t.northingLineAt j).points := by
  obtain ⟨_, _, _, _, heasting, hnorthing, hspan⟩ := exists_spanning hwidth hheight hi hj
  rw [crossing_eq, heasting, hnorthing] at h
  rw [heasting, hnorthing]
  obtain ⟨hturn, rfl⟩ := Segment.meet_eq_ok_iff.mp h
  exact ⟨⟨_, hspan.meetAt_riser_mem, rfl⟩,
    ⟨_, hspan.meetAt_runner_mem, (Segment.pointAt_meetAt_comm hturn).symm⟩⟩

/-- Bars cross, or they run in parallel; nothing else can go wrong. -/
theorem exists_crossing (h : t.crossing i j ≠ .error .barsParallel) :
    ∃ p, t.crossing i j = .ok p := by
  rw [crossing_eq] at h ⊢
  exact ⟨_, Segment.meet_eq_ok_iff.mpr ⟨mt Segment.meet_eq_error_iff.mpr h, rfl⟩⟩

end Trellis

end MapSheets
