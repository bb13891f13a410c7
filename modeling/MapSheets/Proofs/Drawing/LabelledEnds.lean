import MapSheets.Proofs.Drawing.Bars
import MapSheets.Proofs.Geodesy.Coarse
import MapSheets.Proofs.Trellis.Frame
import MapSheets.Proofs.Trellis.Label
import Mathlib.Tactic.NormNum

/-
Labels in the margin and the lines they belong to. A label stands in the margin
of a side wherever a bar ends on the side, the corners of the frame included
(`outerLabel_eq_some_iff`), and there are no others (`mem_outer`); a line is
drawn wherever a bar has more than one point on the page. Going from an end on the side toward the other side, a
bar stays on the page for a while unless the end is a corner and the bar leads
away from the page there. That would need a value on the outermost end of the
two edges, and families have none (`Laid.across_pos`, `Laid.across_lt`). So
every label has a line, and the line reaches its end (`labelled_end_drawn`).
-/

namespace MapSheets

-- ============================================= going in from a side

namespace FrameSide

/-- The parameter on a bar of the point that lies a part of the way from its end
at a side. -/
def parameter : FrameSide → Rat → Rat
  | bottom, u | left, u => u
  | top, u | right, u => 1 - u

theorem parameter_mem (side : FrameSide) {u : Rat} (h₀ : 0 ≤ u) (h₁ : u ≤ 1) :
    side.parameter u ∈ Set.Icc (0 : Rat) 1 := by
  have hback : 1 - u ∈ Set.Icc (0 : Rat) 1 := ⟨sub_nonneg.mpr h₁, sub_le_self 1 h₀⟩
  cases side with
  | bottom => exact ⟨h₀, h₁⟩
  | top => exact hback
  | left => exact ⟨h₀, h₁⟩
  | right => exact hback

/-- At the side itself a bar has its end there. -/
theorem pointAt_parameter_zero (side : FrameSide) (s : Segment Rat) :
    s.pointAt (side.parameter 0) = side.endOf s := by
  have hback : s.pointAt (1 - 0) = s.finish := by
    rw [sub_zero, Segment.pointAt_one]
  cases side with
  | bottom => exact s.pointAt_zero
  | top => exact hback
  | left => exact s.pointAt_zero
  | right => exact hback

/-- Along the side a bar moves at an even pace to where it ends across the frame. -/
theorem along_pointAt_parameter (side : FrameSide) (s : Segment Rat) (u : Rat) :
    side.along (s.pointAt (side.parameter u)) = side.along (side.endOf s)
      + u * (side.along (side.opposite.endOf s) - side.along (side.endOf s)) := by
  have hback : ∀ a a' : Rat, a + (1 - u) * (a' - a) = a' + u * (a - a') := by
    intro a a'
    ring
  cases side with
  | bottom => rfl
  | top => exact hback _ _
  | left => rfl
  | right => exact hback _ _

theorem parameter_ne_zero (side : FrameSide) {u : Rat} (hu : u ≠ 0) :
    side.parameter u ≠ side.parameter 0 := by
  cases side with
  | bottom => exact hu
  | top => exact fun h => hu (sub_right_injective h)
  | left => exact hu
  | right => exact fun h => hu (sub_right_injective h)

end FrameSide

namespace Segment

/-- A cut keeps the end at a side that lies in the box. -/
theorem VisiblePart.endOf_eq {s r : Segment Rat} {b : Bounds Rat} (h : s.VisiblePart b r)
    (side : FrameSide) (hmem : side.endOf s ∈ b.region) : side.endOf r = side.endOf s := by
  cases side with
  | bottom => exact h.start_eq hmem
  | top => exact h.finish_eq hmem
  | left => exact h.start_eq hmem
  | right => exact h.finish_eq hmem

end Segment

/-- A coordinate on a stretch stays on it for a part of its way, unless it
starts on an end of the stretch and leads away from it. -/
theorem exists_stay {extent a a' : Rat} (h₀ : 0 ≤ a) (h₁ : a ≤ extent) (hlow : a = 0 → 0 < a')
    (hhigh : a = extent → a' < extent) :
    ∃ u, 0 < u ∧ u ≤ 1 ∧ 0 ≤ a + u * (a' - a) ∧ a + u * (a' - a) ≤ extent := by
  rcases lt_or_ge a' 0 with hbelow | habove
  · -- it leaves through the low end
    have hpos : 0 < a := lt_of_le_of_ne h₀ fun h => absurd (hlow h.symm) (not_lt.mpr hbelow.le)
    have hway : 0 < a - a' := by linarith
    refine ⟨a / (a - a'), div_pos hpos hway, (div_le_one hway).mpr (by linarith), ?_⟩
    have hend : a + a / (a - a') * (a' - a) = 0 := by
      field_simp
      ring
    rw [hend]
    exact ⟨le_rfl, h₀.trans h₁⟩
  · rcases le_or_gt a' extent with hinside | hbeyond
    · exact ⟨1, one_pos, le_rfl, by linarith, by linarith⟩
    · -- it leaves through the high end
      have hpos : a < extent := lt_of_le_of_ne h₁ fun h => absurd (hhigh h) (not_lt.mpr hbeyond.le)
      have hway : 0 < a' - a := by linarith
      refine ⟨(extent - a) / (a' - a), div_pos (by linarith) hway,
        (div_le_one hway).mpr (by linarith), ?_⟩
      rw [div_mul_cancel₀ _ hway.ne', add_sub_cancel]
      exact ⟨h₀.trans h₁, le_rfl⟩

namespace Trellis

-- ================================================ labels in the margins

section
variable {α : Type} {t : Trellis α}

@[simp] theorem coordLabel_spacing (t : Trellis α) (bar : Bar α) (side : FrameSide) :
    (t.coordLabel bar side).spacing = t.spacing := by
  cases side <;> rfl

@[simp] theorem coordLabel_parts (t : Trellis α) (bar : Bar α) (side : FrameSide) :
    (t.coordLabel bar side).parts = t.spacing.split bar.value := by
  cases side <;> rfl

/-- What is shown of the label of a bar, at any side. -/
theorem exists_shownAt (hsize : t.spacing.size ≠ 0) (bar : Bar α) (side : FrameSide) :
    ∃ parts, t.spacing.split bar.value = .ok parts
      ∧ (t.coordLabel bar side).shownAt bar.index = .ok (if bar.index = 0 then LabelPiece.all
        else if parts.label % 10 = 0 then [.leading, .label] else [.label]) := by
  rw [← coordLabel_spacing t bar side] at hsize
  obtain ⟨parts, hsplit, hshown⟩ := CoordLabel.exists_shownAt hsize
  rw [coordLabel_parts] at hsplit
  exact ⟨parts, hsplit, hshown bar.index⟩

variable [Scalar α] {box : PixelBox α} {bar : Bar α} {side : FrameSide}

/-- A bar has a label in the margin of a side where it ends on the side. -/
theorem outerLabel_eq_some_iff {l : PlacedLabel α} :
    t.outerLabel box bar side = .ok (some l) ↔ t.endsOn side bar = true
      ∧ ∃ shown, (t.coordLabel bar side).shownAt bar.index = .ok shown
        ∧ l = ⟨t.coordLabel bar side, shown, side.labelPosition box (side.endOf bar.line),
            side.anchor⟩ := by
  unfold outerLabel
  rw [Outcome.bind_eq_ok]
  constructor
  · rintro ⟨shown, hshown, h⟩
    injection h with h
    split at h
    case isTrue hends =>
      injection h with h
      exact ⟨hends, shown, hshown, h.symm⟩
    case isFalse => cases h
  · rintro ⟨hends, shown, hshown, rfl⟩
    refine ⟨shown, hshown, ?_⟩
    rw [if_pos hends]
    rfl

/-- A bar that ends on a side has a label there, for a spacing that is not zero. -/
theorem exists_outerLabel (box : PixelBox α) (hsize : t.spacing.size ≠ 0)
    (hends : t.endsOn side bar = true) : ∃ l, t.outerLabel box bar side = .ok (some l) := by
  obtain ⟨_, -, hshown⟩ := exists_shownAt hsize bar side
  exact ⟨_, outerLabel_eq_some_iff.mpr ⟨hends, _, hshown, rfl⟩⟩

/-- What a label in the margin of a side shows. -/
theorem exists_shown {l : PlacedLabel α} (hsize : t.spacing.size ≠ 0)
    (hlabel : t.outerLabel box bar side = .ok (some l)) :
    ∃ parts, t.spacing.split bar.value = .ok parts
      ∧ l.shown = if bar.index = 0 then LabelPiece.all
        else if parts.label % 10 = 0 then [.leading, .label] else [.label] := by
  obtain ⟨-, shown, hshown, rfl⟩ := outerLabel_eq_some_iff.mp hlabel
  obtain ⟨parts, hparts, hpieces⟩ := exists_shownAt hsize bar side
  rw [hshown, Except.ok.injEq] at hpieces
  exact ⟨parts, hparts, hpieces⟩

/-- The labels of a bar in the margins of some sides, one for each side that it
ends on. -/
theorem mem_outerLabels {sides : List FrameSide} {ls : List (PlacedLabel α)}
    (h : t.outerLabels box sides bar = .ok ls) {l : PlacedLabel α} :
    l ∈ ls ↔ ∃ side ∈ sides, t.outerLabel box bar side = .ok (some l) := by
  obtain ⟨found, hfound, h⟩ := Outcome.bind_eq_ok.mp h
  obtain ⟨hall, honly⟩ := Outcome.of_mapM_eq_ok hfound
  cases h
  rw [List.mem_filterMap]
  constructor
  · rintro ⟨_, hmem, rfl⟩
    exact honly _ hmem
  · rintro ⟨side, hside, hlabel⟩
    obtain ⟨label?, hmem, hlabel?⟩ := hall side hside
    rw [hlabel] at hlabel?
    cases hlabel?
    exact ⟨some l, hmem, rfl⟩

/-- Bar by bar the labels of a family in the margins are those of its ends,
whatever is written inside the frame. -/
theorem mem_outer_of_mapM {sides : List FrameSide} {bars : List (Bar α)} {indexes : LabelIndexes α}
    {inner : Bar α → List (Outcome (Amount α)) → Outcome (List (PlacedLabel α))}
    {drawn : List (Labels α)}
    (h : bars.mapM (fun bar => do
      let outer ← (t.outerLabels box sides bar : Outcome (List (PlacedLabel α)))
      return Labels.mk outer (← inner bar (← indexes))) = .ok drawn) {l : PlacedLabel α} :
    l ∈ drawn.flatMap (·.outer)
      ↔ ∃ side ∈ sides, ∃ bar ∈ bars, t.outerLabel box bar side = .ok (some l) := by
  have hbar : ∀ {bar labels}, (do
        let outer ← (t.outerLabels box sides bar : Outcome (List (PlacedLabel α)))
        return Labels.mk outer (← inner bar (← indexes))) = .ok labels →
      (l ∈ labels.outer ↔ ∃ side ∈ sides, t.outerLabel box bar side = .ok (some l)) := by
    intro bar labels hlabels
    obtain ⟨outer, houter, hlabels⟩ := Outcome.bind_eq_ok.mp hlabels
    obtain ⟨_, -, hlabels⟩ := Outcome.bind_eq_ok.mp hlabels
    obtain ⟨_, -, hlabels⟩ := Outcome.bind_eq_ok.mp hlabels
    cases hlabels
    exact mem_outerLabels (Outcome.lift_eq_ok.mp houter)
  obtain ⟨hall, honly⟩ := Outcome.of_mapM_eq_ok h
  rw [List.mem_flatMap]
  constructor
  · rintro ⟨labels, hlabels, hl⟩
    obtain ⟨bar, hmem, hdrawn⟩ := honly labels hlabels
    obtain ⟨side, hside, hlabel⟩ := (hbar hdrawn).mp hl
    exact ⟨side, hside, bar, hmem, hlabel⟩
  · rintro ⟨side, hside, bar, hmem, hlabel⟩
    obtain ⟨labels, hlabels, hdrawn⟩ := hall bar hmem
    exact ⟨labels, hlabels, (hbar hdrawn).mpr ⟨side, hside, hlabel⟩⟩

/-- The labels in the margins of a trellis are those of the bars that end on a
side, whatever rows and columns are labelled inside. -/
theorem mem_outer {rows cols : LabelIndexes α} {labels : Labels α}
    (h : t.labels box rows cols = .ok labels) {l : PlacedLabel α} :
    l ∈ labels.outer ↔ ∃ side, ∃ bar ∈ t.barsAt side, t.outerLabel box bar side = .ok (some l) := by
  obtain ⟨eastings, heastings, h⟩ := Outcome.bind_eq_ok.mp h
  obtain ⟨northings, hnorthings, h⟩ := Outcome.bind_eq_ok.mp h
  cases h
  show l ∈ (eastings ++ northings).flatMap (·.outer) ↔ _
  rw [List.flatMap_append, List.mem_append, mem_outer_of_mapM heastings,
    mem_outer_of_mapM hnorthings]
  constructor
  · rintro (⟨side, hside, bar, hbar, hlabel⟩ | ⟨side, hside, bar, hbar, hlabel⟩)
    · rcases List.mem_pair.mp hside with rfl | rfl
      · exact ⟨.bottom, bar, hbar, hlabel⟩
      · exact ⟨.top, bar, hbar, hlabel⟩
    · rcases List.mem_pair.mp hside with rfl | rfl
      · exact ⟨.left, bar, hbar, hlabel⟩
      · exact ⟨.right, bar, hbar, hlabel⟩
  · rintro ⟨side, bar, hbar, hlabel⟩
    cases side with
    | bottom => exact Or.inl ⟨.bottom, by decide, bar, hbar, hlabel⟩
    | top => exact Or.inl ⟨.top, by decide, bar, hbar, hlabel⟩
    | left => exact Or.inr ⟨.left, by decide, bar, hbar, hlabel⟩
    | right => exact Or.inr ⟨.right, by decide, bar, hbar, hlabel⟩

end

variable {t : Trellis Rat} {side : FrameSide} {bar : Bar Rat}

-- =================================================== bars on the page

/-- The page of a trellis. -/
def page (t : Trellis Rat) : Bounds Rat := .page t.pageWidth t.pageHeight

namespace Laid

theorem page_proper (h : t.Laid) : t.page.Proper :=
  Bounds.page_proper (h.extent_pos .bottom) (h.extent_pos .left)

/-- A bar runs from one side to the other, so it is no point. -/
theorem line_ne (h : t.Laid) (hbar : bar ∈ t.barsAt side) : bar.line.start ≠ bar.line.finish := by
  obtain ⟨i, -, rfl⟩ := mem_barsAt.mp hbar
  have hwidth : t.pageWidth ≠ 0 := (h.extent_pos .bottom).ne'
  have hheight : t.pageHeight ≠ 0 := (h.extent_pos .left).ne'
  intro hpoint
  cases side with
  | bottom => exact hheight (congrArg Point.y hpoint).symm
  | top => exact hheight (congrArg Point.y hpoint).symm
  | left => exact hwidth (congrArg Point.x hpoint).symm
  | right => exact hwidth (congrArg Point.x hpoint).symm

/-- Where a bar ends across the frame. -/
theorem across_endOf (h : t.Laid) (i : Int) (side : FrameSide) :
    side.along (side.opposite.endOf (t.barAt i side).line)
      = t.extent side * (((t.barAt i side).value - (t.edgeAt side.opposite).start)
          / ((t.edgeAt side.opposite).finish - (t.edgeAt side.opposite).start)) := by
  have hacross := h.along_endOf i side.opposite
  cases side <;> exact hacross

/-- A bar that ends on the start of a side leads onto the page. -/
theorem across_pos (h : t.Laid) (hbar : bar ∈ t.barsAt side)
    (hzero : side.along (side.endOf bar.line) = 0) :
    0 < side.along (side.opposite.endOf bar.line) := by
  have hbetween := (h.value_between hbar).1
  obtain ⟨i, -, rfl⟩ := mem_barsAt.mp hbar
  have hspan := sub_pos.mpr (h.forward side)
  rw [h.along_endOf, mul_eq_zero, or_iff_right (h.extent_pos side).ne', div_eq_zero_iff,
    or_iff_left hspan.ne', sub_eq_zero] at hzero
  have hpast : (t.edgeAt side.opposite).start < (t.barAt i side).value :=
    (min_lt_iff.mp hbetween).resolve_left (fun hlt => hlt.ne hzero.symm)
  rw [h.across_endOf]
  exact mul_pos (h.extent_pos side)
    (div_pos (sub_pos.mpr hpast) (sub_pos.mpr (h.forward side.opposite)))

/-- A bar that ends on the finish of a side leads onto the page. -/
theorem across_lt (h : t.Laid) (hbar : bar ∈ t.barsAt side)
    (hfull : side.along (side.endOf bar.line) = t.extent side) :
    side.along (side.opposite.endOf bar.line) < t.extent side := by
  have hbetween := (h.value_between hbar).2
  obtain ⟨i, -, rfl⟩ := mem_barsAt.mp hbar
  have hspan := sub_pos.mpr (h.forward side)
  rw [h.along_endOf, mul_eq_left₀ (h.extent_pos side).ne', div_eq_one_iff_eq hspan.ne',
    sub_left_inj] at hfull
  have hbefore : ((t.barAt i side).value : Rat) < (t.edgeAt side.opposite).finish :=
    (lt_max_iff.mp hbetween).resolve_left (fun hlt => hlt.ne hfull)
  rw [h.across_endOf]
  refine mul_lt_of_lt_one_right (h.extent_pos side) ?_
  rw [div_lt_one (sub_pos.mpr (h.forward side.opposite))]
  exact sub_lt_sub_right hbefore _

/-- A bar is on the page as long as it is between the ends of the side it comes
from. -/
theorem pointAt_mem_page (h : t.Laid) (i : Int) (side : FrameSide) {u : Rat} (h₀ : 0 ≤ u)
    (h₁ : u ≤ 1) : (t.barAt i side).line.pointAt (side.parameter u) ∈ t.page.region
      ↔ 0 ≤ side.along ((t.barAt i side).line.pointAt (side.parameter u))
        ∧ side.along ((t.barAt i side).line.pointAt (side.parameter u)) ≤ t.extent side := by
  obtain ⟨hlow, hhigh⟩ := side.parameter_mem h₀ h₁
  -- from side to side the page is as deep as the bar runs
  have hdepth : ∀ depth : Rat, 0 < depth → 0 ≤ 0 + side.parameter u * (depth - 0)
      ∧ 0 + side.parameter u * (depth - 0) ≤ depth := by
    intro depth hpos
    rw [zero_add, sub_zero]
    exact ⟨mul_nonneg hlow hpos.le, mul_le_of_le_one_left hpos.le hhigh⟩
  have hwidth := hdepth t.pageWidth (h.extent_pos .bottom)
  have hheight := hdepth t.pageHeight (h.extent_pos .left)
  unfold page
  rw [Bounds.mem_page]
  cases side with
  | bottom => exact and_iff_left hheight
  | top => exact and_iff_left hheight
  | left => exact and_iff_right hwidth
  | right => exact and_iff_right hwidth

/-- A bar that ends on a side shows more than one point on the page, and its
visible part keeps that end. -/
theorem exists_visible (h : t.Laid) (hbar : bar ∈ t.barsAt side)
    (hends : t.endsOn side bar = true) :
    ∃ s, bar.line.clip (some t.page) = .ok (some s) ∧ side.endOf s = side.endOf bar.line := by
  have hon := endsOn_eq_true.mp hends
  have hne := h.line_ne hbar
  obtain ⟨u, hu₀, hu₁, hstay⟩ := exists_stay hon.1 hon.2 (h.across_pos hbar) (h.across_lt hbar)
  rw [← FrameSide.along_pointAt_parameter] at hstay
  obtain ⟨i, -, rfl⟩ := mem_barsAt.mp hbar
  set line := (t.barAt i side).line with hline
  have hinner : line.pointAt (side.parameter u) ∈ t.page.region :=
    (h.pointAt_mem_page i side hu₀.le hu₁).mpr hstay
  have hend : side.endOf line ∈ t.page.region := by
    rw [← side.pointAt_parameter_zero, hline, h.pointAt_mem_page i side le_rfl zero_le_one,
      side.pointAt_parameter_zero]
    exact hon
  rcases Segment.clip_cases h.page_proper hne with ⟨s, hclip, hvisible⟩ | ⟨-, hsubsingleton⟩
  · exact ⟨s, hclip, hvisible.endOf_eq side hend⟩
  · -- the end and the inner point are two points
    exfalso
    have hzero := side.pointAt_parameter_zero line
    have hsame := hsubsingleton
      ⟨⟨_, side.parameter_mem hu₀.le hu₁, rfl⟩, hinner⟩
      ⟨⟨_, side.parameter_mem le_rfl zero_le_one, hzero⟩, hend⟩
    rw [← hzero] at hsame
    exact side.parameter_ne_zero hu₀.ne' (Segment.pointAt_injective hne hsame)

end Laid

end Trellis

-- ============================================== a frame that leans

namespace Coarse

/-- The trellis of a frame that is narrower at its top, west of the middle of its
zone: its left side leans to the east. -/
def leaning : Outcome (Trellis Rat) :=
  Trellis.ofFrame .standard .thousand none ⟨-105997 / 1000, 401 / 10⟩ ⟨-10597 / 100, 40⟩

/-- Of its three easting bars the first one ends on the lower side only, whose
edge starts before that of the upper side. -/
theorem exists_leaning : ∃ t box labels, leaning = .ok t
    ∧ PixelBox.ofPage 100 100 t.pageWidth t.pageHeight 10 10 = .ok box
    ∧ t.labels box (.ok []) (.ok []) = .ok labels
    ∧ t.easting.steps = 3 ∧ t.easting.valueAt 1 = 416000
    ∧ (t.edgeAt .bottom).start ≤ (t.edgeAt .top).start
    ∧ t.endsOn .bottom (t.eastingBar 0) = true ∧ t.endsOn .top (t.eastingBar 0) = false
    ∧ t.endsOn .top (t.eastingBar 1) = true := by
  have hvalues : (do
      let t ← leaning
      let box ← PixelBox.ofPage 100 100 t.pageWidth t.pageHeight 10 10
      let _ ← t.labels box (.ok []) (.ok [])
      return t : Outcome (Trellis Rat)).toOption.map (fun t =>
        (t.easting.steps, t.easting.valueAt 1,
          decide ((t.edgeAt .bottom).start ≤ (t.edgeAt .top).start),
          t.endsOn .bottom (t.eastingBar 0), t.endsOn .top (t.eastingBar 0),
          t.endsOn .top (t.eastingBar 1))) = some (3, 416000, true, true, false, true) := by
    decide +kernel
  obtain ⟨_, hdrawn, hvalues⟩ := Outcome.ok_of_toOption hvalues
  obtain ⟨t, ht, hdrawn⟩ := Outcome.bind_eq_ok.mp hdrawn
  obtain ⟨box, hbox, hdrawn⟩ := Outcome.bind_eq_ok.mp hdrawn
  obtain ⟨labels, hlabels, hdrawn⟩ := Outcome.bind_eq_ok.mp hdrawn
  injection hdrawn with hdrawn
  subst hdrawn
  simp only [Prod.mk.injEq, decide_eq_true_eq] at hvalues
  exact ⟨t, box, labels, ht, Outcome.lift_eq_ok.mp hbox, hlabels, hvalues⟩

end Coarse

namespace Trellis

/-- No label stands in the margin of an exact trellis without a line under it.
The labels in the margins are those of the bars at their ends on the sides; where
a bar has a label at a side, something of the bar is left on the page, the end at
that side is kept, and the line is among those drawn of its family. -/
theorem labelled_end_drawn [NumberText Rat] [Elementary Rat] [Survey Rat]
    (hlength : ∀ x y : Rat, 0 < x → 0 < Elementary.hypotenuse x y)
    {ellipsoid : Ellipsoid Rat} {spacing : Spacing} {zone : Option Int}
    {topLeft bottomRight : Point Rat} {t : Trellis Rat}
    (h : ofFrame ellipsoid spacing zone topLeft bottomRight = .ok t) (box : PixelBox Rat)
    (rows cols : LabelIndexes Rat) (color : String) (width : AttributeValue Rat) :
    (∀ labels, t.labels box rows cols = .ok labels → ∀ l, l ∈ labels.outer ↔
        ∃ side, ∃ bar ∈ t.barsAt side, t.outerLabel box bar side = .ok (some l))
      ∧ ∀ side, ∀ bar ∈ t.barsAt side, ∀ l, t.outerLabel box bar side = .ok (some l) →
        ∃ s drawn, bar.line.clip (some (.page t.pageWidth t.pageHeight)) = .ok (some s)
          ∧ side.endOf s = side.endOf bar.line
          ∧ drawBars box (some (.page t.pageWidth t.pageHeight)) color width
              ((t.barsAt side).map Bar.line) = .ok drawn
          ∧ Element.line (box.pixels s) color width ∈ drawn.elements := by
  obtain ⟨hlaid, -⟩ := laid_of_ofFrame hlength h
  refine ⟨fun labels hlabels l => mem_outer hlabels, fun side bar hbar l hlabel => ?_⟩
  obtain ⟨hends, -⟩ := outerLabel_eq_some_iff.mp hlabel
  obtain ⟨s, hclip, hend⟩ := hlaid.exists_visible hbar hends
  have hlines : ∀ line ∈ (t.barsAt side).map Bar.line, line.start ≠ line.finish :=
    List.forall_mem_map.mpr fun _ hb => hlaid.line_ne hb
  obtain ⟨_, hdrawn, -⟩ := drawBars_visible hlaid.page_proper box color width hlines
  exact ⟨s, _, hclip, hend, hdrawn, mem_drawBars hclip (List.mem_map_of_mem hbar) hdrawn⟩

open scoped Coarse in
/-- The first bar of the leaning frame has a label under the frame. It leaves the
page through a side, and the line that is left of it begins at the label. -/
theorem labelled_end_drawn_leaning :
    ∃ t box labels, Coarse.leaning = .ok t
      ∧ PixelBox.ofPage 100 100 t.pageWidth t.pageHeight 10 10 = .ok box
      ∧ t.labels box (.ok []) (.ok []) = .ok labels
      ∧ t.endsOn .top (t.eastingBar 0) = false
      ∧ ∃ l ∈ labels.outer, ∃ s drawn,
        t.outerLabel box (t.eastingBar 0) .bottom = .ok (some l)
        ∧ s.start = (t.eastingBar 0).line.start
        ∧ drawBars box (some (.page t.pageWidth t.pageHeight)) "black" (.whole 1)
            (t.eastingBars.map Bar.line) = .ok drawn
        ∧ Element.line (box.pixels s) "black" (.whole 1) ∈ drawn.elements := by
  obtain ⟨t, box, labels, ht, hbox, hlabels, hsteps, -, -, hbottom, htop, -⟩ :=
    Coarse.exists_leaning
  obtain ⟨hlaid, -⟩ := laid_of_ofFrame Coarse.hypotenuse_pos ht
  have hbar : t.eastingBar 0 ∈ t.barsAt .bottom :=
    mem_barsAt.mpr ⟨0, hsteps ▸ by decide, rfl⟩
  obtain ⟨l, hlabel⟩ := exists_outerLabel box hlaid.size_ne hbottom
  obtain ⟨houter, hends⟩ := labelled_end_drawn Coarse.hypotenuse_pos ht box (.ok []) (.ok [])
    "black" (.whole 1)
  obtain ⟨s, drawn, -, hstart, hdrawn, hmem⟩ := hends .bottom _ hbar l hlabel
  exact ⟨t, box, labels, ht, hbox, hlabels, htop, l,
    (houter labels hlabels l).mpr ⟨.bottom, _, hbar, hlabel⟩, s, drawn, hlabel, hstart, hdrawn, hmem⟩

end Trellis

end MapSheets
