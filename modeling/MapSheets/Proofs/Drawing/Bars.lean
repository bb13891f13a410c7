import MapSheets.Drawing.TrellisMarks
import MapSheets.Proofs.Outcome
import MapSheets.Proofs.Plane.VisiblePart
import Mathlib.Tactic.NormNum

/-
The lines that bars leave on the canvas. Over exact points the way from the
page to the canvas carries the points of a segment to those of its image
(`points_pixels`) and the page to the frame (`pixel_mem_bounds`). So drawing a
list of segments adds, in order, the image of what is visible of each, a line
wherever there is more than one point to see, and counts the lines it adds
(`drawBars_visible`); on the page of a frame nothing leaves the frame
(`drawBars_page`).
-/

namespace MapSheets

-- ================================================ the page and the canvas

namespace Bounds

theorem mem_page {width height : Rat} {p : Point Rat} :
    p ∈ (page width height).region ↔ (0 ≤ p.x ∧ p.x ≤ width) ∧ 0 ≤ p.y ∧ p.y ≤ height :=
  mem_region

theorem page_proper {width height : Rat} (hwidth : 0 < width) (hheight : 0 < height) :
    (page width height).Proper := ⟨hwidth, hheight⟩

end Bounds

namespace PixelBox

variable {box : PixelBox Rat}

/-- The frame of a page, where a pixel has an extent. -/
theorem ofPage_eq {ground : Rat} (hground : 0 < ground) (x y width height buffer : Rat) :
    ofPage x y width height ground buffer = .ok
      { starting := ⟨x, y⟩, ending := ⟨x + width / ground, y + height / ground⟩, ground
        leftBuffer := buffer, bottomBuffer := buffer, rightBuffer := buffer, topBuffer := buffer
        rowOffset := 0, colOffset := 0 } := by
  unfold ofPage
  rw [Scalar.quotient?_rat hground.ne', Scalar.quotient?_rat hground.ne']
  rfl

/-- The canvas keeps the parameters of a segment. -/
theorem pixels_pointAt (box : PixelBox Rat) (s : Segment Rat) (t : Rat) :
    (box.pixels s).pointAt t = box.pixel (s.pointAt t) := by
  unfold pixels Segment.pointAt pixel
  ext <;> dsimp only <;> ring

/-- The image of a segment has the images of its points. -/
theorem points_pixels (box : PixelBox Rat) (s : Segment Rat) :
    (box.pixels s).points = Set.image box.pixel s.points := by
  unfold Segment.points
  rw [Set.image_image]
  exact Set.image_congr fun t _ => box.pixels_pointAt s t

/-- A point of the page lies on the canvas inside the frame. -/
theorem pixel_mem_bounds {x y width height ground buffer : Rat} (hground : 0 < ground)
    (hbox : ofPage x y width height ground buffer = .ok box) {p : Point Rat}
    (hp : p ∈ (Bounds.page width height).region) : box.pixel p ∈ box.bounds.region := by
  rw [ofPage_eq hground] at hbox
  cases hbox
  obtain ⟨⟨hx₀, hx₁⟩, hy₀, hy₁⟩ := Bounds.mem_page.mp hp
  have hleft : 0 ≤ p.x / ground := div_nonneg hx₀ hground.le
  have hright : p.x / ground ≤ width / ground := div_le_div_of_nonneg_right hx₁ hground.le
  have hbottom : 0 ≤ p.y / ground := div_nonneg hy₀ hground.le
  have htop : p.y / ground ≤ height / ground := div_le_div_of_nonneg_right hy₁ hground.le
  rw [Bounds.mem_region]
  unfold pixel bounds
  dsimp only
  refine ⟨⟨?_, ?_⟩, ?_, ?_⟩ <;> linarith

end PixelBox

-- ======================================================= drawing the bars

/-- The line of a segment of which something is left is among those drawn. -/
theorem mem_drawBars {α : Type} [Scalar α] [Exact α] {box : PixelBox α} {clip : Option (Bounds α)}
    {color : String} {width : AttributeValue α} {line s : Segment α}
    (hclip : line.clip clip = .ok (some s)) {lines : List (Segment α)} {drawn : DrawnBars α}
    (hline : line ∈ lines) (hdrawn : drawBars box clip color width lines = .ok drawn) :
    Element.line (box.pixels s) color width ∈ drawn.elements := by
  induction lines generalizing drawn with
  | nil => exact absurd hline List.not_mem_nil
  | cons first rest ih =>
      rw [drawBars] at hdrawn
      obtain ⟨part, hpart, hdrawn⟩ := Outcome.bind_eq_ok.mp hdrawn
      obtain ⟨others, hothers, hdrawn⟩ := Outcome.bind_eq_ok.mp hdrawn
      rcases List.mem_cons.mp hline with rfl | hrest
      · rw [hclip] at hpart
        cases hpart
        cases hdrawn
        exact List.mem_cons_self
      · have hmem := ih hrest hothers
        cases part with
        | none =>
            cases hdrawn
            exact hmem
        | some r =>
            cases hdrawn
            exact List.mem_cons_of_mem _ hmem

section
variable {b : Bounds Rat}

open scoped Classical in
/-- Drawing segments cut to a proper box adds the image of what is visible of
each, in order, and counts the lines. -/
theorem drawBars_visible (hb : b.Proper) (box : PixelBox Rat) (color : String)
    (width : AttributeValue Rat) {lines : List (Segment Rat)}
    (hlines : ∀ s ∈ lines, s.start ≠ s.finish) :
    ∃ parts : List (Segment Rat),
      drawBars box (some b) color width lines
          = .ok ⟨parts.map fun r => Element.line (box.pixels r) color width, parts.length⟩
        ∧ parts.map Segment.points
          = (lines.map fun s => s.points ∩ b.region).filter (·.Nontrivial)
        ∧ ∀ r ∈ parts, ∃ s ∈ lines, s.VisiblePart b r := by
  induction lines with
  | nil => exact ⟨[], rfl, rfl, fun _ h => absurd h List.not_mem_nil⟩
  | cons s rest ih =>
      obtain ⟨hs, hrest⟩ := List.forall_mem_cons.mp hlines
      obtain ⟨parts, hdrawn, hpoints, hparts⟩ := ih hrest
      have hold : ∀ r ∈ parts, ∃ s' ∈ s :: rest, s'.VisiblePart b r := by
        intro r hr
        obtain ⟨s', hs', hvisible⟩ := hparts r hr
        exact ⟨s', List.mem_cons_of_mem _ hs', hvisible⟩
      rcases Segment.clip_cases hb hs with ⟨r, hclip, hvisible⟩ | ⟨hclip, hsubsingleton⟩
      · refine ⟨r :: parts, ?_, ?_, ?_⟩
        · rw [drawBars, hclip, hdrawn]
          rfl
        · rw [List.map_cons, List.map_cons,
            List.filter_cons_of_pos (by simpa using hvisible.nontrivial), hvisible.points_eq, hpoints]
        · exact List.forall_mem_cons.mpr ⟨⟨s, List.mem_cons_self, hvisible⟩, hold⟩
      · refine ⟨parts, ?_, ?_, hold⟩
        · rw [drawBars, hclip, hdrawn]
          rfl
        · rw [List.map_cons, List.filter_cons_of_neg
            (by simpa using Set.not_nontrivial_iff.mpr hsubsingleton), hpoints]

open scoped Classical in
/-- Bars drawn on the page of a frame: the lines are, in order, the images of
the visible parts of the bars, one for each bar with more than one visible
point; they are counted, they end inside the frame, and what was cut once is
not cut again. -/
theorem drawBars_page {lines : List (Segment Rat)} (hlines : ∀ s ∈ lines, s.start ≠ s.finish)
    {pageWidth pageHeight ground : Rat} (hwidth : 0 < pageWidth) (hheight : 0 < pageHeight)
    (hground : 0 < ground) (x y buffer : Rat) (color : String) (width : AttributeValue Rat) :
    ∃ box drawn, ∃ visible : List (Segment Rat),
      PixelBox.ofPage x y pageWidth pageHeight ground buffer = .ok box
      ∧ drawBars box (some (Bounds.page pageWidth pageHeight)) color width lines = .ok drawn
      ∧ drawn.elements = visible.map (fun r => Element.line r color width)
      ∧ visible.map Segment.points
        = ((lines.map fun s => s.points ∩ (Bounds.page pageWidth pageHeight).region).filter
            (·.Nontrivial)).map (Set.image box.pixel)
      ∧ drawn.count = drawn.elements.length
      ∧ (∀ r ∈ visible, r.start ∈ box.bounds.region ∧ r.finish ∈ box.bounds.region)
      ∧ ∀ s ∈ lines, ∀ r, s.clip (some (Bounds.page pageWidth pageHeight)) = .ok (some r) →
          r.clip (some (Bounds.page pageWidth pageHeight)) = .ok (some r) := by
  have hpage := Bounds.page_proper hwidth hheight
  obtain ⟨box, hbox⟩ : ∃ box, PixelBox.ofPage x y pageWidth pageHeight ground buffer = .ok box :=
    ⟨_, PixelBox.ofPage_eq hground x y pageWidth pageHeight buffer⟩
  obtain ⟨parts, hdrawn, hpoints, hparts⟩ := drawBars_visible hpage box color width hlines
  refine ⟨box, _, parts.map box.pixels, hbox, hdrawn, ?_, ?_, ?_, ?_, ?_⟩
  · rw [List.map_map]
    rfl
  · rw [← hpoints, List.map_map, List.map_map]
    exact List.map_congr_left fun r _ => box.points_pixels r
  · exact (List.length_map _).symm
  · rw [List.forall_mem_map]
    intro r hr
    obtain ⟨s, -, hvisible⟩ := hparts r hr
    exact ⟨PixelBox.pixel_mem_bounds hground hbox hvisible.start_mem,
      PixelBox.pixel_mem_bounds hground hbox hvisible.finish_mem⟩
  · intro s hs r hclip
    rcases Segment.clip_cases hpage (hlines s hs) with ⟨r', hclip', hvisible⟩ | ⟨hnone, -⟩
    · rw [hclip'] at hclip
      cases hclip
      exact Segment.clip_of_mem hvisible.start_mem hvisible.finish_mem
    · rw [hnone] at hclip
      cases hclip

/-- Four bars at a page: one comes in through the left side, one runs along it,
one meets the page in a corner only and one misses it. Two lines are drawn. -/
theorem drawBars_page_at_corner :
    ∃ lines : List (Segment Rat),
      lines = [⟨⟨-5, 5⟩, ⟨5, 5⟩⟩, ⟨⟨0, 2⟩, ⟨0, 8⟩⟩, ⟨⟨-1, 1⟩, ⟨1, -1⟩⟩, ⟨⟨-5, -5⟩, ⟨-1, -1⟩⟩]
      ∧ (∀ s ∈ lines, s.start ≠ s.finish)
      ∧ ∃ box drawn, ∃ visible : List (Segment Rat),
        PixelBox.ofPage 50 50 10 10 (1 / 2) 10 = .ok box
        ∧ drawBars box (some (Bounds.page 10 10)) "black" (.whole 1) lines = .ok drawn
        ∧ drawn.count = 2
        ∧ drawn.elements = visible.map (fun r => Element.line r "black" (.whole 1))
        ∧ ∀ r ∈ visible, r.start ∈ box.bounds.region ∧ r.finish ∈ box.bounds.region := by
  let lines : List (Segment Rat) :=
    [⟨⟨-5, 5⟩, ⟨5, 5⟩⟩, ⟨⟨0, 2⟩, ⟨0, 8⟩⟩, ⟨⟨-1, 1⟩, ⟨1, -1⟩⟩, ⟨⟨-5, -5⟩, ⟨-1, -1⟩⟩]
  have hlines : ∀ s ∈ lines, s.start ≠ s.finish := by
    norm_num [lines, Point.ext_iff]
  have hcount : (PixelBox.ofPage (50 : Rat) 50 10 10 (1 / 2) 10).toOption.bind (fun box =>
      (drawBars box (some (Bounds.page 10 10)) "black" (.whole 1) lines).toOption.map (·.count))
      = some 2 := by
    decide +kernel
  obtain ⟨box, drawn, visible, hbox, hdrawn, helements, -, -, hends, -⟩ :=
    drawBars_page hlines (show (0 : Rat) < 10 by norm_num) (show (0 : Rat) < 10 by norm_num)
      (show (0 : Rat) < 1 / 2 by norm_num) 50 50 10 "black" (.whole 1)
  rw [hbox] at hcount
  change (drawBars box _ _ _ _).toOption.map (·.count) = some 2 at hcount
  rw [hdrawn] at hcount
  injection hcount with hcount
  exact ⟨lines, rfl, hlines, box, drawn, visible, hbox, hdrawn, hcount, helements, hends⟩

end

end MapSheets
