import MapSheets.Proofs.Drawing.LabelledEnds
import MapSheets.Proofs.Trellis.Crossing
import Mathlib.Tactic.NormNum

/-
Labels inside the frame. Each of them stands on a bar halfway between its crossings
with two others: on an easting bar between a northing bar that is asked for and the
one before it, on a northing bar between two easting bars (`exists_of_mem_inner`).
The point halfway between two points of a line is the point at the mean of their
parameters (`between_pointAt`), so it lies on the line of the bar between the two
crossing bars. Bars that end on the page cross on the page, unless they are one
diagonal of it, and then the label stands on the bar itself (`crossing_on_page`).
-/

namespace MapSheets

namespace Segment

variable {s : Segment Rat} {p q : Point Rat}

/-- Halfway between two points of a line is the point at the mean of their
parameters. -/
theorem between_pointAt (s : Segment Rat) (u v : Rat) :
    (s.pointAt u).between (s.pointAt v) = s.pointAt ((u + v) / 2) := by
  have htwo : (Scalar.ofInt 2 : Rat) = 2 := by norm_num
  ext
  · show (_ + _) / (Scalar.ofInt 2 : Rat) = _
    rw [htwo]
    unfold pointAt
    ring
  · show (_ + _) / (Scalar.ofInt 2 : Rat) = _
    rw [htwo]
    unfold pointAt
    ring

theorem between_mem_line (hp : p ∈ s.line) (hq : q ∈ s.line) : p.between q ∈ s.line := by
  obtain ⟨u, rfl⟩ := hp
  obtain ⟨v, rfl⟩ := hq
  rw [between_pointAt]
  exact ⟨_, rfl⟩

theorem between_mem_points (hp : p ∈ s.points) (hq : q ∈ s.points) : p.between q ∈ s.points := by
  obtain ⟨u, ⟨hu₀, hu₁⟩, rfl⟩ := hp
  obtain ⟨v, ⟨hv₀, hv₁⟩, rfl⟩ := hq
  rw [between_pointAt]
  exact ⟨_, ⟨by linarith, by linarith⟩, rfl⟩

end Segment

/-- A point stands on a bar halfway between the points `p` and `q` at which it
crosses two others. Where all three bars end on the page, they cross between their
ends, and the point belongs to the bar and to the page. -/
structure Halfway (page : Bounds Rat) (bar before after : Segment Rat) (p q m : Point Rat) :
    Prop where
  before_mem : p ∈ bar.line ∩ before.line
  after_mem : q ∈ bar.line ∩ after.line
  mem_line : m ∈ bar.line
  mem_between : m ∈ (Segment.mk p q).points
  eq_between : m = p.between q
  of_within : bar.Within page → before.Within page → after.Within page →
    p ∈ bar.points ∩ before.points ∧ q ∈ bar.points ∩ after.points
      ∧ m ∈ bar.points ∩ page.region

/-- Between two crossings a label stands on the bar, if bars that end on the page
cross between their ends. -/
theorem Halfway.of_crossings {page : Bounds Rat} {bar before after : Segment Rat}
    {p q : Point Rat} (hp : p ∈ bar.line ∩ before.line) (hq : q ∈ bar.line ∩ after.line)
    (hbefore : bar.Within page → before.Within page → p ∈ bar.points ∩ before.points)
    (hafter : bar.Within page → after.Within page → q ∈ bar.points ∩ after.points) :
    Halfway page bar before after p q (p.between q) := by
  constructor
  case before_mem => exact hp
  case after_mem => exact hq
  case mem_line => exact Segment.between_mem_line hp.1 hq.1
  case mem_between =>
    exact Segment.between_mem_points (Segment.start_mem_points ⟨p, q⟩)
      (Segment.finish_mem_points ⟨p, q⟩)
  case eq_between => rfl
  case of_within =>
    intro hbar hb ha
    have hp := hbefore hbar hb
    have hq := hafter hbar ha
    have hm := Segment.between_mem_points hp.1 hq.1
    exact ⟨hp, hq, hm, Segment.points_subset_region hbar.1 hbar.2 hm⟩

namespace Trellis

variable {t : Trellis Rat} {box : PixelBox Rat} {bar : Bar Rat} {l : PlacedLabel Rat}

-- ========================================================= rows and columns

/-- A label along a row stands on its easting bar halfway between two northing bars. -/
theorem halfway_of_rowLabel (hwidth : 0 < t.pageWidth) (hheight : 0 < t.pageHeight)
    {row : Amount Rat} (h : t.rowLabel box bar row = .ok l) :
    ∃ p q m, l.position = ⟨(box.pixel m).x + box.colOffset, (box.pixel m).y⟩
      ∧ Halfway (.page t.pageWidth t.pageHeight) (t.eastingLineAt (.whole bar.index))
        (t.northingLineAt row.pred) (t.northingLineAt row) p q m := by
  obtain ⟨p, hp, h⟩ := Outcome.bind_eq_ok.mp h
  obtain ⟨q, hq, h⟩ := Outcome.bind_eq_ok.mp h
  cases h
  refine ⟨p, q, _, rfl, .of_crossings ?_ ?_ ?_ ?_⟩
  · exact Segment.mem_line_of_meet (t.crossing_eq _ _ ▸ hp)
  · exact Segment.mem_line_of_meet (t.crossing_eq _ _ ▸ hq)
  · exact fun hbar hb => mem_points_of_crossing hwidth hheight hbar hb hp
  · exact fun hbar ha => mem_points_of_crossing hwidth hheight hbar ha hq

/-- A label along a column stands on its northing bar halfway between two easting
bars. -/
theorem halfway_of_colLabel (hwidth : 0 < t.pageWidth) (hheight : 0 < t.pageHeight)
    {col : Amount Rat} (h : t.colLabel box bar col = .ok l) :
    ∃ p q m, l.position = ⟨(box.pixel m).x, (box.pixel m).y + box.rowOffset⟩
      ∧ Halfway (.page t.pageWidth t.pageHeight) (t.northingLineAt (.whole bar.index))
        (t.eastingLineAt col.pred) (t.eastingLineAt col) p q m := by
  obtain ⟨p, hp, h⟩ := Outcome.bind_eq_ok.mp h
  obtain ⟨q, hq, h⟩ := Outcome.bind_eq_ok.mp h
  cases h
  refine ⟨p, q, _, rfl, .of_crossings ?_ ?_ ?_ ?_⟩
  · exact (Segment.mem_line_of_meet (t.crossing_eq _ _ ▸ hp)).symm
  · exact (Segment.mem_line_of_meet (t.crossing_eq _ _ ▸ hq)).symm
  · exact fun hbar hb => (mem_points_of_crossing hwidth hheight hb hbar hp).symm
  · exact fun hbar ha => (mem_points_of_crossing hwidth hheight ha hbar hq).symm

-- ============================================================ inner labels

section
variable {α : Type} [Scalar α] {t : Trellis α} {box : PixelBox α} {l : PlacedLabel α}

/-- Labels are asked for along the bar of an index. -/
def AsksFor (indexes : LabelIndexes α) (index : Amount α) : Prop :=
  ∃ given, indexes = .ok given ∧ .ok index ∈ given

/-- Bar by bar the labels inside the frame are those of the indexes that are asked
for, whatever stands in the margins. -/
theorem exists_of_mem_flatMap_inner {sides : List FrameSide} {bars : List (Bar α)}
    {indexes : LabelIndexes α} {place : Bar α → Amount α → Outcome (PlacedLabel α)}
    {drawn : List (Labels α)}
    (h : bars.mapM (fun bar => do
      let outer ← (t.outerLabels box sides bar : Outcome (List (PlacedLabel α)))
      let inner ← (← indexes).mapM fun index => do place bar (← index)
      return Labels.mk outer inner) = .ok drawn) (hl : l ∈ drawn.flatMap (·.inner)) :
    ∃ bar ∈ bars, ∃ index, AsksFor indexes index ∧ place bar index = .ok l := by
  obtain ⟨labels, hlabels, hl⟩ := List.mem_flatMap.mp hl
  obtain ⟨bar, hbar, hdrawn⟩ := (Outcome.of_mapM_eq_ok h).2 labels hlabels
  obtain ⟨_, -, hdrawn⟩ := Outcome.bind_eq_ok.mp hdrawn
  obtain ⟨given, hgiven, hdrawn⟩ := Outcome.bind_eq_ok.mp hdrawn
  obtain ⟨inner, hinner, hdrawn⟩ := Outcome.bind_eq_ok.mp hdrawn
  cases hdrawn
  obtain ⟨_, hmem, hplace⟩ := (Outcome.of_mapM_eq_ok hinner).2 l hl
  obtain ⟨index, rfl, hplace⟩ := Outcome.bind_eq_ok.mp hplace
  exact ⟨bar, hbar, index, ⟨given, hgiven, hmem⟩, hplace⟩

/-- Every label inside the frame is that of a row on an easting bar or that of a
column on a northing bar. -/
theorem exists_of_mem_inner {rows cols : LabelIndexes α} {labels : Labels α}
    (h : t.labels box rows cols = .ok labels) (hl : l ∈ labels.inner) :
    (∃ bar ∈ t.eastingBars, ∃ row, AsksFor rows row ∧ t.rowLabel box bar row = .ok l)
      ∨ ∃ bar ∈ t.northingBars, ∃ col, AsksFor cols col ∧ t.colLabel box bar col = .ok l := by
  obtain ⟨eastings, heastings, h⟩ := Outcome.bind_eq_ok.mp h
  obtain ⟨northings, hnorthings, h⟩ := Outcome.bind_eq_ok.mp h
  cases h
  have hl : l ∈ (eastings ++ northings).flatMap (·.inner) := hl
  rw [List.flatMap_append, List.mem_append] at hl
  rcases hl with hl | hl
  · exact Or.inl (exists_of_mem_flatMap_inner heastings hl)
  · exact Or.inr (exists_of_mem_flatMap_inner hnorthings hl)

end

/-- A bar of the family of eastings lies where its index says. -/
theorem line_of_mem_eastingBars (hbar : bar ∈ t.eastingBars) :
    bar.line = t.eastingLineAt (.whole bar.index) := by
  obtain ⟨_, -, rfl⟩ := List.mem_map.mp hbar
  rfl

theorem line_of_mem_northingBars (hbar : bar ∈ t.northingBars) :
    bar.line = t.northingLineAt (.whole bar.index) := by
  obtain ⟨_, -, rfl⟩ := List.mem_map.mp hbar
  rfl

/-- An easting and a northing bar, of any indexes, cross in a point of the lines of
both. If all their ends are on the page, there is no such point only where both are
one diagonal of the page; elsewhere it is a point of the page and of both bars. So a
label inside the frame stands on its bar halfway between two bars that cross it. -/
theorem crossing_on_page (hwidth : 0 < t.pageWidth) (hheight : 0 < t.pageHeight) :
    (∀ i j : Amount Rat,
      (∀ p, t.crossing i j = .ok p →
          p ∈ (t.eastingLineAt i).line ∧ p ∈ (t.northingLineAt j).line)
        ∧ ((t.eastingLineAt i).Within (.page t.pageWidth t.pageHeight) →
          (t.northingLineAt j).Within (.page t.pageWidth t.pageHeight) →
          (t.crossing i j = .error .barsParallel
              ↔ Segment.OneDiagonal t.pageWidth t.pageHeight (t.eastingLineAt i)
                (t.northingLineAt j))
            ∧ (¬Segment.OneDiagonal t.pageWidth t.pageHeight (t.eastingLineAt i)
                (t.northingLineAt j) →
              ∃ p, t.crossing i j = .ok p ∧ p ∈ (Bounds.page t.pageWidth t.pageHeight).region
                ∧ p ∈ (t.eastingLineAt i).points ∧ p ∈ (t.northingLineAt j).points)))
      ∧ ∀ (box : PixelBox Rat) (rows cols : LabelIndexes Rat) (labels : Labels Rat),
        t.labels box rows cols = .ok labels → ∀ l ∈ labels.inner,
          (∃ bar ∈ t.eastingBars, ∃ row p q m, AsksFor rows row
            ∧ l.position = ⟨(box.pixel m).x + box.colOffset, (box.pixel m).y⟩
            ∧ Halfway (.page t.pageWidth t.pageHeight) bar.line (t.northingLineAt row.pred)
              (t.northingLineAt row) p q m)
          ∨ ∃ bar ∈ t.northingBars, ∃ col p q m, AsksFor cols col
            ∧ l.position = ⟨(box.pixel m).x, (box.pixel m).y + box.rowOffset⟩
            ∧ Halfway (.page t.pageWidth t.pageHeight) bar.line (t.eastingLineAt col.pred)
              (t.eastingLineAt col) p q m := by
  refine ⟨fun i j => ⟨fun p hp => Segment.mem_line_of_meet (t.crossing_eq i j ▸ hp),
    fun hi hj => ?_⟩, fun box rows cols labels h l hl => ?_⟩
  · have herror := crossing_eq_error_iff hwidth hheight hi hj
    refine ⟨herror, fun hdiagonal => ?_⟩
    obtain ⟨p, hp⟩ := exists_crossing (mt herror.mp hdiagonal)
    obtain ⟨heasting, hnorthing⟩ := mem_points_of_crossing hwidth hheight hi hj hp
    exact ⟨p, hp, Segment.points_subset_region hi.1 hi.2 heasting, heasting, hnorthing⟩
  · rcases exists_of_mem_inner h hl with ⟨bar, hbar, row, hrow, hl⟩ | ⟨bar, hbar, col, hcol, hl⟩
    · obtain ⟨p, q, m, hposition, hhalfway⟩ := halfway_of_rowLabel hwidth hheight hl
      rw [← line_of_mem_eastingBars hbar] at hhalfway
      exact Or.inl ⟨bar, hbar, row, p, q, m, hrow, hposition, hhalfway⟩
    · obtain ⟨p, q, m, hposition, hhalfway⟩ := halfway_of_colLabel hwidth hheight hl
      rw [← line_of_mem_northingBars hbar] at hhalfway
      exact Or.inr ⟨bar, hbar, col, p, q, m, hcol, hposition, hhalfway⟩

open scoped Coarse in
/-- In the leaning frame the second easting bar crosses the first northing bar on the
page, and a label along the second row stands halfway between the first two northing
bars. -/
theorem crossing_on_page_leaning :
    ∃ t box labels, Coarse.leaning = .ok t ∧ 0 < t.pageWidth ∧ 0 < t.pageHeight
      ∧ t.labels box (.ok [.ok (.whole 1)]) (.ok []) = .ok labels
      ∧ (∃ p, t.crossing (.whole 1) (.whole 0) = .ok p
        ∧ p ∈ (Bounds.page t.pageWidth t.pageHeight).region
        ∧ p ∈ (t.eastingBar 1).line.points ∧ p ∈ (t.northingBar 0).line.points)
      ∧ ∃ l ∈ labels.inner, ∃ bar ∈ t.eastingBars, ∃ p q m,
        l.position = ⟨(box.pixel m).x + box.colOffset, (box.pixel m).y⟩
        ∧ Halfway (.page t.pageWidth t.pageHeight) bar.line (t.northingBar 0).line
          (t.northingBar 1).line p q m := by
  have hvalues : (do
      let t ← Coarse.leaning
      let box ← PixelBox.ofPage 100 100 t.pageWidth t.pageHeight 10 10
      let labels ← t.labels box (.ok [.ok (.whole 1)]) (.ok [])
      return (t, labels) : Outcome (Trellis Rat × Labels Rat)).toOption.map (fun (t, labels) =>
        let page := Bounds.page t.pageWidth t.pageHeight
        let easting := (t.eastingBar 1).line
        let northing := (t.northingBar 0).line
        (labels.inner.length, decide (0 < t.pageWidth ∧ 0 < t.pageHeight),
          page.contains easting.start && page.contains easting.finish,
          page.contains northing.start && page.contains northing.finish,
          decide (0 < easting.start.x ∧ easting.start.x < t.pageWidth)))
      = some (3, true, true, true, true) := by
    decide +kernel
  obtain ⟨_, hdrawn, hvalues⟩ := Outcome.ok_of_toOption hvalues
  obtain ⟨t, ht, hdrawn⟩ := Outcome.bind_eq_ok.mp hdrawn
  obtain ⟨box, -, hdrawn⟩ := Outcome.bind_eq_ok.mp hdrawn
  obtain ⟨labels, hlabels, hdrawn⟩ := Outcome.bind_eq_ok.mp hdrawn
  cases hdrawn
  simp only [Prod.mk.injEq, Bool.and_eq_true, decide_eq_true_eq] at hvalues
  obtain ⟨hlength, ⟨hwidth, hheight⟩, heasting, hnorthing, hinside, hinside'⟩ := hvalues
  obtain ⟨hcross, hinner⟩ := crossing_on_page hwidth hheight
  -- the bar starts between the corners, so it is no diagonal
  have hdiagonal : ¬Segment.OneDiagonal t.pageWidth t.pageHeight (t.eastingLineAt (.whole 1))
      (t.northingLineAt (.whole 0)) := by
    rintro (⟨hbar, -⟩ | ⟨hbar, -⟩)
    · rw [eastingLineAt_whole] at hbar
      rw [hbar] at hinside
      exact lt_irrefl _ hinside
    · rw [eastingLineAt_whole] at hbar
      rw [hbar] at hinside'
      exact lt_irrefl _ hinside'
  obtain ⟨p, hp, hpage, hcolumn, hrow⟩ :=
    ((hcross (.whole 1) (.whole 0)).2 heasting hnorthing).2 hdiagonal
  obtain ⟨l, hl⟩ := List.exists_mem_of_length_pos (show 0 < labels.inner.length by omega)
  refine ⟨t, box, labels, ht, hwidth, hheight, hlabels, ⟨p, hp, hpage, hcolumn, hrow⟩, l, hl,
    ?_⟩
  rcases hinner box _ _ labels hlabels l hl with
    ⟨bar, hbar, row, p, q, m, ⟨_, hgiven, hrow⟩, hposition, hhalfway⟩
      | ⟨_, -, _, _, _, _, ⟨_, hgiven, hcol⟩, -⟩
  · cases hgiven
    cases List.mem_singleton.mp hrow
    exact ⟨bar, hbar, p, q, m, hposition, hhalfway⟩
  · cases hgiven
    exact absurd hcol List.not_mem_nil

end Trellis

end MapSheets
