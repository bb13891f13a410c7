import MapSheets.Proofs.Drawing.LabelledEnds

/-
Short labels. Most labels of a side show two digits only, and a reader takes the
digits before them from the last label that shows its leading digits. They are
those of the bar that is read (`last_leading_own`): from bar to bar the leading
digits change only where the two digits are back at zero
(`Spacing.leading_of_steps`), and the label of such a bar shows its leading
digits. A label in between may be missing, but not one between two that are there,
since the ends of the bars stand along a side in the order of their indexes
(`endsOn_of_between`).
-/

namespace MapSheets

namespace Trellis

variable {t : Trellis Rat} {box : PixelBox Rat} {side : FrameSide} {bar shower : Bar Rat}
  {l : PlacedLabel Rat}

-- ==================================================== bars without a gap

/-- Along every side the ends of the bars follow each other at an even pace. -/
theorem exists_pace (t : Trellis Rat) (side : FrameSide) :
    ∃ a b : Rat, ∀ i : Int, side.along (side.endOf (t.barAt i side).line) = a + i * b := by
  have hpace : ∀ (e : Edge Rat) (f : Family Rat) (page : Rat), ∃ a b : Rat, ∀ i : Int,
      e.distanceTo (Scalar.ofInt (f.valueAt i)) * page / e.length = a + i * b := by
    intro e f page
    refine ⟨(f.first - e.start) * e.scale * page / e.length,
      f.spacing.size * e.scale * page / e.length, fun i => ?_⟩
    show ((f.first + i * f.spacing.size : Int) - e.start) * e.scale * page / e.length = _
    push_cast
    ring
  cases side with
  | bottom => exact hpace t.easting.start t.easting t.pageWidth
  | top => exact hpace t.easting.finish t.easting t.pageWidth
  | left => exact hpace t.northing.start t.northing t.pageHeight
  | right => exact hpace t.northing.finish t.northing t.pageHeight

/-- A bar between two that end on a side ends on it too. -/
theorem endsOn_of_between {i j k : Int} (hij : i ≤ j) (hjk : j ≤ k)
    (hi : t.endsOn side (t.barAt i side) = true) (hk : t.endsOn side (t.barAt k side) = true) :
    t.endsOn side (t.barAt j side) = true := by
  obtain ⟨a, b, hpace⟩ := t.exists_pace side
  rw [endsOn_eq_true, hpace] at hi hk ⊢
  have hij : (i : Rat) ≤ j := by exact_mod_cast hij
  have hjk : (j : Rat) ≤ k := by exact_mod_cast hjk
  rcases le_total 0 b with hb | hb
  · have hlow := mul_le_mul_of_nonneg_right hij hb
    have hhigh := mul_le_mul_of_nonneg_right hjk hb
    exact ⟨by linarith, by linarith⟩
  · have hlow := mul_le_mul_of_nonpos_right hjk hb
    have hhigh := mul_le_mul_of_nonpos_right hij hb
    exact ⟨by linarith, by linarith⟩

-- ==================================================== the leading digits

/-- A bar has a label at a side that shows its leading digits. -/
def ShowsLeading (t : Trellis Rat) (box : PixelBox Rat) (side : FrameSide) (bar : Bar Rat) : Prop :=
  ∃ l, t.outerLabel box bar side = .ok (some l) ∧ .leading ∈ l.shown

/-- Of the labels of a side up to a bar, the last one that shows its leading
digits. -/
structure LastLeading (t : Trellis Rat) (box : PixelBox Rat) (side : FrameSide) (bar shower : Bar Rat)
    (l : PlacedLabel Rat) : Prop where
  mem : shower ∈ t.barsAt side
  label : t.outerLabel box shower side = .ok (some l)
  leading : .leading ∈ l.shown
  before : shower.index ≤ bar.index
  last : ∀ other ∈ t.barsAt side, t.ShowsLeading box side other → other.index ≤ bar.index →
    other.index ≤ shower.index

/-- What holds at some index up to a bound holds at a last one. -/
theorem exists_last {P : Nat → Prop} {i k : Nat} (hik : i ≤ k) (hi : P i) :
    ∃ last ≤ k, P last ∧ ∀ j ≤ k, P j → j ≤ last := by
  classical
  exact ⟨Nat.findGreatest P k, Nat.findGreatest_le k, Nat.findGreatest_spec hik hi,
    fun _ hj => Nat.le_findGreatest hj⟩

/-- Where leading digits are shown up to a bar, they are shown a last time. -/
theorem exists_lastLeading (hbar : bar ∈ t.barsAt side) (hshower : shower ∈ t.barsAt side)
    (hshows : t.ShowsLeading box side shower) (hbefore : shower.index ≤ bar.index) :
    ∃ shower l, LastLeading t box side bar shower l := by
  obtain ⟨i, -, rfl⟩ := mem_barsAt.mp hshower
  obtain ⟨k, hk, rfl⟩ := mem_barsAt.mp hbar
  rw [barAt_index, barAt_index, Int.ofNat_le] at hbefore
  obtain ⟨last, hlast, ⟨l, hlabel, hleading⟩, hgreatest⟩ :=
    exists_last (P := fun j : Nat => t.ShowsLeading box side (t.barAt j side)) hbefore hshows
  refine ⟨t.barAt last side, l, ?_⟩
  constructor
  case mem => exact mem_barsAt.mpr ⟨last, by omega, rfl⟩
  case label => exact hlabel
  case leading => exact hleading
  case before =>
    rw [barAt_index, barAt_index, Int.ofNat_le]
    exact hlast
  case last =>
    intro other hother hothers hup
    obtain ⟨j, -, rfl⟩ := mem_barsAt.mp hother
    rw [barAt_index, barAt_index, Int.ofNat_le] at hup ⊢
    exact hgreatest j hup hothers

/-- The value of a bar is that of an earlier one and a step for every bar between. -/
theorem barAt_value_add (hspacing : (t.familyAt side).spacing = t.spacing) (i m : Int) :
    (t.barAt (i + m) side).value = (t.barAt i side).value + m * t.spacing.size := by
  rw [barAt_value, barAt_value, ← hspacing]
  unfold Family.valueAt
  ring

/-- A bar whose label is zero shows its leading digits wherever it has a label. -/
theorem showsLeading_of_zero (box : PixelBox Rat) (hsize : t.spacing.size ≠ 0)
    (hends : t.endsOn side bar = true) {p : SplitCoord} (hp : t.spacing.split bar.value = .ok p)
    (hzero : p.label = 0) : t.ShowsLeading box side bar := by
  obtain ⟨l, hlabel⟩ := exists_outerLabel box hsize hends
  obtain ⟨parts, hparts, hshown⟩ := exists_shown hsize hlabel
  obtain rfl : parts = p := Except.ok.inj (hparts.symm.trans hp)
  refine ⟨l, hlabel, ?_⟩
  rw [hshown, hzero]
  split <;> decide

/-- The leading digits shown last up to a bar with a label are those of the bar. -/
theorem LastLeading.leading_eq (h : LastLeading t box side bar shower l)
    (hspacing : (t.familyAt side).spacing = t.spacing) (hsize : 0 < t.spacing.size)
    (hbar : bar ∈ t.barsAt side) (hends : t.endsOn side bar = true) {p q : SplitCoord}
    (hp : t.spacing.split shower.value = .ok p) (hq : t.spacing.split bar.value = .ok q) :
    q.leading = p.leading := by
  obtain ⟨hstart, -⟩ := outerLabel_eq_some_iff.mp h.label
  have hbefore := h.before
  have hlast := h.last
  obtain ⟨i, -, rfl⟩ := mem_barsAt.mp h.mem
  obtain ⟨k, hk, rfl⟩ := mem_barsAt.mp hbar
  rw [barAt_index, barAt_index] at hbefore
  obtain ⟨n, rfl⟩ : ∃ n, k = i + n := ⟨k - i, by omega⟩
  rw [Nat.cast_add, barAt_value_add hspacing] at hq
  refine Spacing.leading_of_steps hsize hp hq fun m hpos hm r hr hzero => ?_
  -- a bar on the way ends on the side too, so its label would show leading digits later
  rw [← barAt_value_add hspacing, ← Nat.cast_add] at hr
  have hmem : t.barAt (i + m : Nat) side ∈ t.barsAt side := mem_barsAt.mpr ⟨i + m, by omega, rfl⟩
  have hon : t.endsOn side (t.barAt (i + m : Nat) side) = true :=
    endsOn_of_between (by omega) (by omega) hstart hends
  have hshows := showsLeading_of_zero box hsize.ne' hon hr hzero
  have hlater := hlast _ hmem hshows (by rw [barAt_index, barAt_index]; omega)
  rw [barAt_index, barAt_index] at hlater
  omega

/-- The digits that a label in a margin shows as leading are those of its bar. -/
theorem exists_leadingText [DecimalLogarithm] (hsize : 0 < t.spacing.size)
    (hlabel : t.outerLabel box bar side = .ok (some l)) {p : SplitCoord}
    (hp : t.spacing.split bar.value = .ok p) :
    ∃ texts, l.label.texts l.shown = .ok texts
      ∧ ∀ text, (.leading, text) ∈ texts ↔ .leading ∈ l.shown ∧ text = toString p.leading := by
  obtain ⟨-, shown, -, rfl⟩ := outerLabel_eq_some_iff.mp hlabel
  rw [← coordLabel_spacing t bar side] at hsize
  rw [← coordLabel_parts t bar side] at hp
  exact CoordLabel.exists_texts hsize hp shown

/-- No short label misleads. The labels in the margins are those of the bars at
their ends on the sides, bar by bar. Where a label of a side or one before it on
that side shows leading digits, some label is the last that does, and what it shows
are the leading digits of the bar. -/
theorem last_leading_own [DecimalLogarithm] [NumberText Rat] [Elementary Rat] [Survey Rat]
    {ellipsoid : Ellipsoid Rat} {spacing : Spacing} {zone : Option Int}
    {topLeft bottomRight : Point Rat} (hsize : 1 ≤ spacing.size)
    (h : ofFrame ellipsoid spacing zone topLeft bottomRight = .ok t) (box : PixelBox Rat) :
    (∀ rows cols labels, t.labels box rows cols = .ok labels → ∀ l, l ∈ labels.outer ↔
        ∃ side, ∃ bar ∈ t.barsAt side, t.outerLabel box bar side = .ok (some l))
      ∧ ∀ side, ∀ bar ∈ t.barsAt side, ∀ l, t.outerLabel box bar side = .ok (some l) →
        ((∃ other ∈ t.barsAt side, t.ShowsLeading box side other ∧ other.index ≤ bar.index) →
            ∃ shower l', LastLeading t box side bar shower l')
          ∧ ∀ shower l', LastLeading t box side bar shower l' →
            ∃ parts texts, spacing.split bar.value = .ok parts
              ∧ l'.label.texts l'.shown = .ok texts
              ∧ ∀ text, (.leading, text) ∈ texts ↔ text = toString parts.leading := by
  obtain ⟨_, _, h⟩ := exists_corners_of_ofFrame h
  obtain ⟨-, hfamilies, -, rfl⟩ := ofCorners_families h
  refine ⟨fun _ _ _ hlabels _ => mem_outer hlabels, fun side bar hbar l hlabel => ⟨?_, ?_⟩⟩
  · rintro ⟨other, hother, hshows, hbefore⟩
    exact exists_lastLeading hbar hother hshows hbefore
  · intro shower l' hlast
    obtain ⟨hends, -⟩ := outerLabel_eq_some_iff.mp hlabel
    have hspacing : (t.familyAt side).spacing = t.spacing := by
      rw [hfamilies side]
      rfl
    have hpos : 0 < t.spacing.size := hsize
    have hp := Spacing.split_of_ne_zero hpos.ne' shower.value
    have hq := Spacing.split_of_ne_zero hpos.ne' bar.value
    obtain ⟨texts, htexts, hleading⟩ := exists_leadingText hpos hlast.label hp
    refine ⟨_, texts, hq, htexts, fun text => ?_⟩
    rw [hleading, and_iff_right hlast.leading, hlast.leading_eq hspacing hpos hbar hends hp hq]

open scoped Coarse in
/-- A frame over the middle of a zone, where the leading digits of the eastings
change: the label of the last bar shows two digits, and the leading ones are not
those of the first bar. -/
theorem last_leading_own_over_middle :
    ∃ t box bar l, ofFrame (α := Rat) .standard .thousand none ⟨-11703 / 100, 401 / 10⟩
        ⟨-11697 / 100, 40⟩ = .ok t
      ∧ PixelBox.ofPage 100 100 t.pageWidth t.pageHeight 10 10 = .ok box
      ∧ (t.eastingBar 0).value = 498000 ∧ bar ∈ t.eastingBars ∧ bar.value = 502000
      ∧ t.outerLabel box bar .bottom = .ok (some l) ∧ l.shown = [.label]
      ∧ ∃ shower l' texts, LastLeading t box .bottom bar shower l'
        ∧ l'.label.texts l'.shown = .ok texts ∧ (.leading, "5") ∈ texts := by
  have hvalues : (do
      let t ← ofFrame .standard .thousand none ⟨-11703 / 100, 401 / 10⟩ ⟨-11697 / 100, 40⟩
      let _ ← PixelBox.ofPage 100 100 t.pageWidth t.pageHeight 10 10
      return t : Outcome (Trellis Rat)).toOption.map (fun t =>
        (t.easting.steps, t.easting.valueAt 0, t.easting.valueAt 2, t.easting.valueAt 4,
          t.endsOn .bottom (t.eastingBar 2), t.endsOn .bottom (t.eastingBar 4)))
        = some (5, 498000, 500000, 502000, true, true) := by
    decide +kernel
  obtain ⟨_, hdrawn, hvalues⟩ := Outcome.ok_of_toOption hvalues
  obtain ⟨t, ht, hdrawn⟩ := Outcome.bind_eq_ok.mp hdrawn
  obtain ⟨box, hbox, hdrawn⟩ := Outcome.bind_eq_ok.mp hdrawn
  injection hdrawn with hdrawn
  subst hdrawn
  simp only [Prod.mk.injEq] at hvalues
  obtain ⟨hsteps, hfirst, hmiddle, hvalue, hends, hends'⟩ := hvalues
  obtain ⟨-, hspacing⟩ := laid_of_ofFrame Coarse.hypotenuse_pos ht
  have hsize : t.spacing.size ≠ 0 := by
    rw [hspacing]
    decide
  have hmiddle : (t.eastingBar 2).value = 500000 := hmiddle
  have hvalue : (t.eastingBar 4).value = 502000 := hvalue
  have hother : t.eastingBar 2 ∈ t.barsAt .bottom := mem_barsAt.mpr ⟨2, hsteps ▸ by decide, rfl⟩
  have hbar : t.eastingBar 4 ∈ t.barsAt .bottom := mem_barsAt.mpr ⟨4, hsteps ▸ by decide, rfl⟩
  -- the label of the bar in the middle of the zone is 00
  have hshows : t.ShowsLeading box .bottom (t.eastingBar 2) := by
    refine showsLeading_of_zero box hsize hends ?_ (p := ⟨5, 0, 0⟩) rfl
    rw [hspacing, hmiddle]
    rfl
  have hparts : t.spacing.split (t.eastingBar 4).value = .ok ⟨5, 2, 0⟩ := by
    rw [hspacing, hvalue]
    rfl
  obtain ⟨l, hlabel⟩ := exists_outerLabel box hsize hends'
  obtain ⟨parts, hparts', hshown⟩ := exists_shown hsize hlabel
  obtain rfl : parts = ⟨5, 2, 0⟩ := Except.ok.inj (hparts'.symm.trans hparts)
  obtain ⟨-, hshort⟩ := last_leading_own (show 1 ≤ Spacing.thousand.size by decide) ht box
  obtain ⟨hexists, hown⟩ := hshort .bottom _ hbar l hlabel
  obtain ⟨shower, l', hlast⟩ := hexists ⟨_, hother, hshows, show (2 : Int) ≤ 4 by decide⟩
  obtain ⟨parts, texts, hparts', htexts, hleading⟩ := hown shower l' hlast
  rw [← hspacing, hparts] at hparts'
  cases hparts'
  exact ⟨t, box, _, l, ht, Outcome.lift_eq_ok.mp hbox, hfirst, hbar, hvalue, hlabel, hshown, shower,
    l', texts, hlast, htexts, (hleading "5").mpr (by decide)⟩

end Trellis

end MapSheets
