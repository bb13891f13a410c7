import MapSheets.Proofs.Drawing.LabelledEnds

/-
The first label of a side. A label is shown in full at the bar of index 0 of its
family. The family serves two sides and begins after the lower start of their
two edges, so the bar of index 0 may end before the other side begins; the first
label of that side is then one of a later bar, and is not full. The bars that
come too early for a side are those with a value between the starts of the two
edges (`Laid.not_between_of_index_zero`, `Laid.exists_between_of_index_ne_zero`),
so whether a side begins with a full label can be told from the two edges alone
(`first_label_full_iff`).
-/

namespace MapSheets

namespace Trellis

variable {t : Trellis Rat} {box : PixelBox Rat} {side : FrameSide} {bar : Bar Rat}
  {l : PlacedLabel Rat}

/-- A label is the first of a side: its bar has the lowest index of the bars with
a label there. -/
structure FirstLabel (t : Trellis Rat) (box : PixelBox Rat) (side : FrameSide) (bar : Bar Rat)
    (l : PlacedLabel Rat) : Prop where
  mem : bar ∈ t.barsAt side
  label : t.outerLabel box bar side = .ok (some l)
  lowest : ∀ other ∈ t.barsAt side, ∀ l', t.outerLabel box other side = .ok (some l') →
    bar.index ≤ other.index

/-- The first bar that ends on a side has its first label. -/
theorem exists_firstLabel (box : PixelBox Rat) (hsize : t.spacing.size ≠ 0) {i : Nat}
    (hi : (i : Int) < (t.familyAt side).steps) (hends : t.endsOn side (t.barAt i side) = true)
    (hbefore : ∀ j : Nat, j < i → t.endsOn side (t.barAt j side) = false) :
    ∃ l, FirstLabel t box side (t.barAt i side) l := by
  obtain ⟨l, hlabel⟩ := exists_outerLabel box hsize hends
  refine ⟨l, mem_barsAt.mpr ⟨i, hi, rfl⟩, hlabel, fun other hother l' hl' => ?_⟩
  obtain ⟨j, -, rfl⟩ := mem_barsAt.mp hother
  obtain ⟨hends', -⟩ := outerLabel_eq_some_iff.mp hl'
  rw [barAt_index, barAt_index]
  by_contra hless
  rw [hbefore j (by omega)] at hends'
  cases hends'

/-- A side that some bar ends on has a first label. -/
theorem exists_firstLabel_of_endsOn (box : PixelBox Rat) (hsize : t.spacing.size ≠ 0)
    (hbar : bar ∈ t.barsAt side) (hends : t.endsOn side bar = true) :
    ∃ i l, FirstLabel t box side (t.barAt i side) l := by
  obtain ⟨i, hi, rfl⟩ := mem_barsAt.mp hbar
  have hsome : ∃ n : Nat, t.endsOn side (t.barAt n side) = true := ⟨i, hends⟩
  have hleast : Nat.find hsome ≤ i := Nat.find_min' hsome hends
  exact ⟨Nat.find hsome, exists_firstLabel box hsize (by omega) (Nat.find_spec hsome)
    fun _ hj => Bool.eq_false_iff.mpr (Nat.find_min hsome hj)⟩

namespace Laid

/-- Before the bar of index 0 no value stands between the start of the other edge
and the start of a side that the bar ends on. -/
theorem not_between_of_index_zero (h : t.Laid) (hbar : bar ∈ t.barsAt side)
    (hends : t.endsOn side bar = true) (hzero : bar.index = 0) :
    ¬∃ v : Int, t.spacing.size ∣ v ∧ (t.edgeAt side.opposite).start < v
      ∧ (v : Rat) < (t.edgeAt side).start := by
  rintro ⟨v, hv, hlow, hhigh⟩
  have hsize := h.size_pos hbar
  have hstart := ((h.endsOn_iff hbar).mp hends).1
  -- such a value is that of a bar, and no bar stands before that of index 0
  have hmem : v ∈ (t.familyAt side).values := (h.mem_values_iff hsize side v).mpr
    ⟨hv, min_lt_of_right_lt hlow, lt_max_of_lt_left (hhigh.trans (h.forward side))⟩
  rw [← barsAt_value] at hmem
  obtain ⟨other, hother, rfl⟩ := List.mem_map.mp hmem
  obtain ⟨i, -, rfl⟩ := mem_barsAt.mp hbar
  obtain ⟨j, -, rfl⟩ := mem_barsAt.mp hother
  rw [barAt_index] at hzero
  have hbefore : (t.barAt j side).value < (t.barAt i side).value := by
    exact_mod_cast hhigh.trans_le hstart
  rw [h.barAt_value_eq, h.barAt_value_eq, hzero, zero_mul] at hbefore
  have := mul_nonneg (Int.natCast_nonneg j) hsize.le
  omega

/-- If the first label of a side is that of a later bar, the bar before it stands
between the start of the other edge and the start of the side. -/
theorem exists_between_of_index_ne_zero (h : t.Laid) (hfirst : FirstLabel t box side bar l)
    (hlater : bar.index ≠ 0) :
    ∃ v : Int, t.spacing.size ∣ v ∧ (t.edgeAt side.opposite).start < v
      ∧ (v : Rat) < (t.edgeAt side).start := by
  obtain ⟨hends, -⟩ := outerLabel_eq_some_iff.mp hfirst.label
  have hfinish := ((h.endsOn_iff hfirst.mem).mp hends).2
  have hsize := h.size_pos hfirst.mem
  obtain ⟨i, hi, rfl⟩ := mem_barsAt.mp hfirst.mem
  rw [barAt_index] at hlater
  obtain ⟨j, rfl⟩ : ∃ j : Nat, i = j + 1 := ⟨i - 1, by omega⟩
  have hbefore : t.barAt j side ∈ t.barsAt side := mem_barsAt.mpr ⟨j, by omega, rfl⟩
  have hvalue := h.value_lt hsize (show (j : Int) < (j + 1 : Nat) by omega) side
  -- it has no label, so it ends before the side begins
  have hout : ¬t.endsOn side (t.barAt j side) = true := by
    intro hends
    obtain ⟨l', hl'⟩ := exists_outerLabel box h.size_ne hends
    have hlowest := hfirst.lowest _ hbefore l' hl'
    rw [barAt_index, barAt_index] at hlowest
    omega
  have hhigh : ((t.barAt j side).value : Rat) < (t.edgeAt side).start := by
    by_contra hnot
    exact hout ((h.endsOn_iff hbefore).mpr ⟨not_lt.mp hnot, hvalue.le.trans hfinish⟩)
  have hlow : (t.edgeAt side.opposite).start < (t.barAt j side).value :=
    (min_lt_iff.mp (h.value_between hbefore).1).resolve_left hhigh.not_gt
  exact ⟨_, h.value_dvd hbefore, hlow, hhigh⟩

end Laid

/-- What the first label of a side shows: everything, if and only if no value of
the spacing stands between the start of the opposite edge and that of its own
edge; so the side whose edge starts first always begins with a full label. Else
it shows the two digits, with the leading ones if they end in a zero. Every side
that has labels has a first one. -/
theorem first_label_full_iff [NumberText Rat] [Elementary Rat] [Survey Rat]
    (hlength : ∀ x y : Rat, 0 < x → 0 < Elementary.hypotenuse x y)
    {ellipsoid : Ellipsoid Rat} {spacing : Spacing} {zone : Option Int}
    {topLeft bottomRight : Point Rat}
    (h : ofFrame ellipsoid spacing zone topLeft bottomRight = .ok t) (box : PixelBox Rat)
    (side : FrameSide) :
    ((∃ bar ∈ t.barsAt side, ∃ l, t.outerLabel box bar side = .ok (some l)) →
        ∃ bar l, FirstLabel t box side bar l)
      ∧ ∀ bar l, FirstLabel t box side bar l →
        (l.shown = LabelPiece.all
            ↔ ¬∃ v : Int, spacing.size ∣ v ∧ (t.edgeAt side.opposite).start < v
              ∧ (v : Rat) < (t.edgeAt side).start)
          ∧ (l.shown ≠ LabelPiece.all → ∃ parts, spacing.split bar.value = .ok parts
              ∧ l.shown = if parts.label % 10 = 0 then [.leading, .label] else [.label]) := by
  obtain ⟨hlaid, rfl⟩ := laid_of_ofFrame hlength h
  refine ⟨?_, fun bar l hfirst => ?_⟩
  · rintro ⟨bar, hbar, l, hlabel⟩
    obtain ⟨hends, -⟩ := outerLabel_eq_some_iff.mp hlabel
    obtain ⟨i, l', hfirst⟩ := exists_firstLabel_of_endsOn box hlaid.size_ne hbar hends
    exact ⟨_, l', hfirst⟩
  obtain ⟨hends, -⟩ := outerLabel_eq_some_iff.mp hfirst.label
  obtain ⟨parts, hparts, hpieces⟩ := exists_shown hlaid.size_ne hfirst.label
  have hfull : l.shown = LabelPiece.all ↔ bar.index = 0 := by
    rw [hpieces]
    split
    case isTrue hzero => exact iff_of_true rfl hzero
    case isFalse hlater =>
      refine iff_of_false ?_ hlater
      split <;> decide
  refine ⟨?_, fun hpart => ⟨parts, hparts, ?_⟩⟩
  · rw [hfull]
    constructor
    · exact hlaid.not_between_of_index_zero hfirst.mem hends
    · intro hnone
      by_contra hlater
      exact hnone (hlaid.exists_between_of_index_ne_zero hfirst hlater)
  · rw [hpieces, if_neg (mt hfull.mpr hpart)]

open scoped Coarse in
/-- The lower side of the leaning frame begins with a full label: its edge starts
before that of the upper side. -/
theorem first_label_full_leaning :
    ∃ t box bar l, Coarse.leaning = .ok t
      ∧ PixelBox.ofPage 100 100 t.pageWidth t.pageHeight 10 10 = .ok box
      ∧ FirstLabel t box .bottom bar l ∧ l.shown = LabelPiece.all := by
  obtain ⟨t, box, -, ht, hbox, -, hsteps, -, hedges, hbottom, -⟩ := Coarse.exists_leaning
  obtain ⟨hlaid, -⟩ := laid_of_ofFrame Coarse.hypotenuse_pos ht
  have hindex : ((0 : Nat) : Int) < (t.familyAt .bottom).steps := by
    show (0 : Int) < t.easting.steps
    omega
  obtain ⟨l, hfirst⟩ := exists_firstLabel box hlaid.size_ne hindex hbottom
    (fun j hj => absurd hj (Nat.not_lt_zero j))
  obtain ⟨-, hfirsts⟩ := first_label_full_iff Coarse.hypotenuse_pos ht box .bottom
  obtain ⟨hfull, -⟩ := hfirsts _ l hfirst
  refine ⟨t, box, _, l, ht, hbox, hfirst, hfull.mpr ?_⟩
  rintro ⟨v, -, hlow, hhigh⟩
  exact absurd (hlow.trans hhigh) (not_lt.mpr hedges)

open scoped Coarse in
/-- The upper side of the leaning frame begins with the label of the second bar,
which shows its two digits only. -/
theorem first_label_short_leaning :
    ∃ t box bar l, Coarse.leaning = .ok t
      ∧ PixelBox.ofPage 100 100 t.pageWidth t.pageHeight 10 10 = .ok box
      ∧ FirstLabel t box .top bar l ∧ l.shown = [.label] := by
  obtain ⟨t, box, -, ht, hbox, -, hsteps, hvalue, -, -, htop₀, htop₁⟩ := Coarse.exists_leaning
  obtain ⟨hlaid, hspacing⟩ := laid_of_ofFrame Coarse.hypotenuse_pos ht
  have hindex : ((1 : Nat) : Int) < (t.familyAt .top).steps := by
    show (1 : Int) < t.easting.steps
    omega
  obtain ⟨l, hfirst⟩ := exists_firstLabel box hlaid.size_ne hindex htop₁ (fun j hj => by
    obtain rfl : j = 0 := by omega
    exact htop₀)
  obtain ⟨parts, hparts, hshown⟩ := exists_shown hlaid.size_ne hfirst.label
  have hvalue : (t.eastingBar 1).value = 416000 := hvalue
  have hparts : Spacing.thousand.split (t.eastingBar 1).value = .ok parts := hspacing ▸ hparts
  rw [hvalue] at hparts
  cases hparts
  exact ⟨t, box, _, l, ht, hbox, hfirst, hshown⟩

end Trellis

end MapSheets
