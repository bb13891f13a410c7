import MapSheets.Plane.Clip
import MapSheets.Proofs.Number.Rational
import Mathlib.Algebra.Order.Field.Basic
import Mathlib.Order.Interval.Set.Basic
import Mathlib.Tactic.Linarith
import Mathlib.Tactic.Ring

/-
What is left of an exact segment in a box. A segment is the set of its
points, one for each parameter from zero to one; the parameters at which the
point lies between two parallel sides of a box are a span (`mem_spanOf_iff`),
so those at which it lies in the box are a window (`inside_cases`), and the
window is either a piece of the segment or at most one parameter.

`VisiblePart` says what a cut is: the points of the segment in the box, all of
them and no others, with every end that lay in the box kept as it was. Cutting
a segment that is no point to a box with an inside gives the visible part where
there is more than one point to see, and nothing where there is not
(`clip_cases`).
-/

namespace MapSheets

namespace Bounds

/-- The points of a box, those on its sides included. -/
def region (b : Bounds Rat) : Set (Point Rat) := {p | b.contains p = true}

theorem mem_region {b : Bounds Rat} {p : Point Rat} :
    p ∈ b.region ↔ (b.minX ≤ p.x ∧ p.x ≤ b.maxX) ∧ b.minY ≤ p.y ∧ p.y ≤ b.maxY := by
  unfold region contains
  simp only [Set.mem_ofPred_eq, Bool.and_eq_true, decide_eq_true_eq]
  tauto

/-- A box with an inside. -/
structure Proper (b : Bounds Rat) : Prop where
  width_pos : b.minX < b.maxX
  height_pos : b.minY < b.maxY

/-- The sides of a proper box are in order. -/
theorem Proper.ordered_eq {b : Bounds Rat} (hb : b.Proper) : b.ordered = b := by
  unfold ordered
  simp only [Scalar.least_rat, Scalar.greatest_rat, min_eq_left hb.width_pos.le,
    max_eq_right hb.width_pos.le, min_eq_left hb.height_pos.le, max_eq_right hb.height_pos.le]

end Bounds

namespace Segment

variable {s r : Segment Rat} {b : Bounds Rat}

-- ==================================================== points of a segment

/-- The point of a segment at a parameter. -/
def pointAt (s : Segment Rat) (t : Rat) : Point Rat :=
  ⟨s.start.x + t * (s.finish.x - s.start.x), s.start.y + t * (s.finish.y - s.start.y)⟩

/-- The points of a segment, its ends included. -/
def points (s : Segment Rat) : Set (Point Rat) := Set.image s.pointAt (Set.Icc 0 1)

@[simp] theorem pointAt_zero (s : Segment Rat) : s.pointAt 0 = s.start := by
  ext <;> simp [pointAt]

@[simp] theorem pointAt_one (s : Segment Rat) : s.pointAt 1 = s.finish := by
  ext <;> simp [pointAt]

theorem start_mem_points (s : Segment Rat) : s.start ∈ s.points :=
  ⟨0, ⟨le_rfl, zero_le_one⟩, s.pointAt_zero⟩

theorem finish_mem_points (s : Segment Rat) : s.finish ∈ s.points :=
  ⟨1, ⟨zero_le_one, le_rfl⟩, s.pointAt_one⟩

/-- A segment that is no point has another point at every parameter. -/
theorem pointAt_injective (hs : s.start ≠ s.finish) : Function.Injective s.pointAt := by
  intro t u htu
  have hx : s.start.x + t * (s.finish.x - s.start.x)
      = s.start.x + u * (s.finish.x - s.start.x) := congrArg Point.x htu
  have hy : s.start.y + t * (s.finish.y - s.start.y)
      = s.start.y + u * (s.finish.y - s.start.y) := congrArg Point.y htu
  by_contra hne
  have hdiff : t - u ≠ 0 := sub_ne_zero.mpr hne
  apply hs
  ext
  · have : (t - u) * (s.finish.x - s.start.x) = 0 := by linarith
    linarith [(mul_eq_zero.mp this).resolve_left hdiff]
  · have : (t - u) * (s.finish.y - s.start.y) = 0 := by linarith
    linarith [(mul_eq_zero.mp this).resolve_left hdiff]

/-- A segment with both ends in a box runs inside it. -/
theorem points_subset_region (hstart : s.start ∈ b.region) (hfinish : s.finish ∈ b.region) :
    s.points ⊆ b.region := by
  rintro _ ⟨t, ⟨ht₀, ht₁⟩, rfl⟩
  rw [Bounds.mem_region] at hstart hfinish ⊢
  -- a coordinate of the point is a mean of those of the ends
  have hmean : ∀ {a c low high : Rat}, low ≤ a → low ≤ c → a ≤ high → c ≤ high →
      low ≤ a + t * (c - a) ∧ a + t * (c - a) ≤ high := by
    intro a c low high h₁ h₂ h₃ h₄
    constructor <;> nlinarith
  exact ⟨hmean hstart.1.1 hfinish.1.1 hstart.1.2 hfinish.1.2,
    hmean hstart.2.1 hfinish.2.1 hstart.2.2 hfinish.2.2⟩

/-- The piece of a segment between two parameters. -/
def piece (s : Segment Rat) (enter leave : Rat) : Segment Rat := ⟨s.pointAt enter, s.pointAt leave⟩

/-- A piece is run through at the pace of its window. -/
theorem pointAt_piece (s : Segment Rat) (enter leave t : Rat) :
    (s.piece enter leave).pointAt t = s.pointAt (enter + t * (leave - enter)) := by
  unfold piece pointAt
  ext <;> dsimp only <;> ring

/-- The points of a piece are those of its window. -/
theorem points_piece {enter leave : Rat} (h : enter < leave) :
    (s.piece enter leave).points = Set.image s.pointAt (Set.Icc enter leave) := by
  have hspan : 0 < leave - enter := sub_pos.mpr h
  ext p
  constructor
  · rintro ⟨t, ⟨ht₀, ht₁⟩, rfl⟩
    have hlow : 0 ≤ t * (leave - enter) := mul_nonneg ht₀ hspan.le
    have hhigh : t * (leave - enter) ≤ 1 * (leave - enter) :=
      mul_le_mul_of_nonneg_right ht₁ hspan.le
    exact ⟨enter + t * (leave - enter), ⟨by linarith, by linarith⟩, (pointAt_piece s _ _ t).symm⟩
  · rintro ⟨t, ⟨hlow, hhigh⟩, rfl⟩
    refine ⟨(t - enter) / (leave - enter), ⟨div_nonneg (by linarith) hspan.le, ?_⟩, ?_⟩
    · rw [div_le_one hspan]
      linarith
    · rw [pointAt_piece, div_mul_cancel₀ _ hspan.ne', add_sub_cancel]

-- ================================================== spans and the window

/-- A coordinate lies between two limits at the parameters of its span. -/
theorem mem_spanOf_iff {start delta low high t : Rat} (horder : low ≤ high)
    (ht : t ∈ Set.Icc (0 : Rat) 1) :
    (low ≤ start + t * delta ∧ start + t * delta ≤ high)
      ↔ ∃ span, spanOf start delta low high = some span ∧ span.1 ≤ t ∧ t ≤ span.2 := by
  unfold spanOf
  simp only [Scalar.isZero_rat, Scalar.least_rat, Scalar.greatest_rat, decide_eq_true_eq]
  rcases lt_trichotomy delta 0 with hneg | rfl | hpos
  · -- the coordinate falls: it enters at the high limit
    have hmin : (high - start) / delta ≤ (low - start) / delta :=
      (div_le_div_right_of_neg hneg).mpr (by linarith)
    rw [if_neg hneg.ne, min_eq_right hmin, max_eq_left hmin]
    simp only [Option.some.injEq, exists_eq_left', div_le_iff_of_neg hneg, le_div_iff_of_neg hneg]
    constructor
    · intro h; constructor <;> linarith [h.1, h.2]
    · intro h; constructor <;> linarith [h.1, h.2]
  · -- the coordinate stands still: every parameter or none
    rw [if_pos rfl, mul_zero, add_zero]
    constructor
    · intro h
      rw [if_pos h]
      exact ⟨_, rfl, ht.1, ht.2⟩
    · rintro ⟨span, hspan, -⟩
      split at hspan
      case isTrue h => exact h
      case isFalse => cases hspan
  · have hmin : (low - start) / delta ≤ (high - start) / delta :=
      div_le_div_of_nonneg_right (by linarith) hpos.le
    rw [if_neg hpos.ne', min_eq_left hmin, max_eq_right hmin]
    simp only [Option.some.injEq, exists_eq_left', div_le_iff₀ hpos, le_div_iff₀ hpos]
    constructor
    · intro h; constructor <;> linarith [h.1, h.2]
    · intro h; constructor <;> linarith [h.1, h.2]

/-- A point of a segment lies in a box with ordered sides at the parameters of both
spans. -/
theorem pointAt_mem_region_iff (s : Segment Rat) (hx : b.minX ≤ b.maxX) (hy : b.minY ≤ b.maxY)
    {t : Rat} (ht : t ∈ Set.Icc (0 : Rat) 1) :
    s.pointAt t ∈ b.region
      ↔ (∃ span, spanOf s.start.x (s.finish.x - s.start.x) b.minX b.maxX = some span
          ∧ span.1 ≤ t ∧ t ≤ span.2)
        ∧ ∃ span, spanOf s.start.y (s.finish.y - s.start.y) b.minY b.maxY = some span
          ∧ span.1 ≤ t ∧ t ≤ span.2 := by
  rw [← mem_spanOf_iff hx ht, ← mem_spanOf_iff hy ht]
  exact Bounds.mem_region

theorem atParameter_eq_pointAt {t : Rat} (h₀ : 0 ≤ t) (h₁ : t ≤ 1) :
    s.atParameter t = s.pointAt t := by
  unfold atParameter
  split
  case isTrue h => rw [le_antisymm h h₀, pointAt_zero]
  case isFalse =>
    split
    case isTrue h => rw [le_antisymm h₁ h, pointAt_one]
    case isFalse => rfl

/-- The part inside a box of a segment with a span along both axes runs from
the last entry to the first exit. -/
theorem inside_of_spans {spanX spanY : Rat × Rat}
    (hX : spanOf s.start.x (s.finish.x - s.start.x) b.minX b.maxX = some spanX)
    (hY : spanOf s.start.y (s.finish.y - s.start.y) b.minY b.maxY = some spanY) :
    s.inside b =
      if max 0 (max spanX.1 spanY.1) < min 1 (min spanX.2 spanY.2) then
        some (s.piece (max 0 (max spanX.1 spanY.1)) (min 1 (min spanX.2 spanY.2)))
      else none := by
  have hinside : s.inside b =
      if max 0 (max spanX.1 spanY.1) < min 1 (min spanX.2 spanY.2) then
        some ⟨s.atParameter (max 0 (max spanX.1 spanY.1)),
          s.atParameter (min 1 (min spanX.2 spanY.2))⟩
      else none := by
    unfold inside
    rw [hX, hY]
    simp only [← Scalar.greatest_rat, ← Scalar.least_rat]
    rfl
  have henter : 0 ≤ max 0 (max spanX.1 spanY.1) := le_max_left _ _
  have hleave : min 1 (min spanX.2 spanY.2) ≤ 1 := min_le_left _ _
  rw [hinside]
  split
  case isTrue hopen =>
    rw [atParameter_eq_pointAt henter (hopen.le.trans hleave),
      atParameter_eq_pointAt (henter.trans hopen.le) hleave]
    rfl
  case isFalse => rfl

/-- The parameters at which a segment runs inside a box with ordered sides are
a window, which `inside` cuts out, or at most one parameter, and then there is
no part. -/
theorem inside_cases (s : Segment Rat) (hx : b.minX ≤ b.maxX) (hy : b.minY ≤ b.maxY) :
    (∃ enter leave, s.inside b = some (s.piece enter leave)
        ∧ (0 ≤ enter ∧ enter < leave ∧ leave ≤ 1)
        ∧ ∀ t ∈ Set.Icc (0 : Rat) 1, s.pointAt t ∈ b.region ↔ t ∈ Set.Icc enter leave)
      ∨ s.inside b = none
        ∧ ∀ t ∈ Set.Icc (0 : Rat) 1, ∀ u ∈ Set.Icc (0 : Rat) 1,
            s.pointAt t ∈ b.region → s.pointAt u ∈ b.region → t = u := by
  have hregion := fun t (ht : t ∈ Set.Icc (0 : Rat) 1) =>
    s.pointAt_mem_region_iff hx hy ht
  cases hX : spanOf s.start.x (s.finish.x - s.start.x) b.minX b.maxX with
  | none =>
      refine Or.inr ⟨by unfold inside; rw [hX]; rfl, fun t ht _ _ hmem => ?_⟩
      obtain ⟨⟨span, hspan, -⟩, -⟩ := (hregion t ht).mp hmem
      rw [hX] at hspan
      cases hspan
  | some spanX =>
      cases hY : spanOf s.start.y (s.finish.y - s.start.y) b.minY b.maxY with
      | none =>
          refine Or.inr ⟨by unfold inside; rw [hX, hY]; rfl, fun t ht _ _ hmem => ?_⟩
          obtain ⟨-, span, hspan, -⟩ := (hregion t ht).mp hmem
          rw [hY] at hspan
          cases hspan
      | some spanY =>
          -- the window is what the two spans and the segment have in common
          have hwindow : ∀ t ∈ Set.Icc (0 : Rat) 1, s.pointAt t ∈ b.region ↔
              t ∈ Set.Icc (max 0 (max spanX.1 spanY.1)) (min 1 (min spanX.2 spanY.2)) := by
            intro t ht
            rw [hregion t ht, hX, hY]
            simp only [Option.some.injEq, exists_eq_left', Set.mem_Icc, max_le_iff, le_min_iff,
              ht.1, ht.2, true_and]
            tauto
          rw [inside_of_spans hX hY]
          split
          case isTrue hopen =>
            exact Or.inl ⟨_, _, rfl, ⟨le_max_left _ _, hopen, min_le_left _ _⟩, hwindow⟩
          case isFalse hclosed =>
            refine Or.inr ⟨rfl, fun t ht u hu hmemT hmemU => ?_⟩
            obtain ⟨htLow, htHigh⟩ := (hwindow t ht).mp hmemT
            obtain ⟨huLow, huHigh⟩ := (hwindow u hu).mp hmemU
            linarith

-- ======================================================= the visible part

/-- A part of a segment is the visible one in a box: it has the points of the
segment in the box, more than one, and keeps the ends that lie in the box. -/
structure VisiblePart (s : Segment Rat) (b : Bounds Rat) (r : Segment Rat) : Prop where
  points_eq : r.points = s.points ∩ b.region
  ends_ne : r.start ≠ r.finish
  start_eq : s.start ∈ b.region → r.start = s.start
  finish_eq : s.finish ∈ b.region → r.finish = s.finish

namespace VisiblePart

theorem nontrivial (h : s.VisiblePart b r) : (s.points ∩ b.region).Nontrivial := by
  rw [← h.points_eq]
  exact ⟨_, r.start_mem_points, _, r.finish_mem_points, h.ends_ne⟩

theorem start_mem (h : s.VisiblePart b r) : r.start ∈ b.region :=
  (h.points_eq ▸ r.start_mem_points : r.start ∈ s.points ∩ b.region).2

theorem finish_mem (h : s.VisiblePart b r) : r.finish ∈ b.region :=
  (h.points_eq ▸ r.finish_mem_points : r.finish ∈ s.points ∩ b.region).2

/-- The piece of a window is the visible part. -/
theorem of_window {enter leave : Rat} (hs : s.start ≠ s.finish)
    (hwindow : 0 ≤ enter ∧ enter < leave ∧ leave ≤ 1)
    (hregion : ∀ t ∈ Set.Icc (0 : Rat) 1, s.pointAt t ∈ b.region ↔ t ∈ Set.Icc enter leave) :
    s.VisiblePart b (s.piece enter leave) := by
  obtain ⟨henter, hopen, hleave⟩ := hwindow
  have hinside : Set.Icc enter leave ⊆ Set.Icc 0 1 := Set.Icc_subset_Icc henter hleave
  constructor
  case points_eq =>
    rw [points_piece hopen]
    ext p
    constructor
    · rintro ⟨t, ht, rfl⟩
      exact ⟨⟨t, hinside ht, rfl⟩, (hregion t (hinside ht)).mpr ht⟩
    · rintro ⟨⟨t, ht, rfl⟩, hmem⟩
      exact ⟨t, (hregion t ht).mp hmem, rfl⟩
  case ends_ne => exact fun h => hopen.ne (pointAt_injective hs h)
  case start_eq =>
    intro hstart
    have hzero := (hregion 0 ⟨le_rfl, zero_le_one⟩).mp (s.pointAt_zero ▸ hstart)
    rw [piece, le_antisymm hzero.1 henter, pointAt_zero]
  case finish_eq =>
    intro hfinish
    have hone := (hregion 1 ⟨zero_le_one, le_rfl⟩).mp (s.pointAt_one ▸ hfinish)
    rw [piece, le_antisymm hleave hone.2, pointAt_one]

/-- A segment with both ends in a box is visible as a whole. -/
theorem whole (hs : s.start ≠ s.finish) (hstart : s.start ∈ b.region)
    (hfinish : s.finish ∈ b.region) : s.VisiblePart b s := by
  constructor
  case points_eq => exact (Set.inter_eq_left.mpr (points_subset_region hstart hfinish)).symm
  case ends_ne => exact hs
  case start_eq => exact fun _ => rfl
  case finish_eq => exact fun _ => rfl

end VisiblePart

-- ============================================================ the cut

/-- A segment with both ends in a box is not cut. -/
theorem clip_of_mem (hstart : s.start ∈ b.region) (hfinish : s.finish ∈ b.region) :
    s.clip (some b) = .ok (some s) := by
  unfold clip
  dsimp only
  rw [show b.contains s.start = true from hstart, show b.contains s.finish = true from hfinish]
  rfl

theorem isPoint_eq_false (hs : s.start ≠ s.finish) : s.isPoint = false := by
  rw [Bool.eq_false_iff]
  intro h
  unfold isPoint at h
  simp only [Scalar.isZero_rat, Bool.and_eq_true, decide_eq_true_eq] at h
  apply hs
  ext
  · linarith [h.1]
  · linarith [h.2]

/-- A segment that leaves a proper box is cut to its part inside. -/
theorem clip_of_not_mem (hb : b.Proper) (hs : s.start ≠ s.finish)
    (hout : ¬(s.start ∈ b.region ∧ s.finish ∈ b.region)) :
    s.clip (some b) = .ok ((s.inside b).filter fun r => !r.isPoint) := by
  have hpart : s.part b = s.inside b := by
    unfold part
    have hwidth : b.width ≠ 0 := (sub_pos.mpr hb.width_pos).ne'
    have hheight : b.height ≠ 0 := (sub_pos.mpr hb.height_pos).ne'
    simp only [hb.ordered_eq, isPoint_eq_false hs, Scalar.isZero_rat, hwidth, hheight, decide_false,
      Bool.or_self, Bool.false_eq_true, if_false]
  have hcontains : (b.contains s.start && b.contains s.finish) = false := by
    rw [Bool.eq_false_iff]
    exact fun h => hout (Bool.and_eq_true_iff.mp h)
  unfold clip
  dsimp only
  rw [hcontains]
  show Except.ok (((s.part b).map ofRational).filter _) = _
  rw [hpart]
  show Except.ok (((s.inside b).map id).filter _) = _
  rw [Option.map_id_fun, id]

/-- Cutting a segment that is no point to a proper box gives its visible part
if there is more than one point to see, and nothing if there is not. -/
theorem clip_cases (hb : b.Proper) (hs : s.start ≠ s.finish) :
    (∃ r, s.clip (some b) = .ok (some r) ∧ s.VisiblePart b r)
      ∨ s.clip (some b) = .ok none ∧ (s.points ∩ b.region).Subsingleton := by
  by_cases hin : s.start ∈ b.region ∧ s.finish ∈ b.region
  · exact Or.inl ⟨s, clip_of_mem hin.1 hin.2, .whole hs hin.1 hin.2⟩
  · rw [clip_of_not_mem hb hs hin]
    rcases s.inside_cases hb.width_pos.le hb.height_pos.le with
      ⟨enter, leave, hinside, hwindow, hregion⟩ | ⟨hnone, honly⟩
    · have hvisible := VisiblePart.of_window hs hwindow hregion
      refine Or.inl ⟨_, ?_, hvisible⟩
      rw [hinside, Option.filter_some, isPoint_eq_false hvisible.ends_ne]
      rfl
    · refine Or.inr ⟨by rw [hnone]; rfl, ?_⟩
      rintro _ ⟨⟨t, ht, rfl⟩, hmemT⟩ _ ⟨⟨u, hu, rfl⟩, hmemU⟩
      rw [honly t ht u hu hmemT hmemU]

end Segment

end MapSheets
