import MapSheets.Proofs.Plane.Area
import Mathlib.Algebra.Field.ZMod

/-
Polygons as sets of points. A point belongs to a polygon if it lies on a side,
or if a ray from it crosses the sides an odd number of times (`Polygon.region`).

Between two points of a box that no side enters the crossings change in pairs.
Along the ray a crossing lost is a side met. Across it, a side is crossed from
the one point and not from the other where one of its ends is passed on the way;
that is a difference between the ends of the side, and around a closed ring such
differences cancel. So the whole box lies inside or outside, and one corner tells
which: the test of a box is whether it has a point in common with the polygon
(`Polygon.meets_iff`), and a polygon keeps to a box that holds its corners
(`Polygon.region_subset`).
-/

namespace MapSheets

namespace Segment

variable {s : Segment Rat} {b : Bounds Rat}

/-- A side enters a box exactly where they have a point in common. -/
theorem sideMeets_iff (hx : b.minX ≤ b.maxX) (hy : b.minY ≤ b.maxY) :
    Polygon.sideMeets b s = true ↔ (s.points ∩ b.region).Nonempty := by
  unfold Polygon.sideMeets
  constructor
  · intro h
    split at h
    case h_1 x₀ x₁ y₀ y₁ hX hY =>
      -- the last entry is a common point
      simp only [Scalar.greatest_rat, Scalar.least_rat, decide_eq_true_eq] at h
      obtain ⟨hone, hleaveX, hleaveY⟩ : max 0 (max x₀ y₀) ≤ 1 ∧ max 0 (max x₀ y₀) ≤ x₁
          ∧ max 0 (max x₀ y₀) ≤ y₁ := by simpa only [le_min_iff] using h
      have hlast : max 0 (max x₀ y₀) ∈ Set.Icc (0 : Rat) 1 := ⟨le_max_left _ _, hone⟩
      have henterX : x₀ ≤ max 0 (max x₀ y₀) := (le_max_left _ _).trans (le_max_right _ _)
      have henterY : y₀ ≤ max 0 (max x₀ y₀) := (le_max_right _ _).trans (le_max_right _ _)
      exact ⟨s.pointAt _, ⟨_, hlast, rfl⟩, (s.pointAt_mem_region_iff hx hy hlast).mpr
        ⟨⟨_, hX, henterX, hleaveX⟩, _, hY, henterY, hleaveY⟩⟩
    case h_2 => cases h
  · rintro ⟨_, ⟨t, ht, rfl⟩, hmem⟩
    obtain ⟨⟨spanX, hX, hX₁, hX₂⟩, spanY, hY, hY₁, hY₂⟩ :=
      (s.pointAt_mem_region_iff hx hy ht).mp hmem
    rw [hX, hY]
    simp only [Scalar.greatest_rat, Scalar.least_rat, decide_eq_true_eq]
    exact (max_le ht.1 (max_le hX₁ hY₁)).trans (le_min ht.2 (le_min hX₂ hY₂))

-- ================================================================= one side

/-- A level separates the ends of a segment: the one is above it, the other is not. -/
def Spans (s : Segment Rat) (y : Rat) : Prop := ¬(y < s.start.y ↔ y < s.finish.y)

/-- The parameter at which a segment comes to a level. -/
def level (s : Segment Rat) (y : Rat) : Rat := (y - s.start.y) / (s.finish.y - s.start.y)

/-- A segment comes to every level that separates its ends. -/
theorem level_mem {y : Rat} (h : s.Spans y) :
    s.level y ∈ Set.Icc (0 : Rat) 1 ∧ (s.pointAt (s.level y)).y = y := by
  unfold level
  have hheight : s.finish.y - s.start.y ≠ 0 := by
    intro hflat
    refine h ?_
    rw [sub_eq_zero.mp hflat]
  refine ⟨?_, ?_⟩
  · by_cases hstart : y < s.start.y
    · have hfinish : s.finish.y ≤ y := not_lt.mp fun hy => h (iff_of_true hstart hy)
      have hneg : s.finish.y - s.start.y < 0 := by linarith
      refine ⟨div_nonneg_of_nonpos (by linarith) hneg.le, ?_⟩
      rw [div_le_one_of_neg hneg]
      linarith
    · have hfinish : y < s.finish.y := by
        by_contra hy
        exact h (iff_of_false hstart hy)
      have hpos : 0 < s.finish.y - s.start.y := by linarith
      refine ⟨div_nonneg (by linarith) hpos.le, ?_⟩
      rw [div_le_one hpos]
      linarith
  · unfold pointAt
    dsimp only
    rw [div_mul_cancel₀ _ hheight, add_sub_cancel]

/-- A ray crosses a segment whose ends its level separates, if the segment is
ahead where it comes to the level. -/
theorem crosses_iff {p : Point Rat} :
    Polygon.crosses p s = true ↔ s.Spans p.y ∧ p.x < (s.pointAt (s.level p.y)).x := by
  unfold Polygon.crosses Spans
  rw [Bool.and_eq_true, bne_iff_ne, ne_eq, decide_eq_decide, decide_eq_true_eq]
  rfl

/-- A piece of a segment, in either direction, is a part of it. -/
theorem points_piece_subset {t u : Rat} (ht : t ∈ Set.Icc (0 : Rat) 1)
    (hu : u ∈ Set.Icc (0 : Rat) 1) : (s.piece t u).points ⊆ s.points := by
  rintro _ ⟨v, ⟨hv₀, hv₁⟩, rfl⟩
  refine ⟨t + v * (u - t), ⟨?_, ?_⟩, (s.pointAt_piece t u v).symm⟩
  · nlinarith [ht.1, hu.1]
  · nlinarith [ht.2, hu.2]

/-- What lies between two numbers lies on the way from the one to the other. -/
theorem exists_share {a c y : Rat} (h : a ≤ y ∧ y ≤ c ∨ c ≤ y ∧ y ≤ a) :
    ∃ t ∈ Set.Icc (0 : Rat) 1, a + t * (c - a) = y := by
  rcases lt_trichotomy a c with hup | rfl | hdown
  · have hspan : 0 < c - a := sub_pos.mpr hup
    refine ⟨(y - a) / (c - a), ⟨div_nonneg (by grind) hspan.le, ?_⟩, ?_⟩
    · rw [div_le_one hspan]
      grind
    · rw [div_mul_cancel₀ _ hspan.ne', add_sub_cancel]
  · exact ⟨0, ⟨le_rfl, zero_le_one⟩, by grind⟩
  · have hspan : c - a < 0 := sub_neg.mpr hdown
    refine ⟨(y - a) / (c - a), ⟨div_nonneg_of_nonpos (by grind) hspan.le, ?_⟩, ?_⟩
    · rw [div_le_one_of_neg hspan]
      grind
    · rw [div_mul_cancel₀ _ hspan.ne, add_sub_cancel]

/-- A point between the ends of an upright segment. -/
theorem mem_points_upright {x a c : Rat} {q : Point Rat} (hx : q.x = x)
    (hy : a ≤ q.y ∧ q.y ≤ c ∨ c ≤ q.y ∧ q.y ≤ a) :
    q ∈ (⟨⟨x, a⟩, ⟨x, c⟩⟩ : Segment Rat).points := by
  obtain ⟨t, ht, hty⟩ := exists_share hy
  refine ⟨t, ht, Point.ext ?_ hty⟩
  show x + t * (x - x) = q.x
  rw [sub_self, mul_zero, add_zero, hx]

/-- A point between the ends of a level segment. -/
theorem mem_points_level {y a c : Rat} {q : Point Rat}
    (hx : a ≤ q.x ∧ q.x ≤ c ∨ c ≤ q.x ∧ q.x ≤ a) (hy : q.y = y) :
    q ∈ (⟨⟨a, y⟩, ⟨c, y⟩⟩ : Segment Rat).points := by
  obtain ⟨t, ht, htx⟩ := exists_share hx
  refine ⟨t, ht, Point.ext htx ?_⟩
  show y + t * (y - y) = q.y
  rw [sub_self, mul_zero, add_zero, hy]

/-- A ray crosses an upright segment that is ahead of it. -/
theorem crosses_upright_iff {x a c : Rat} {q : Point Rat} :
    Polygon.crosses q ⟨⟨x, a⟩, ⟨x, c⟩⟩ = true ↔ ¬(q.y < a ↔ q.y < c) ∧ q.x < x := by
  rw [crosses_iff]
  show _ ∧ q.x < x + _ * (x - x) ↔ _
  rw [sub_self, mul_zero, add_zero]
  rfl

theorem crosses_level_eq_false {y a c : Rat} {q : Point Rat} :
    Polygon.crosses q ⟨⟨a, y⟩, ⟨c, y⟩⟩ = false :=
  Bool.eq_false_iff.mpr fun h => (crosses_iff.mp h).1 Iff.rfl

/-- A segment that starts behind a line along the second axis and ends ahead of it
comes to the line at a height between those of its ends. -/
theorem exists_on_line {x low high : Rat} (hstart : s.start.x ≤ x) (hfinish : x < s.finish.x)
    (h₀ : low ≤ s.start.y ∧ s.start.y ≤ high) (h₁ : low ≤ s.finish.y ∧ s.finish.y ≤ high) :
    ∃ q ∈ s.points, q.x = x ∧ low ≤ q.y ∧ q.y ≤ high := by
  obtain ⟨t, ht, htx⟩ := exists_share (Or.inl ⟨hstart, hfinish.le⟩)
  have hregion : s.points ⊆ (⟨s.start.x, s.finish.x, low, high⟩ : Bounds Rat).region :=
    points_subset_region (Bounds.mem_region.mpr ⟨⟨le_rfl, hstart.trans hfinish.le⟩, h₀⟩)
      (Bounds.mem_region.mpr ⟨⟨hstart.trans hfinish.le, le_rfl⟩, h₁⟩)
  have hmem : s.pointAt t ∈ s.points := ⟨t, ht, rfl⟩
  exact ⟨_, hmem, htx, (Bounds.mem_region.mp (hregion hmem)).2⟩

/-- Between two levels a segment that has no point above or below a point is all
on one side of it. -/
theorem exists_ahead {x low high : Rat}
    (hfree : ∀ q ∈ s.points, ¬(q.x = x ∧ low ≤ q.y ∧ q.y ≤ high)) :
    ∃ ahead : Bool, ∀ t ∈ Set.Icc (0 : Rat) 1,
      low ≤ (s.pointAt t).y ∧ (s.pointAt t).y ≤ high → decide (x < (s.pointAt t).x) = ahead := by
  by_cases hsome : ∃ t ∈ Set.Icc (0 : Rat) 1,
      (low ≤ (s.pointAt t).y ∧ (s.pointAt t).y ≤ high) ∧ x < (s.pointAt t).x
  · obtain ⟨t, ht, hrange, hahead⟩ := hsome
    refine ⟨true, fun u hu hu' => decide_eq_true ?_⟩
    by_contra hbehind
    -- the piece between the two would come to the line of the point
    obtain ⟨q, hq, hline⟩ := (s.piece u t).exists_on_line (not_lt.mp hbehind) hahead hu' hrange
    exact hfree q (points_piece_subset hu ht hq) hline
  · exact ⟨false, fun u hu hu' => decide_eq_false fun h => hsome ⟨u, hu, hu', h⟩⟩

end Segment

namespace Polygon

variable {s : Segment Rat}

-- ============================================================== crossings

/-- One for what holds, counted by twos. -/
def parityOf (b : Bool) : ZMod 2 := if b then 1 else 0

/-- Whether a point is passed, ahead of a line along the second axis, on the way
from one level to another. -/
def isPassed (x low high : Rat) (p : Point Rat) : Bool :=
  decide (low < p.y) && !decide (high < p.y) && decide (x < p.x)

/-- Of the ends of a side that stays ahead one is passed, if the side is crossed at
one level only. -/
theorem parityOf_crossed_sub : ∀ startLow finishLow startHigh finishHigh ahead : Bool,
    (startHigh = true → startLow = true) → (finishHigh = true → finishLow = true) →
      parityOf ((startLow != finishLow) && ahead) - parityOf ((startHigh != finishHigh) && ahead)
        = parityOf (finishLow && !finishHigh && ahead)
          - parityOf (startLow && !startHigh && ahead) := by
  decide

/-- On the way from one level to another the crossings of a side that is not met
change by those of its ends that are passed. -/
theorem parityOf_crosses_sub {x low high : Rat} (horder : low ≤ high)
    (hfree : ∀ q ∈ s.points, ¬(q.x = x ∧ low ≤ q.y ∧ q.y ≤ high)) :
    parityOf (crosses ⟨x, low⟩ s) - parityOf (crosses ⟨x, high⟩ s)
      = parityOf (isPassed x low high s.finish) - parityOf (isPassed x low high s.start) := by
  obtain ⟨ahead, hahead⟩ := s.exists_ahead hfree
  have hcross : ∀ y, low ≤ y → y ≤ high →
      crosses ⟨x, y⟩ s = ((decide (y < s.start.y) != decide (y < s.finish.y)) && ahead) := by
    intro y hlow hhigh
    by_cases hspans : s.Spans y
    · obtain ⟨hmem, hlevel⟩ := s.level_mem hspans
      rw [← hahead _ hmem (by rw [hlevel]; exact ⟨hlow, hhigh⟩)]
      rfl
    · have hlevel : (decide (y < s.start.y) != decide (y < s.finish.y)) = false := by
        rw [bne_eq_false_iff_eq, decide_eq_decide]
        exact not_not.mp hspans
      unfold crosses
      dsimp only
      rw [hlevel, Bool.false_and, Bool.false_and]
  have hpassed : ∀ t ∈ Set.Icc (0 : Rat) 1, isPassed x low high (s.pointAt t)
      = (decide (low < (s.pointAt t).y) && !decide (high < (s.pointAt t).y) && ahead) := by
    intro t ht
    unfold isPassed
    by_cases hrange : low < (s.pointAt t).y ∧ (s.pointAt t).y ≤ high
    · rw [hahead t ht ⟨hrange.1.le, hrange.2⟩]
    · have hout : (decide (low < (s.pointAt t).y) && !decide (high < (s.pointAt t).y)) = false := by
        simpa using hrange
      rw [hout, Bool.false_and, Bool.false_and]
  have hstart := hpassed 0 ⟨le_rfl, zero_le_one⟩
  have hfinish := hpassed 1 ⟨zero_le_one, le_rfl⟩
  rw [s.pointAt_zero] at hstart
  rw [s.pointAt_one] at hfinish
  rw [hcross low le_rfl horder, hcross high horder le_rfl, hstart, hfinish]
  have hdown : ∀ y : Rat, decide (high < y) = true → decide (low < y) = true := fun y hy =>
    decide_eq_true (horder.trans_lt (of_decide_eq_true hy))
  exact parityOf_crossed_sub _ _ _ _ _ (hdown s.start.y) (hdown s.finish.y)

/-- Along the ray a side that is not met between two points is crossed from both
or from neither. -/
theorem crosses_eq_of_level {y x₀ x₁ : Rat} (horder : x₀ ≤ x₁)
    (hfree : ∀ q ∈ s.points, ¬(q.y = y ∧ x₀ ≤ q.x ∧ q.x ≤ x₁)) :
    crosses ⟨x₀, y⟩ s = crosses ⟨x₁, y⟩ s := by
  rw [Bool.eq_iff_iff, Segment.crosses_iff, Segment.crosses_iff]
  refine and_congr_right fun hspans => ?_
  obtain ⟨hmem, hlevel⟩ := s.level_mem hspans
  constructor
  · intro hahead
    by_contra hbehind
    exact hfree _ ⟨_, hmem, rfl⟩ ⟨hlevel, hahead.le, not_lt.mp hbehind⟩
  · exact fun hahead => horder.trans_lt hahead

-- =============================================================== regions

/-- The sides of all rings. -/
def border (p : Polygon Rat) : List (Segment Rat) := p.rings.flatMap sides

/-- The points of a polygon: those on its sides, and those from which a ray crosses
the sides an odd number of times. -/
def region (p : Polygon Rat) : Set (Point Rat) :=
  {q | (∃ s ∈ p.border, q ∈ s.points) ∨ surrounds p.border q = true}

variable {p : Polygon Rat} {b : Bounds Rat}

theorem surrounds_iff {sides : List (Segment Rat)} {q : Point Rat} :
    surrounds sides q = true ↔ (sides.map fun s => parityOf (crosses q s)).sum = 1 := by
  have hcount : (sides.map fun s => parityOf (crosses q s)).sum
      = ((sides.filter (crosses q)).length : ZMod 2) := by
    induction sides with
    | nil => rfl
    | cons s rest ih =>
        rw [List.map_cons, List.sum_cons, ih]
        cases hs : crosses q s with
        | false => simp [parityOf, hs]
        | true => simp [parityOf, hs, add_comm]
  unfold surrounds
  have hodd := ZMod.natCast_eq_natCast_iff' (sides.filter (crosses q)).length 1 2
  rw [Nat.cast_one] at hodd
  rw [hcount, beq_iff_eq, hodd]

/-- What is a difference between the ends of each side vanishes around a polygon. -/
theorem sum_border_eq_zero {A : Type} [AddCommGroup A] {g : Point Rat → A}
    {product : Segment Rat → A} (h : ∀ s ∈ p.border, product s = g s.finish - g s.start) :
    (p.border.map product).sum = 0 := by
  have hrings : ∀ rings : List (List (Point Rat)), (∀ ring ∈ rings, ∀ s ∈ sides ring,
      product s = g s.finish - g s.start) → ((rings.flatMap sides).map product).sum = 0 := by
    intro rings hrings
    induction rings with
    | nil => rfl
    | cons ring rest ih =>
        obtain ⟨hring, hrest⟩ := List.forall_mem_cons.mp hrings
        rw [List.flatMap_cons, List.map_append, List.sum_append, sum_sides_eq_zero hring, ih hrest,
          add_zero]
  exact hrings p.rings fun ring hring s hs => h s (List.mem_flatMap.mpr ⟨ring, hring, hs⟩)

/-- Sides that are crossed from two points in numbers of one parity. -/
theorem surrounds_eq_of_sum {sides : List (Segment Rat)} {q r : Point Rat}
    (h : (sides.map fun s => parityOf (crosses q s) - parityOf (crosses r s)).sum = 0) :
    surrounds sides q = surrounds sides r := by
  have hsum : (sides.map fun s => parityOf (crosses q s)).sum
      = (sides.map fun s => parityOf (crosses r s)).sum := by
    rw [← add_zero (sides.map fun s => parityOf (crosses r s)).sum, ← h, ← List.sum_map_add]
    simp
  rw [Bool.eq_iff_iff, surrounds_iff, surrounds_iff, hsum]

/-- Two points of a box that no side enters lie both inside or both outside. -/
theorem surrounds_eq (hfree : ∀ s ∈ p.border, ∀ v ∈ s.points, v ∉ b.region) {q r : Point Rat}
    (hq : q ∈ b.region) (hr : r ∈ b.region) :
    surrounds p.border q = surrounds p.border r := by
  obtain ⟨⟨hqWest, hqEast⟩, hqSouth, hqNorth⟩ := Bounds.mem_region.mp hq
  obtain ⟨⟨hrWest, hrEast⟩, hrSouth, hrNorth⟩ := Bounds.mem_region.mp hr
  -- across the ray, from the lower level to the higher
  have hacross : ∀ low high, low ≤ high → b.minY ≤ low → high ≤ b.maxY →
      surrounds p.border ⟨q.x, low⟩ = surrounds p.border ⟨q.x, high⟩ := by
    intro low high horder hlow hhigh
    refine surrounds_eq_of_sum (sum_border_eq_zero (g := fun v => parityOf (isPassed q.x low high v))
      fun s hs => parityOf_crosses_sub horder ?_)
    rintro v hv ⟨hx, hsouth, hnorth⟩
    refine hfree s hs v hv (Bounds.mem_region.mpr ⟨?_, hlow.trans hsouth, hnorth.trans hhigh⟩)
    rw [hx]
    exact ⟨hqWest, hqEast⟩
  -- along the ray, from the west to the east
  have halong : ∀ west east, west ≤ east → b.minX ≤ west → east ≤ b.maxX →
      surrounds p.border ⟨west, r.y⟩ = surrounds p.border ⟨east, r.y⟩ := by
    intro west east horder hwest heast
    have hsame : p.border.filter (crosses ⟨west, r.y⟩) = p.border.filter (crosses ⟨east, r.y⟩) := by
      refine List.filter_congr fun s hs => crosses_eq_of_level horder ?_
      rintro v hv ⟨hy, hv₀, hv₁⟩
      refine hfree s hs v hv (Bounds.mem_region.mpr ⟨⟨hwest.trans hv₀, hv₁.trans heast⟩, ?_⟩)
      rw [hy]
      exact ⟨hrSouth, hrNorth⟩
    unfold surrounds
    rw [hsame]
  have hup : surrounds p.border ⟨q.x, q.y⟩ = surrounds p.border ⟨q.x, r.y⟩ := by
    rcases le_total q.y r.y with h | h
    · exact hacross _ _ h hqSouth hrNorth
    · exact (hacross _ _ h hrSouth hqNorth).symm
  have hover : surrounds p.border ⟨q.x, r.y⟩ = surrounds p.border ⟨r.x, r.y⟩ := by
    rcases le_total q.x r.x with h | h
    · exact halong _ _ h hqWest hrEast
    · exact (halong _ _ h hrWest hqEast).symm
  exact hup.trans hover

-- ================================================================ meeting

theorem exactSides?_rat (p : Polygon Rat) : p.exactSides? = some p.border := by
  have hring : (fun ring : List (Point Rat) => ring.mapM Point.rational?) = some :=
    funext fun ring => (List.mapM_pure (f := id)).trans (congrArg some ring.map_id)
  have hrings : (p.rings.mapM fun ring => ring.mapM Point.rational?) = some p.rings := by
    rw [hring]
    exact (List.mapM_pure (f := id)).trans (congrArg some p.rings.map_id)
  unfold exactSides?
  rw [hrings]
  rfl

/-- A polygon meets a box exactly where they have a point in common. -/
theorem meets_iff (hx : b.minX ≤ b.maxX) (hy : b.minY ≤ b.maxY) :
    p.meets b = true ↔ (p.region ∩ b.region).Nonempty := by
  have hmeets : p.meets b = regionMeets p.border b := by
    unfold meets
    rw [exactSides?_rat]
    rfl
  have hcorner : (⟨b.minX, b.minY⟩ : Point Rat) ∈ b.region :=
    Bounds.mem_region.mpr ⟨⟨le_rfl, hx⟩, le_rfl, hy⟩
  rw [hmeets, regionMeets, Bool.or_eq_true, List.any_eq_true]
  constructor
  · rintro (⟨s, hs, hmeets⟩ | hinside)
    · obtain ⟨q, hq, hqb⟩ := (Segment.sideMeets_iff hx hy).mp hmeets
      exact ⟨q, Or.inl ⟨s, hs, hq⟩, hqb⟩
    · exact ⟨_, Or.inr hinside, hcorner⟩
  · rintro ⟨q, hq, hqb⟩
    by_cases hany : ∃ s ∈ p.border, (s.points ∩ b.region).Nonempty
    · obtain ⟨s, hs, hsb⟩ := hany
      exact Or.inl ⟨s, hs, (Segment.sideMeets_iff hx hy).mpr hsb⟩
    · have hfree : ∀ s ∈ p.border, ∀ v ∈ s.points, v ∉ b.region := fun s hs v hv hvb =>
        hany ⟨s, hs, v, hv, hvb⟩
      rcases hq with ⟨s, hs, hqs⟩ | hinside
      · exact absurd ⟨s, hs, q, hqs, hqb⟩ hany
      · rw [surrounds_eq hfree hqb hcorner] at hinside
        exact Or.inr hinside

-- ================================================================ extents

theorem ends_mem_of_mem_border {s : Segment Rat} (hs : s ∈ p.border) :
    s.start ∈ p.points ∧ s.finish ∈ p.points := by
  obtain ⟨ring, hring, hs⟩ := List.mem_flatMap.mp hs
  obtain ⟨hstart, hfinish⟩ := ends_mem_of_mem_sides hs
  exact ⟨List.mem_flatten.mpr ⟨ring, hring, hstart⟩, List.mem_flatten.mpr ⟨ring, hring, hfinish⟩⟩

/-- At a level that separates the ends of no side nothing lies inside. -/
theorem surrounds_eq_false {sides : List (Segment Rat)} {q : Point Rat}
    (h : ∀ s ∈ sides, ¬s.Spans q.y) : surrounds sides q = false := by
  have hnone : sides.filter (crosses q) = [] :=
    List.filter_eq_nil_iff.mpr fun s hs hcrosses => h s hs (Segment.crosses_iff.mp hcrosses).1
  unfold surrounds
  rw [hnone]
  rfl

/-- Nothing outside a box is surrounded by sides inside it. -/
theorem surrounds_eq_false_of_not_mem {e : Bounds Rat}
    (hsides : ∀ s ∈ p.border, s.points ⊆ e.region) {q : Point Rat} (hq : q ∉ e.region) :
    surrounds p.border q = false := by
  -- above and below the box no level separates the ends of a side
  have hlevel : ∀ v : Point Rat, ¬(e.minY ≤ v.y ∧ v.y ≤ e.maxY) →
      surrounds p.border v = false := by
    intro v hv
    refine surrounds_eq_false fun s hs hspans => hv ?_
    obtain ⟨hmem, hlevel⟩ := s.level_mem hspans
    have hrange := (Bounds.mem_region.mp (hsides s hs ⟨_, hmem, rfl⟩)).2
    rwa [hlevel] at hrange
  by_cases hy : e.minY ≤ q.y ∧ q.y ≤ e.maxY
  · -- beside the box the way down meets no side
    have hx : ¬(e.minX ≤ q.x ∧ q.x ≤ e.maxX) := fun hx => hq (Bounds.mem_region.mpr ⟨hx, hy⟩)
    have hdown : e.minY - 1 ≤ q.y := by linarith [hy.1]
    let way : Bounds Rat := ⟨q.x, q.x, e.minY - 1, q.y⟩
    have hfree : ∀ s ∈ p.border, ∀ v ∈ s.points, v ∉ way.region := by
      intro s hs v hv hway
      apply hx
      obtain ⟨⟨hwest, heast⟩, -⟩ := Bounds.mem_region.mp hway
      have hline : q.x = v.x := le_antisymm hwest heast
      rw [hline]
      exact (Bounds.mem_region.mp (hsides s hs hv)).1
    have hsame : surrounds p.border q = surrounds p.border ⟨q.x, e.minY - 1⟩ :=
      surrounds_eq hfree (Bounds.mem_region.mpr ⟨⟨le_rfl, le_rfl⟩, hdown, le_rfl⟩)
        (Bounds.mem_region.mpr ⟨⟨le_rfl, le_rfl⟩, le_rfl, hdown⟩)
    rw [hsame]
    apply hlevel
    intro hbelow
    linarith [hbelow.1]
  · exact hlevel q hy

/-- A polygon keeps to a box that holds its corners. -/
theorem region_subset {e : Bounds Rat} (h : ∀ q ∈ p.points, q ∈ e.region) :
    p.region ⊆ e.region := by
  have hsides : ∀ s ∈ p.border, s.points ⊆ e.region := fun s hs =>
    Segment.points_subset_region (h _ (ends_mem_of_mem_border hs).1)
      (h _ (ends_mem_of_mem_border hs).2)
  rintro q (⟨s, hs, hq⟩ | hinside)
  · exact hsides s hs hq
  · by_contra hout
    rw [surrounds_eq_false_of_not_mem hsides hout] at hinside
    cases hinside

/-- A polygon without points is empty. -/
theorem region_eq_empty (h : p.points = []) : p.region = ∅ := by
  have hborder : p.border = [] := by
    refine List.eq_nil_iff_forall_not_mem.mpr fun s hs => ?_
    have hstart := (ends_mem_of_mem_border hs).1
    rw [h] at hstart
    cases hstart
  refine Set.eq_empty_of_forall_notMem fun q hq => ?_
  unfold region at hq
  rw [hborder] at hq
  rcases hq with ⟨s, hs, -⟩ | hinside
  · cases hs
  · cases hinside

-- ================================================================== boxes

/-- The four sides of a box, from its lower right corner around. -/
theorem border_ofBounds (b : Bounds Rat) : (ofBounds b).border =
    [⟨⟨b.maxX, b.minY⟩, ⟨b.maxX, b.maxY⟩⟩, ⟨⟨b.maxX, b.maxY⟩, ⟨b.minX, b.maxY⟩⟩,
      ⟨⟨b.minX, b.maxY⟩, ⟨b.minX, b.minY⟩⟩, ⟨⟨b.minX, b.minY⟩, ⟨b.maxX, b.minY⟩⟩] := rfl

/-- From a point of a box below its top and before its right side a ray crosses that
side alone. -/
theorem surrounds_ofBounds {q : Point Rat} (hx : b.minX ≤ q.x ∧ q.x < b.maxX)
    (hy : b.minY ≤ q.y ∧ q.y < b.maxY) : surrounds (ofBounds b).border q = true := by
  have hright : crosses q ⟨⟨b.maxX, b.minY⟩, ⟨b.maxX, b.maxY⟩⟩ = true :=
    Segment.crosses_upright_iff.mpr ⟨fun h => absurd (h.mpr hy.2) (not_lt.mpr hy.1), hx.2⟩
  have hleft : crosses q ⟨⟨b.minX, b.maxY⟩, ⟨b.minX, b.minY⟩⟩ = false :=
    Bool.eq_false_iff.mpr fun h => absurd (Segment.crosses_upright_iff.mp h).2 (not_lt.mpr hx.1)
  rw [border_ofBounds]
  simp [surrounds, hright, hleft, Segment.crosses_level_eq_false]

/-- The polygon of a box has the points of the box. -/
theorem region_ofBounds (hx : b.minX ≤ b.maxX) (hy : b.minY ≤ b.maxY) :
    (ofBounds b).region = b.region := by
  refine subset_antisymm (region_subset ?_) fun q hq => ?_
  · show ∀ q ∈ [(⟨b.maxX, b.minY⟩ : Point Rat), ⟨b.maxX, b.maxY⟩, ⟨b.minX, b.maxY⟩,
      ⟨b.minX, b.minY⟩], q ∈ b.region
    simp [Bounds.mem_region, hx, hy]
  · obtain ⟨⟨hwest, heast⟩, hsouth, hnorth⟩ := Bounds.mem_region.mp hq
    rcases heast.lt_or_eq with hinX | honX
    · rcases hnorth.lt_or_eq with hinY | honY
      · exact Or.inr (surrounds_ofBounds ⟨hwest, hinX⟩ ⟨hsouth, hinY⟩)
      · exact Or.inl ⟨_, by simp [border_ofBounds],
          Segment.mem_points_level (Or.inr ⟨hwest, heast⟩) honY⟩
    · exact Or.inl ⟨_, by simp [border_ofBounds],
        Segment.mem_points_upright honX (Or.inl ⟨hsouth, hnorth⟩)⟩

end Polygon

namespace Bounds

variable {a b : Bounds Rat}

/-- Around some points there is a box. -/
theorem eq_nil_of_around? {points : List (Point Rat)} (h : around? points = none) : points = [] := by
  cases points with
  | nil => rfl
  | cons p rest => cases h

theorem overlaps_iff : a.overlaps b = true
    ↔ (a.minX ≤ b.maxX ∧ b.minX ≤ a.maxX) ∧ a.minY ≤ b.maxY ∧ b.minY ≤ a.maxY := by
  unfold overlaps
  simp only [Bool.and_eq_true, decide_eq_true_eq, and_assoc]

/-- Boxes with a point in common overlap. -/
theorem overlaps_of_mem {q : Point Rat} (ha : q ∈ a.region) (hb : q ∈ b.region) :
    a.overlaps b = true := by
  rw [mem_region] at ha hb
  exact overlaps_iff.mpr ⟨⟨ha.1.1.trans hb.1.2, hb.1.1.trans ha.1.2⟩, ha.2.1.trans hb.2.2,
    hb.2.1.trans ha.2.2⟩

/-- Two boxes whose sides are in order have a point in common exactly where their
intervals overlap along both axes. -/
theorem region_inter_nonempty_iff (ha : a.minX ≤ a.maxX ∧ a.minY ≤ a.maxY)
    (hb : b.minX ≤ b.maxX ∧ b.minY ≤ b.maxY) :
    (a.region ∩ b.region).Nonempty
      ↔ (a.minX ≤ b.maxX ∧ b.minX ≤ a.maxX) ∧ a.minY ≤ b.maxY ∧ b.minY ≤ a.maxY := by
  constructor
  · intro ⟨q, hqa, hqb⟩
    exact overlaps_iff.mp (overlaps_of_mem hqa hqb)
  · intro ⟨⟨h₁, h₂⟩, h₃, h₄⟩
    refine ⟨⟨max a.minX b.minX, max a.minY b.minY⟩, mem_region.mpr ?_, mem_region.mpr ?_⟩
    · exact ⟨⟨le_max_left _ _, max_le ha.1 h₂⟩, le_max_left _ _, max_le ha.2 h₄⟩
    · exact ⟨⟨le_max_right _ _, max_le h₁ hb.1⟩, le_max_right _ _, max_le h₃ hb.2⟩

end Bounds

end MapSheets
