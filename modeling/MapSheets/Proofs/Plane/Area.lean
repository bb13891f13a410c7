import MapSheets.Plane.Shape
import MapSheets.Proofs.Plane.VisiblePart
import Mathlib.Algebra.Order.BigOperators.Group.List
import Mathlib.Tactic.Abel

/-
Areas and extents. The area of a polygon is that inside its first ring less
those of its holes; a ring has one by the sum of the products across its sides.
Where the points of a ring lie on one line along an axis the sum telescopes to
zero (`doubledArea_of_level`), so a polygon with an area has points at two
places along either axis. The extent of a shape holds all its points, and is
then a proper box (`extent_proper`).
-/

namespace MapSheets

namespace Polygon

-- ================================================================== areas

/-- Twice the area inside a ring, with the sign of its direction. -/
def doubledArea (ring : List (Point Rat)) : Rat :=
  ((sides ring).map fun s => s.start.x * s.finish.y - s.finish.x * s.start.y).sum

/-- The area of a polygon: that of its first ring less those of the others. -/
def area (p : Polygon Rat) : Rat :=
  match p.rings with
  | [] => 0
  | outer :: holes =>
    |doubledArea outer| / 2 - (holes.map fun hole => |doubledArea hole| / 2).sum

section
variable {A : Type} [AddCommGroup A]

/-- The steps of a way add up to the step from its first point to its last. -/
theorem sum_steps (g : Point Rat → A) (last : Point Rat) :
    ∀ rest p, (((p :: rest).zip (rest ++ [last])).map fun (a, b) => g b - g a).sum
      = g last - g p := by
  intro rest
  induction rest with
  | nil =>
      intro p
      simp
  | cons r rest ih =>
      intro p
      have hrest := ih r
      simp only [List.cons_append, List.zip_cons_cons, List.map_cons, List.sum_cons] at hrest ⊢
      rw [hrest]
      abel

/-- What is a difference between the ends of each side vanishes around a ring. -/
theorem sum_sides_eq_zero {ring : List (Point Rat)} {g : Point Rat → A}
    {product : Segment Rat → A}
    (h : ∀ s ∈ sides ring, product s = g s.finish - g s.start) :
    ((sides ring).map product).sum = 0 := by
  rw [List.map_congr_left h]
  cases ring with
  | nil => rfl
  | cons p rest =>
      have hsteps := sum_steps g p rest p
      rw [sub_self] at hsteps
      rw [← hsteps]
      unfold sides
      rw [List.map_map]
      rfl

end

theorem ends_mem_of_mem_sides {ring : List (Point Rat)} {s : Segment Rat} (hs : s ∈ sides ring) :
    s.start ∈ ring ∧ s.finish ∈ ring := by
  cases ring with
  | nil => cases hs
  | cons p rest =>
      obtain ⟨⟨a, b⟩, hab, rfl⟩ := List.mem_map.mp hs
      obtain ⟨ha, hb⟩ := List.of_mem_zip hab
      refine ⟨ha, ?_⟩
      simpa [or_comm] using hb

/-- A ring whose points lie on one line along an axis has no area. -/
theorem doubledArea_of_level {ring : List (Point Rat)} {a : Rat}
    (h : (∀ p ∈ ring, p.x = a) ∨ ∀ p ∈ ring, p.y = a) : doubledArea ring = 0 := by
  unfold doubledArea
  rcases h with hx | hy
  · refine sum_sides_eq_zero (g := fun p => a * p.y) fun s hs => ?_
    obtain ⟨hstart, hfinish⟩ := ends_mem_of_mem_sides hs
    rw [hx _ hstart, hx _ hfinish]
  · refine sum_sides_eq_zero (g := fun p => -(a * p.x)) fun s hs => ?_
    obtain ⟨hstart, hfinish⟩ := ends_mem_of_mem_sides hs
    rw [hy _ hstart, hy _ hfinish]
    ring

/-- A polygon with an area has an outer ring with one. -/
theorem exists_outer_of_area {p : Polygon Rat} (h : 0 < p.area) :
    ∃ outer ∈ p.rings, doubledArea outer ≠ 0 := by
  unfold area at h
  cases hrings : p.rings with
  | nil =>
      rw [hrings] at h
      exact absurd h (lt_irrefl _)
  | cons outer holes =>
      rw [hrings] at h
      dsimp only at h
      refine ⟨outer, List.mem_cons_self, fun hzero => ?_⟩
      have hholes : 0 ≤ (holes.map fun hole => |doubledArea hole| / 2).sum := by
        refine List.sum_nonneg fun a ha => ?_
        obtain ⟨hole, -, rfl⟩ := List.mem_map.mp ha
        positivity
      rw [hzero, abs_zero, zero_div] at h
      linarith

/-- The area of a box with an inside is its width by its height. -/
theorem area_ofBounds {b : Bounds Rat} (hb : b.Proper) :
    (ofBounds b).area = b.width * b.height := by
  have hring : doubledArea [⟨b.maxX, b.minY⟩, ⟨b.maxX, b.maxY⟩, ⟨b.minX, b.maxY⟩, ⟨b.minX, b.minY⟩]
      = 2 * (b.width * b.height) := by
    simp only [doubledArea, sides, Bounds.width, Bounds.height, List.cons_append, List.nil_append,
      List.zip_cons_cons, List.zip_nil_right, List.map_cons, List.map_nil, List.sum_cons,
      List.sum_nil]
    ring
  have hpos : 0 < b.width * b.height :=
    mul_pos (sub_pos.mpr hb.width_pos) (sub_pos.mpr hb.height_pos)
  unfold ofBounds area
  dsimp only
  rw [hring, abs_of_pos (by linarith), List.map_nil, List.sum_nil]
  ring

end Polygon

namespace Bounds

-- ================================================================ extents

/-- The box with its sides moved out as far as a point. -/
def stretched (b : Bounds Rat) (p : Point Rat) : Bounds Rat :=
  ⟨Scalar.least b.minX p.x, Scalar.greatest b.maxX p.x,
    Scalar.least b.minY p.y, Scalar.greatest b.maxY p.y⟩

theorem mem_stretched (b : Bounds Rat) (p : Point Rat) : p ∈ (b.stretched p).region := by
  rw [mem_region]
  simp [stretched]

theorem region_subset_stretched (b : Bounds Rat) (p : Point Rat) :
    b.region ⊆ (b.stretched p).region := by
  intro q hq
  rw [mem_region] at hq ⊢
  obtain ⟨⟨hwest, heast⟩, hsouth, hnorth⟩ := hq
  simp [stretched, hwest, heast, hsouth, hnorth]

/-- A box that is moved out to point after point never loses what it holds. -/
theorem mem_foldl_stretched (rest : List (Point Rat)) :
    ∀ b : Bounds Rat, b.region ⊆ (rest.foldl stretched b).region
      ∧ ∀ p ∈ rest, p ∈ (rest.foldl stretched b).region := by
  induction rest with
  | nil => exact fun b => ⟨subset_rfl, nofun⟩
  | cons r rest ih =>
      intro b
      obtain ⟨hkept, hrest⟩ := ih (b.stretched r)
      refine ⟨(b.region_subset_stretched r).trans hkept, List.forall_mem_cons.mpr ⟨?_, hrest⟩⟩
      exact hkept (b.mem_stretched r)

/-- The box around some points holds them all. -/
theorem mem_of_around? {points : List (Point Rat)} {b : Bounds Rat} (h : around? points = some b)
    {p : Point Rat} (hp : p ∈ points) : p ∈ b.region := by
  cases points with
  | nil => cases hp
  | cons q rest =>
      cases h
      obtain ⟨hfirst, hrest⟩ := mem_foldl_stretched rest ⟨q.x, q.x, q.y, q.y⟩
      rcases List.mem_cons.mp hp with rfl | hp
      · exact hfirst (mem_region.mpr ⟨⟨le_rfl, le_rfl⟩, le_rfl, le_rfl⟩)
      · exact hrest p hp

/-- A box that holds a ring with an area has an inside. -/
theorem proper_of_doubledArea {b : Bounds Rat} {ring : List (Point Rat)}
    (hring : ∀ p ∈ ring, p ∈ b.region) (harea : Polygon.doubledArea ring ≠ 0) : b.Proper := by
  -- between sides that are not in order, or are one, the ring lies on a line
  constructor
  · by_contra hflat
    refine harea (Polygon.doubledArea_of_level (a := b.minX) (.inl fun p hp => ?_))
    obtain ⟨⟨hwest, heast⟩, -⟩ := mem_region.mp (hring p hp)
    exact le_antisymm (heast.trans (not_lt.mp hflat)) hwest
  · by_contra hflat
    refine harea (Polygon.doubledArea_of_level (a := b.minY) (.inr fun p hp => ?_))
    obtain ⟨-, hsouth, hnorth⟩ := mem_region.mp (hring p hp)
    exact le_antisymm (hnorth.trans (not_lt.mp hflat)) hsouth

end Bounds

/-- The extent of a shape with a polygon that has an area has an inside. -/
theorem Shape.extent_proper {s : Shape Rat} {b : Bounds Rat} (h : s.extent? = some b)
    {p : Polygon Rat} (hp : p ∈ s.areas) (harea : 0 < p.area) : b.Proper := by
  obtain ⟨outer, houter, hne⟩ := Polygon.exists_outer_of_area harea
  refine Bounds.proper_of_doubledArea (fun q hq => Bounds.mem_of_around? h ?_) hne
  have hpoints : q ∈ p.points := List.mem_flatten.mpr ⟨outer, houter, hq⟩
  exact List.mem_append_right _ (List.mem_flatMap.mpr ⟨p, hp, hpoints⟩)

end MapSheets
