import MapSheets.Proofs.Geodesy.Coarse
import MapSheets.Proofs.Plane.Region
import MapSheets.Proofs.Source.Describing
import MapSheets.Proofs.Source.Scan
import MapSheets.Source.Table

/-
Lookups by place. A table of polygons is asked for a point or for an extent. The
answer is that of a plain scan: the first feature in the order of the table that
has a point in common with the question, and a report that there is none exactly
where no feature has one (`CellTable.place_lookups_scan`).

The index in front of it changes nothing. A feature reaches no farther than its
extent, so one that meets a box has an extent that overlaps it, and what the index
gives in any order is put in the order of the table before it is tested. For
features that are boxes to meet is to overlap along both axes, ends included.
-/

namespace MapSheets

namespace Feature

/-- The points of the polygons of a feature. -/
def region (f : Feature Rat) : Set (Point Rat) :=
  {q | ∃ shape, f.shape = some shape ∧ ∃ p ∈ shape.areas, q ∈ p.region}

/-- The shape of a feature is a polygon, or several, and nothing else. -/
def IsPolygonal (f : Feature Rat) : Prop := ∃ areas, f.shape = some { areas }

/-- Whether a feature has a point in common with a box. -/
def meets (f : Feature Rat) (box : Bounds Rat) : Bool := f.shape.any (·.meets box)

/-- Whether the extent of a feature overlaps a box. -/
def isNear (f : Feature Rat) (box : Bounds Rat) : Bool :=
  match f.shape.bind (·.extent?) with
  | some extent => extent.overlaps box
  | none => false

variable {f : Feature Rat} {box : Bounds Rat}

theorem IsPolygonal.meets_iff (hf : f.IsPolygonal) (hx : box.minX ≤ box.maxX)
    (hy : box.minY ≤ box.maxY) : f.meets box = true ↔ (f.region ∩ box.region).Nonempty := by
  obtain ⟨areas, hareas⟩ := hf
  have hany : f.meets box = areas.any (·.meets box) := by
    unfold meets
    rw [hareas]
    rfl
  rw [hany, List.any_eq_true]
  constructor
  · rintro ⟨p, hp, hmeets⟩
    obtain ⟨q, hq, hqb⟩ := (Polygon.meets_iff hx hy).mp hmeets
    exact ⟨q, ⟨_, hareas, p, hp, hq⟩, hqb⟩
  · rintro ⟨q, ⟨shape, hshape, p, hp, hq⟩, hqb⟩
    rw [hareas, Option.some.injEq] at hshape
    subst hshape
    exact ⟨p, hp, (Polygon.meets_iff hx hy).mpr ⟨q, hq, hqb⟩⟩

/-- What meets a box is near it. -/
theorem IsPolygonal.isNear_of_meets (hf : f.IsPolygonal) (hx : box.minX ≤ box.maxX)
    (hy : box.minY ≤ box.maxY) (h : f.meets box = true) : f.isNear box = true := by
  obtain ⟨q, ⟨shape, hshape, p, hp, hq⟩, hqb⟩ := (hf.meets_iff hx hy).mp h
  have hpoints : ∀ v ∈ p.points, v ∈ shape.vertices := fun v hv =>
    List.mem_append_right _ (List.mem_flatMap.mpr ⟨p, hp, hv⟩)
  unfold isNear
  rw [hshape]
  show (match shape.extent? with | some extent => extent.overlaps box | none => false) = true
  cases hextent : shape.extent? with
  | none =>
      -- without points there is nothing to meet
      have hvertices : shape.vertices = [] := Bounds.eq_nil_of_around? hextent
      have hempty : p.points = [] := List.eq_nil_iff_forall_not_mem.mpr fun v hv => by
        have hmem := hpoints v hv
        rw [hvertices] at hmem
        cases hmem
      rw [Polygon.region_eq_empty hempty] at hq
      cases hq
  | some e =>
      have hqe : q ∈ e.region := Polygon.region_subset (fun v hv =>
        Bounds.mem_of_around? hextent (hpoints v hv)) hq
      exact Bounds.overlaps_of_mem hqe hqb

/-- A feature that is a box meets another box exactly where their intervals overlap
along both axes. -/
theorem box_meets_iff {b : Bounds Rat} (hf : f.shape = some (.ofPolygon (.ofBounds b)))
    (hb : b.minX ≤ b.maxX ∧ b.minY ≤ b.maxY)
    (hbox : box.minX ≤ box.maxX ∧ box.minY ≤ box.maxY) :
    (f.region ∩ box.region).Nonempty
      ↔ (b.minX ≤ box.maxX ∧ box.minX ≤ b.maxX) ∧ b.minY ≤ box.maxY ∧ box.minY ≤ b.maxY := by
  have hregion : f.region = b.region := by
    rw [← Polygon.region_ofBounds hb.1 hb.2]
    ext q
    constructor
    · intro ⟨shape, hshape, p, hp, hq⟩
      rw [hf, Option.some.injEq] at hshape
      subst hshape
      rw [List.mem_singleton.mp hp] at hq
      exact hq
    · intro hq
      exact ⟨_, hf, _, List.mem_singleton_self _, hq⟩
  rw [hregion]
  exact Bounds.region_inter_nonempty_iff hb hbox

end Feature

-- ================================================================= lookups

/-- The box of an extent, with its sides in order. -/
def Extent.box (e : Extent Rat) : Bounds Rat := Bounds.ordered ⟨e.minX, e.maxX, e.minY, e.maxY⟩

theorem Extent.box_ordered (e : Extent Rat) :
    e.box.minX ≤ e.box.maxX ∧ e.box.minY ≤ e.box.maxY := by
  unfold box Bounds.ordered
  simp only [Scalar.least_rat, Scalar.greatest_rat]
  exact ⟨min_le_max, min_le_max⟩

/-- The box that is one point. -/
def Point.box (q : Point Rat) : Bounds Rat := ⟨q.x, q.x, q.y, q.y⟩

theorem Point.inter_box_nonempty_iff {q : Point Rat} {region : Set (Point Rat)} :
    (region ∩ q.box.region).Nonempty ↔ q ∈ region := by
  constructor
  · intro ⟨v, hv, hvq⟩
    obtain ⟨⟨hwest, heast⟩, hsouth, hnorth⟩ := Bounds.mem_region.mp hvq
    have hsame : v = q := Point.ext (le_antisymm heast hwest) (le_antisymm hnorth hsouth)
    exact hsame ▸ hv
  · intro hq
    exact ⟨q, hq, Bounds.mem_region.mpr ⟨⟨le_rfl, le_rfl⟩, le_rfl, le_rfl⟩⟩

/-- A cell made to fill an extent, with a file name of its own. -/
def Cell.framed [NumberText Rat] [Elementary Rat] (c : Cell Rat) (freshName : String)
    (e : Extent Rat) : Outcome (Cell Rat) :=
  Cell.filled { c with
    southWest := some ⟨e.minY, e.minX⟩
    northEast := some ⟨e.maxY, e.maxX⟩
    southWestDms := none
    northEastDms := none
    seconds := none
    gridZone := none
    metadata := c.metadata.filter (·.1 != "filename") ++ [("filename", freshName)] }

namespace CellTable

variable {t : CellTable Rat} {box : Bounds Rat}

/-- The index gives the features that are near. -/
theorem nearby_eq (t : CellTable Rat) (box : Bounds Rat) :
    t.nearby box = t.features.filter (·.isNear box) := by
  unfold nearby
  refine List.filter_congr fun f _ => ?_
  unfold Feature.isNear
  cases f.shape.bind (·.extent?) with
  | none => rfl
  | some e => rfl

/-- The index leaves out nothing that meets the box. -/
theorem meeting_eq (hpolygons : ∀ f ∈ t.features, f.IsPolygonal) (hx : box.minX ≤ box.maxX)
    (hy : box.minY ≤ box.maxY) : t.meeting box = t.features.filter (·.meets box) := by
  have hboth : t.meeting box = t.features.filter fun f => f.meets box && f.isNear box := by
    unfold meeting
    rw [nearby_eq, List.filter_filter]
    rfl
  rw [hboth]
  refine List.filter_congr fun f hf => ?_
  cases hmeets : f.meets box with
  | false => rfl
  | true => rw [(hpolygons f hf).isNear_of_meets hx hy hmeets, Bool.and_true]

/-- Of the features that meet a box the first in the order of the table comes first. -/
theorem meeting_of_first (hpolygons : ∀ f ∈ t.features, f.IsPolygonal)
    (hbox : box.minX ≤ box.maxX ∧ box.minY ≤ box.maxY) {f : Feature Rat}
    (h : FirstWith (fun f => (f.region ∩ box.region).Nonempty) t.features f) :
    ∃ rest, t.meeting box = f :: rest := by
  rw [meeting_eq hpolygons hbox.1 hbox.2]
  have hmeets : FirstWith (fun f => f.meets box = true) t.features f :=
    h.congr fun f hf => ((hpolygons f hf).meets_iff hbox.1 hbox.2).symm
  exact hmeets.filter_eq_cons

theorem meeting_of_none (hpolygons : ∀ f ∈ t.features, f.IsPolygonal)
    (hbox : box.minX ≤ box.maxX ∧ box.minY ≤ box.maxY)
    (h : ∀ f ∈ t.features, ¬(f.region ∩ box.region).Nonempty) : t.meeting box = [] := by
  rw [meeting_eq hpolygons hbox.1 hbox.2, List.filter_eq_nil_iff]
  exact fun f hf hmeets => h f hf (((hpolygons f hf).meets_iff hbox.1 hbox.2).mp hmeets)

variable [NumberText Rat] [NumberReading Rat] [Elementary Rat] [Survey Rat]

/-- The answer at a point is the cell of the first feature that meets it. -/
theorem cellAt_of_meeting (q : LatLng Rat) {found : List (Feature Rat)}
    (h : t.meeting (Point.box ⟨q.lng, q.lat⟩) = found) :
    t.cellAt q geographicSrid = match found with
      | [] => .error (.noCellAt (NumberText.shortest q.lat) (NumberText.shortest q.lng))
      | f :: _ => f.cell := by
  unfold Point.box at h
  unfold cellAt toGeographic
  rw [if_pos rfl, Outcome.ok_bind]
  dsimp only
  rw [h]
  cases found with
  | nil => rfl
  | cons f rest => rfl

/-- The answer for an extent is the cell of the first feature that meets it, made to
fill it. -/
theorem cellIn_of_meeting (freshName : String) (e : Extent Rat) {found : List (Feature Rat)}
    (h : t.meeting e.box = found) :
    t.cellIn freshName e geographicSrid = match found with
      | [] => .error (.noCellIn e.text)
      | f :: _ => f.cell >>= fun c => c.framed freshName e := by
  have hfinite : [e.minX, e.minY, e.maxX, e.maxY].any (!Scalar.isFinite ·) = false := rfl
  unfold Extent.box at h
  unfold cellIn toGeographic
  dsimp only
  rw [hfinite, if_neg Bool.false_ne_true, if_pos rfl, if_pos rfl, Outcome.ok_bind, Outcome.ok_bind]
  dsimp only
  rw [h]
  cases found with
  | nil => rfl
  | cons f rest => rfl

variable (hpolygons : ∀ f ∈ t.features, f.IsPolygonal) (q : LatLng Rat) (freshName : String)
  (e : Extent Rat)

include hpolygons in
theorem cellAt_scans :
    (∀ f, FirstWith (fun f => ⟨q.lng, q.lat⟩ ∈ f.region) t.features f →
        t.cellAt q geographicSrid = f.cell)
      ∧ ((∃ e, t.cellAt q geographicSrid = .error e ∧ e.family = .notFound)
        ↔ ∀ f ∈ t.features, ⟨q.lng, q.lat⟩ ∉ f.region) := by
  have hbox : (Point.box ⟨q.lng, q.lat⟩).minX ≤ (Point.box ⟨q.lng, q.lat⟩).maxX
      ∧ (Point.box ⟨q.lng, q.lat⟩).minY ≤ (Point.box ⟨q.lng, q.lat⟩).maxY := ⟨le_rfl, le_rfl⟩
  have hfirst : ∀ f, FirstWith (fun f => ⟨q.lng, q.lat⟩ ∈ f.region) t.features f →
      t.cellAt q geographicSrid = f.cell := by
    intro f hf
    obtain ⟨rest, hrest⟩ := meeting_of_first hpolygons hbox
      (hf.congr fun f _ => Point.inter_box_nonempty_iff.symm)
    exact cellAt_of_meeting q hrest
  refine ⟨hfirst, notFound_iff hfirst (fun hnone => ?_) fun f => f.cell_describes⟩
  have hempty := meeting_of_none hpolygons hbox fun f hf hmeets =>
    hnone f hf (Point.inter_box_nonempty_iff.mp hmeets)
  exact ⟨_, cellAt_of_meeting q hempty, rfl⟩

include hpolygons in
theorem cellIn_scans :
    (∀ f, FirstWith (fun f => (f.region ∩ e.box.region).Nonempty) t.features f →
        t.cellIn freshName e geographicSrid = f.cell >>= fun c => c.framed freshName e)
      ∧ ((∃ cause, t.cellIn freshName e geographicSrid = .error cause ∧ cause.family = .notFound)
        ↔ ∀ f ∈ t.features, ¬(f.region ∩ e.box.region).Nonempty) := by
  have hfirst : ∀ f, FirstWith (fun f => (f.region ∩ e.box.region).Nonempty) t.features f →
      t.cellIn freshName e geographicSrid = f.cell >>= fun c => c.framed freshName e := by
    intro f hf
    obtain ⟨rest, hrest⟩ := meeting_of_first hpolygons e.box_ordered hf
    exact cellIn_of_meeting freshName e hrest
  refine ⟨hfirst, notFound_iff hfirst (fun hnone => ?_) fun f =>
    f.cell_describes.bind fun c => Cell.filled_describes _⟩
  have hempty := meeting_of_none hpolygons e.box_ordered hnone
  exact ⟨_, cellIn_of_meeting freshName e hempty, rfl⟩

/-- A table of polygons answers as a plain scan does, at a point and for an extent:
with the first feature that has a point in common with the question, and with a
report that there is none exactly where no feature has. What the index gives, in
any order, is after the test what a scan without it keeps, and the test is exact;
for boxes it says that the intervals overlap, ends included. -/
theorem place_lookups_scan {t : CellTable Rat} (hpolygons : ∀ f ∈ t.features, f.IsPolygonal) :
    (∀ q : LatLng Rat,
        (∀ f, FirstWith (fun f => ⟨q.lng, q.lat⟩ ∈ f.region) t.features f →
            t.cellAt q geographicSrid = f.cell)
          ∧ ((∃ cause, t.cellAt q geographicSrid = .error cause ∧ cause.family = .notFound)
            ↔ ∀ f ∈ t.features, ⟨q.lng, q.lat⟩ ∉ f.region))
      ∧ (∀ (freshName : String) (e : Extent Rat),
          (∀ f, FirstWith (fun f => (f.region ∩ e.box.region).Nonempty) t.features f →
              t.cellIn freshName e geographicSrid = f.cell >>= fun c => c.framed freshName e)
            ∧ ((∃ cause, t.cellIn freshName e geographicSrid = .error cause
                ∧ cause.family = .notFound)
              ↔ ∀ f ∈ t.features, ¬(f.region ∩ e.box.region).Nonempty))
      ∧ ∀ box : Bounds Rat, box.minX ≤ box.maxX ∧ box.minY ≤ box.maxY →
          (∀ found, Indexes (·.isNear box) t.features found →
              (entriesAt t.features found).filter (·.meets box) = t.meeting box)
            ∧ t.meeting box = t.features.filter (·.meets box)
            ∧ ∀ f ∈ t.features, (f.meets box = true ↔ (f.region ∩ box.region).Nonempty)
              ∧ ∀ b : Bounds Rat, f.shape = some (.ofPolygon (.ofBounds b)) →
                b.minX ≤ b.maxX ∧ b.minY ≤ b.maxY →
                  ((f.region ∩ box.region).Nonempty
                    ↔ (b.minX ≤ box.maxX ∧ box.minX ≤ b.maxX)
                      ∧ b.minY ≤ box.maxY ∧ box.minY ≤ b.maxY) := by
  refine ⟨t.cellAt_scans hpolygons, t.cellIn_scans hpolygons, fun box hbox => ?_⟩
  refine ⟨fun found hfound => ?_, meeting_eq hpolygons hbox.1 hbox.2, fun f hf => ?_⟩
  · rw [entriesAt_eq_filter hfound, ← nearby_eq]
    rfl
  · exact ⟨(hpolygons f hf).meets_iff hbox.1 hbox.2, fun b hb horder =>
      Feature.box_meets_iff hb horder hbox⟩

end CellTable

section
open scoped Coarse

/-- On the border of two sheets the first one in the table answers; the index may
give them the other way round. -/
theorem CellTable.place_lookups_scan_border :
    ∃ (t : CellTable Rat) (a b : Feature Rat), t.features = [a, b]
      ∧ (∀ f ∈ t.features, f.IsPolygonal)
      ∧ (⟨21 / 4, 571 / 10⟩ : Point Rat) ∈ a.region ∧ (⟨21 / 4, 571 / 10⟩ : Point Rat) ∈ b.region
      ∧ t.cellAt ⟨571 / 10, 21 / 4⟩ geographicSrid = a.cell
      ∧ (entriesAt t.features [1, 0]).filter (·.meets (Point.box ⟨21 / 4, 571 / 10⟩))
        = t.meeting (Point.box ⟨21 / 4, 571 / 10⟩) := by
  let a : Feature Rat := Coarse.featureOver "A" ⟨5, 21 / 4, 57, 229 / 4⟩
  let b : Feature Rat := Coarse.featureOver "B" ⟨21 / 4, 11 / 2, 57, 229 / 4⟩
  let t : CellTable Rat := ⟨[a, b], .fiftyThousand⟩
  have hpolygons : ∀ f ∈ t.features, f.IsPolygonal := by
    intro f hf
    rcases List.mem_pair.mp hf with rfl | rfl
    · exact ⟨_, rfl⟩
    · exact ⟨_, rfl⟩
  obtain ⟨hpoint, -, hbox⟩ := place_lookups_scan hpolygons
  obtain ⟨hindex, -, hmeets⟩ := hbox (Point.box ⟨21 / 4, 571 / 10⟩) ⟨le_rfl, le_rfl⟩
  have ha : (⟨21 / 4, 571 / 10⟩ : Point Rat) ∈ a.region := by
    rw [← Point.inter_box_nonempty_iff, (hmeets a (by simp [t])).2 _ rfl (by decide +kernel)]
    decide +kernel
  have hb : (⟨21 / 4, 571 / 10⟩ : Point Rat) ∈ b.region := by
    rw [← Point.inter_box_nonempty_iff, (hmeets b (by simp [t])).2 _ rfl (by decide +kernel)]
    decide +kernel
  refine ⟨t, a, b, rfl, hpolygons, ha, hb, ?_, ?_⟩
  · exact (hpoint ⟨571 / 10, 21 / 4⟩).1 a ⟨[], [b], rfl, ha, fun d hd => by cases hd⟩
  · refine hindex [1, 0] ⟨by decide, fun i => ?_⟩
    have hnearA : a.isNear (Point.box ⟨21 / 4, 571 / 10⟩) = true := by decide +kernel
    have hnearB : b.isNear (Point.box ⟨21 / 4, 571 / 10⟩) = true := by decide +kernel
    match i with
    | 0 => exact iff_of_true (by decide) ⟨a, rfl, hnearA⟩
    | 1 => exact iff_of_true (by decide) ⟨b, rfl, hnearB⟩
    | n + 2 => exact iff_of_false (by simp) fun ⟨_, hd, _⟩ => by cases hd

end

end MapSheets
