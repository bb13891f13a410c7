import MapSheets.Proofs.Cell.Tiling
import MapSheets.Proofs.Plane.Area
import MapSheets.Proofs.Source.Answer

/-
The corners of the answers are in order. A feature that has an area and stores
no corners takes them from its extent, which is then a proper box; a part has
the size of a row and a column, whatever its parent is like. So the cells of
features and their parts are proper (`answer_proper_iff`). A cell that is made
for an extent has the corners of the extent as they come: it is proper if and
only if the extent is, and an extent with its sides exchanged is not refused.
-/

namespace MapSheets

/-- The north-east corner lies north and east of the south-west one. -/
def Cell.Proper (c : Cell Rat) : Prop :=
  ∃ sw ne, c.southWest = some sw ∧ c.northEast = some ne ∧ sw.lat < ne.lat ∧ sw.lng < ne.lng

theorem Cell.proper_iff {c : Cell Rat} {sw ne : LatLng Rat} (hsw : c.southWest = some sw)
    (hne : c.northEast = some ne) : c.Proper ↔ sw.lat < ne.lat ∧ sw.lng < ne.lng := by
  constructor
  · rintro ⟨sw', ne', hsw', hne', horder⟩
    cases hsw.symm.trans hsw'
    cases hne.symm.trans hne'
    exact horder
  · exact fun horder => ⟨sw, ne, hsw, hne, horder⟩

/-- An extent that is asked for has its sides in order. -/
def Query.InOrder : Query Rat → Prop
  | .extent _ e _ => e.minX < e.maxX ∧ e.minY < e.maxY
  | _ => True

theorem Query.inOrder_of_not_asksExtent {q : Query Rat} (h : ¬q.AsksExtent) : q.InOrder := by
  cases q with
  | extent => exact absurd trivial h
  | point => trivial
  | name => trivial

/-- An extent that is asked for is given in longitudes and latitudes. -/
def Query.Geographic {α : Type} : Query α → Prop
  | .extent _ _ srid => srid = geographicSrid
  | _ => True

-- ======================================================== plain features

theorem Row.numberAt_of_missing {α : Type} [Scalar α] [NumberReading α] {r : Row α} {name : String}
    (h : r.entry name = .missing) : r.numberAt name = .ok none := by
  unfold numberAt
  rw [h]
  rfl

namespace Feature

/-- The columns that corners may be stored in. -/
def cornerColumns : List String := ["swlat", "swlng", "nelat", "nelng"]

/-- A feature with an area whose corners are not stored. -/
structure Plain (f : Feature Rat) : Prop where
  area : ∀ s, f.shape = some s → ∃ p ∈ s.areas, 0 < p.area
  cornerless : ∀ name ∈ cornerColumns, f.row.entry name = .missing

/-- A sheet over a proper box is plain. -/
theorem plain_featureOver (id : String) {box : Bounds Rat} (hbox : box.Proper) :
    (Coarse.featureOver id box).Plain := by
  constructor
  case area =>
    rintro s ⟨⟩
    refine ⟨Polygon.ofBounds box, List.mem_singleton_self _, ?_⟩
    rw [Polygon.area_ofBounds hbox]
    exact mul_pos (sub_pos.mpr hbox.width_pos) (sub_pos.mpr hbox.height_pos)
  case cornerless =>
    simp only [cornerColumns, List.forall_mem_cons]
    exact ⟨rfl, rfl, rfl, rfl, nofun⟩

variable [NumberText Rat] [NumberReading Rat] {f : Feature Rat} {sw ne : LatLng Rat}

/-- Corners that are not stored are those of the extent. -/
theorem corners_of_cornerless (hf : ∀ name ∈ cornerColumns, f.row.entry name = .missing)
    (h : f.corners = .ok (sw, ne)) :
    ∃ s b, f.shape = some s ∧ s.extent? = some b ∧ sw = ⟨b.minY, b.minX⟩
      ∧ ne = ⟨b.maxY, b.maxX⟩ := by
  unfold corners at h
  cases hshape : f.shape with
  | none =>
      rw [hshape] at h
      cases h
  | some s =>
      have hnone (name : String) (hname : name ∈ cornerColumns) : f.row.numberAt name = .ok none :=
        Row.numberAt_of_missing (hf name hname)
      rw [hshape, hnone "swlat" (by decide), hnone "swlng" (by decide), hnone "nelat" (by decide),
        hnone "nelng" (by decide)] at h
      dsimp only at h
      cases hextent : s.extent? with
      | none =>
          rw [hextent] at h
          replace h : (do throw (.cornersInvalid (← f.row.textAt idColumn))) = Except.ok (sw, ne) := h
          obtain ⟨_, -, h⟩ := Outcome.bind_eq_ok.mp h
          cases h
      | some b =>
          rw [hextent] at h
          cases h
          exact ⟨s, b, rfl, hextent, rfl, rfl⟩

theorem Plain.corners_order (hf : f.Plain) (h : f.corners = .ok (sw, ne)) :
    sw.lat < ne.lat ∧ sw.lng < ne.lng := by
  obtain ⟨s, b, hshape, hextent, rfl, rfl⟩ := corners_of_cornerless hf.cornerless h
  obtain ⟨p, hp, harea⟩ := hf.area s hshape
  have hb := Shape.extent_proper hextent hp harea
  exact ⟨hb.height_pos, hb.width_pos⟩

end Feature

-- =============================================================== answers

namespace CellTable

section

variable [NumberText Rat] [NumberReading Rat] [Elementary Rat] [Survey Rat] {t : CellTable Rat}
  {division : Option PartMode} {q : Query Rat} {c : Cell Rat}

/-- The answer of a table of plain features is proper, but for a cell that is
asked for by an extent whose sides are not in order. -/
theorem answer_proper_iff (ht : ∀ f ∈ t.features, f.Plain) (hq : q.Geographic)
    (h : (t.provider division).answer q = .ok c) : c.Proper ↔ q.InOrder := by
  cases origin_of_answer h with
  | stored hask hf hcell =>
      obtain ⟨sw, ne, hcorners, hderived, -⟩ := Feature.derived_of_cell hcell
      refine iff_of_true ?_ (Query.inOrder_of_not_asksExtent hask)
      exact (Cell.proper_iff hderived.southWest hderived.northEast).mpr
        ((ht _ hf).corners_order hcorners)
  | part hask hf hparent hpart =>
      obtain ⟨p, q, b, bare, -, hbounds, hbare, -, hfilled⟩ := Cell.exists_bare_of_part hpart
      obtain ⟨hderived, -⟩ := Cell.derived_of_filled hbare hfilled
      obtain ⟨hheight, hwidth⟩ := Parts.spans_of_bounds hbounds
      refine iff_of_true ?_ (Query.inOrder_of_not_asksExtent hask)
      refine (Cell.proper_iff hderived.southWest hderived.northEast).mpr ⟨?_, ?_⟩
      · exact sub_pos.mp (hheight ▸ Parts.side_pos)
      · exact sub_pos.mp (hwidth ▸ Parts.columnWidth_pos p q)
  | @framed _ _ e srid sw ne _ _ hsw hne hbare hfilled =>
      obtain ⟨hderived, -⟩ := Cell.derived_of_filled hbare hfilled
      cases (show srid = geographicSrid from hq)
      obtain ⟨hwest, hsouth⟩ := Prod.mk.inj (Except.ok.inj hsw)
      obtain ⟨heast, hnorth⟩ := Prod.mk.inj (Except.ok.inj hne)
      rw [Cell.proper_iff hderived.southWest hderived.northEast, ← hwest, ← hsouth, ← heast,
        ← hnorth]
      exact and_comm

end

open scoped Coarse

/-- A part of a sheet is proper, and so is a cell for an extent over its middle. -/
theorem answer_proper_part_extent :
    ∃ (t : CellTable Rat) (e : Extent Rat) (seventh framed : Cell Rat), (∀ f ∈ t.features, f.Plain)
      ∧ (t.provider (some .westAligned)).answer (.name ⟨"A", 7⟩) = .ok seventh ∧ seventh.Proper
      ∧ (t.provider none).answer (.extent "middle" e geographicSrid) = .ok framed
      ∧ framed.Proper := by
  let t : CellTable Rat := ⟨[Coarse.featureOver "A" ⟨5, 21 / 4, 57, 229 / 4⟩], .fiftyThousand⟩
  let e : Extent Rat := ⟨51 / 10, 571 / 10, 52 / 10, 572 / 10⟩
  have ht : ∀ f ∈ t.features, f.Plain :=
    List.forall_mem_singleton.mpr (Feature.plain_featureOver "A" ⟨by norm_num, by norm_num⟩)
  have hseventh : ((t.provider (some .westAligned)).answer (.name ⟨"A", 7⟩)).toOption.map
      (·.mdgid) = some ⟨"A", 7⟩ := by
    decide +kernel
  have hframed : ((t.provider none).answer (.extent "middle" e geographicSrid)).toOption.map
      (·.mdgid) = some (.whole "A") := by
    decide +kernel
  obtain ⟨seventh, hseventh, -⟩ := Outcome.ok_of_toOption hseventh
  obtain ⟨framed, hframed, -⟩ := Outcome.ok_of_toOption hframed
  refine ⟨t, e, seventh, framed, ht, hseventh, ?_, hframed, ?_⟩
  · exact (answer_proper_iff ht (by trivial) hseventh).mpr trivial
  · refine (answer_proper_iff ht (by exact rfl) hframed).mpr ⟨?_, ?_⟩
    · norm_num [e]
    · norm_num [e]

/-- An extent with its sides exchanged is answered by a cell with its corners
exchanged. -/
theorem answer_exchanged_extent :
    ∃ (t : CellTable Rat) (e : Extent Rat) (c : Cell Rat), (∀ f ∈ t.features, f.Plain)
      ∧ (t.provider none).answer (.extent "exchanged" e geographicSrid) = .ok c
      ∧ ¬c.Proper := by
  let t : CellTable Rat := ⟨[Coarse.featureOver "A" ⟨5, 21 / 4, 57, 229 / 4⟩], .fiftyThousand⟩
  let e : Extent Rat := ⟨52 / 10, 572 / 10, 51 / 10, 571 / 10⟩
  have ht : ∀ f ∈ t.features, f.Plain :=
    List.forall_mem_singleton.mpr (Feature.plain_featureOver "A" ⟨by norm_num, by norm_num⟩)
  have hanswer : ((t.provider none).answer (.extent "exchanged" e geographicSrid)).toOption.map
      (fun c => (c.southWest, c.northEast))
      = some (some ⟨572 / 10, 52 / 10⟩, some ⟨571 / 10, 51 / 10⟩) := by
    decide +kernel
  obtain ⟨c, hc, hcorners⟩ := Outcome.ok_of_toOption hanswer
  obtain ⟨hsw, hne⟩ := Prod.mk.inj hcorners
  refine ⟨t, e, c, ht, hc, fun hproper => ?_⟩
  have horder := (Cell.proper_iff hsw hne).mp hproper
  norm_num at horder

end CellTable

end MapSheets
