import MapSheets.Proofs.Cell.Derived
import MapSheets.Source.Feature

/-
The cell that a feature describes. It is made bare from the corners of the
feature, with the printed corners that its row stores, and stands under the
text of its column (`exists_make_of_cell`). So its zone and its arc lengths
follow from its corners always, and its printed corners do where the row does
not store all four (`derived_of_cell`).
-/

namespace MapSheets.Feature

variable {α : Type} [Scalar α] [NumberText α]

/-- The row stores these printed corners; a column that is missing stores the
empty text. -/
structure Prints (f : Feature α) (southWest northEast : LatLng String) : Prop where
  southLat : f.row.textAt "swlat_dms" = .ok southWest.lat
  westLng : f.row.textAt "swlng_dms" = .ok southWest.lng
  northLat : f.row.textAt "nelat_dms" = .ok northEast.lat
  eastLng : f.row.textAt "nelng_dms" = .ok northEast.lng

variable [NumberReading α] [Elementary α] {f : Feature α} {c : Cell α}

theorem exists_make_of_cell (h : f.cell = .ok c) :
    ∃ sw ne, ∃ bare made : Cell α, ∃ id p q, f.corners = .ok (sw, ne) ∧ bare.Bare sw ne
      ∧ f.row.textAt idColumn = .ok id ∧ f.Prints p q ∧ bare.make id p q = .ok made
      ∧ c = { made with mdgid := .whole id } := by
  unfold cell at h
  obtain ⟨⟨sw, ne⟩, hcorners, h⟩ := Outcome.bind_eq_ok.mp h
  -- the edit and the metadata stand before the identifier
  iterate 3 obtain ⟨_, -, h⟩ := Outcome.bind_eq_ok.mp h
  obtain ⟨id, hid, h⟩ := Outcome.bind_eq_ok.mp h
  -- the columns that are copied
  iterate 6 obtain ⟨_, -, h⟩ := Outcome.bind_eq_ok.mp h
  obtain ⟨southLat, hsouth, h⟩ := Outcome.bind_eq_ok.mp h
  obtain ⟨westLng, hwest, h⟩ := Outcome.bind_eq_ok.mp h
  obtain ⟨northLat, hnorth, h⟩ := Outcome.bind_eq_ok.mp h
  obtain ⟨eastLng, heast, h⟩ := Outcome.bind_eq_ok.mp h
  obtain ⟨made, hmade, h⟩ := Outcome.bind_eq_ok.mp h
  cases h
  exact ⟨sw, ne, _, made, id, ⟨southLat, westLng⟩, ⟨northLat, eastLng⟩, hcorners,
    ⟨rfl, rfl, rfl, rfl, rfl, rfl⟩, hid, ⟨hsouth, hwest, hnorth, heast⟩, hmade, rfl⟩

/-- The cell of a feature is a whole one, under the text of its column. -/
theorem mdgid_of_cell (h : f.cell = .ok c) {id : String} (hid : f.row.textAt idColumn = .ok id) :
    c.mdgid = .whole id := by
  obtain ⟨_, _, _, _, id', _, _, -, -, hread, -, -, rfl⟩ := exists_make_of_cell h
  cases hid.symm.trans hread
  rfl

/-- The cell of a feature carries the zone and the arc lengths of its corners.
Its printed corners are those of the row, if the row stores all four, and are
computed otherwise. -/
theorem derived_of_cell (h : f.cell = .ok c) :
    ∃ sw ne, f.corners = .ok (sw, ne) ∧ c.Derived sw ne
      ∧ ∃ p q, f.Prints p q
        ∧ (Cell.DmsGiven p q → c.southWestDms = some p ∧ c.northEastDms = some q)
        ∧ (¬Cell.DmsGiven p q → c.DmsDerived sw ne) := by
  obtain ⟨sw, ne, bare, made, id, p, q, hcorners, hbare, -, hprints, hmade, rfl⟩ :=
    exists_make_of_cell h
  obtain ⟨hderived, hgiven, hmissing⟩ := Cell.derived_of_make hbare hmade
  refine ⟨sw, ne, hcorners, hderived.withMdgid _, p, q, hprints, hgiven, fun hnot => ?_⟩
  exact ⟨(hmissing hnot).southWest, (hmissing hnot).northEast⟩

end MapSheets.Feature
