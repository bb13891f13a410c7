import MapSheets.Proofs.Source.NamedLookup

/-
Where the answers of a table come from. A table answers as it stands or divided
into parts, and is asked at a point, by an identifier or for an extent; whatever
way a question takes, its answer is the cell of a feature, a part of such a cell,
or a cell made anew between the corners of the extent (`origin_of_answer`). All
that a lookup can do is in `Origin`; what holds of the answers is shown once for
each of the three origins.

So no answer carries what belongs to other corners (`answer_derived`): parts and
cells made for an extent are filled bare, and the cell of a feature is filled
from the corners that it has.
-/

namespace MapSheets

-- ============================================================== questions

/-- A question to a provider. -/
inductive Query (α : Type) where
  | point (p : LatLng α) (srid : Int)
  | name (m : Mdgid)
  | extent (freshName : String) (e : Extent α) (srid : Int)

/-- The question is for a cell between given corners. -/
def Query.AsksExtent {α : Type} : Query α → Prop
  | extent .. => True
  | _ => False

variable {α : Type} [Scalar α] [NumberText α] [NumberReading α] [Elementary α] [Exact α] [Survey α]

/-- The answer of a provider to a question. -/
def Provider.answer (provider : Provider α) : Query α → Outcome (Cell α)
  | .point p srid => provider.cellAt p srid
  | .name m => provider.cellNamed m
  | .extent freshName e srid => provider.cellIn freshName e srid

namespace CellTable

omit [Scalar α] [NumberText α] [NumberReading α] [Elementary α] [Exact α] [Survey α] in
/-- A table as it stands, or its cells divided into parts. -/
def provider (t : CellTable α) : Option PartMode → Provider α
  | none => .table t
  | some mode => .parts mode (.table t)

-- ================================================================ origins

/-- What the answer to a question is made of. -/
inductive Origin (t : CellTable α) : Option PartMode → Query α → Cell α → Prop where
  | stored {q : Query α} {f : Feature α} {c : Cell α} (hq : ¬q.AsksExtent)
      (hf : f ∈ t.features) (hcell : f.cell = .ok c) : Origin t none q c
  | part {mode : PartMode} {q : Query α} {f : Feature α} {parent c : Cell α} {n : Int}
      (hq : ¬q.AsksExtent) (hf : f ∈ t.features) (hparent : f.cell = .ok parent)
      (hpart : parent.part mode n = .ok c) : Origin t (some mode) q c
  /-- A cell between the corners of an extent, in longitude and latitude. -/
  | framed {division : Option PartMode} {freshName : String} {e : Extent α} {srid : Int}
      {sw ne : LatLng α} {bare c : Cell α}
      (hsw : toGeographic srid e.minX e.minY = .ok (sw.lng, sw.lat))
      (hne : toGeographic srid e.maxX e.maxY = .ok (ne.lng, ne.lat))
      (hbare : bare.Bare sw ne) (hfilled : bare.filled = .ok c) :
      Origin t division (.extent freshName e srid) c

variable {t : CellTable α} {division : Option PartMode} {q : Query α} {c : Cell α}

theorem exists_bare_of_cellIn {freshName : String} {e : Extent α} {srid : Int}
    (h : t.cellIn freshName e srid = .ok c) :
    ∃ sw ne, ∃ bare : Cell α, toGeographic srid e.minX e.minY = .ok (sw.lng, sw.lat)
      ∧ toGeographic srid e.maxX e.maxY = .ok (ne.lng, ne.lat) ∧ bare.Bare sw ne
      ∧ bare.filled = .ok c := by
  unfold cellIn at h
  split at h
  case isTrue => cases h
  case isFalse =>
    obtain ⟨⟨west, south⟩, hsw, h⟩ := Outcome.bind_eq_ok.mp h
    obtain ⟨⟨east, north⟩, hne, h⟩ := Outcome.bind_eq_ok.mp h
    dsimp only at h
    split at h
    case h_1 => cases h
    case h_2 =>
      obtain ⟨cell, -, h⟩ := Outcome.bind_eq_ok.mp h
      exact ⟨⟨south, west⟩, ⟨north, east⟩, _, hsw, hne, ⟨rfl, rfl, rfl, rfl, rfl, rfl⟩, h⟩

/-- Every answer has one of the three origins. -/
theorem origin_of_answer (h : (t.provider division).answer q = .ok c) : t.Origin division q c := by
  cases q with
  | extent freshName e srid =>
      -- parts leave extents to their base, so the question goes to the table
      have hin : t.cellIn freshName e srid = .ok c := by
        cases division with
        | none => exact h
        | some mode => exact h
      obtain ⟨sw, ne, bare, hsw, hne, hbare, hfilled⟩ := exists_bare_of_cellIn hin
      exact .framed hsw hne hbare hfilled
  | point p srid =>
      cases division with
      | none =>
          obtain ⟨f, hf, hcell⟩ := exists_of_cellAt h
          exact .stored not_false hf hcell
      | some mode =>
          obtain ⟨f, hf, parent, n, hparent, hpart⟩ := Provider.exists_parent (.inl ⟨p, srid, h⟩)
          exact .part not_false hf hparent hpart
  | name m =>
      cases division with
      | none =>
          obtain ⟨f, hf, hcell, -⟩ := exists_of_cellNamed h
          exact .stored not_false hf hcell
      | some mode =>
          obtain ⟨f, hf, parent, n, hparent, hpart⟩ := Provider.exists_parent (.inr ⟨m, h⟩)
          exact .part not_false hf hparent hpart

-- ================================================================ derived

/-- Every answer has the zone and the arc lengths of its own corners and nothing
left to fill. The printed corners of a part, or of a cell made for an extent, are
computed from its own; the cell of a feature has those that are stored with
the feature, if all four are, and computed ones otherwise. -/
theorem answer_derived (h : (t.provider division).answer q = .ok c) :
    ∃ sw ne, c.Derived sw ne
      ∧ (q.AsksExtent ∨ division ≠ none → c.DmsDerived sw ne)
      ∧ (¬q.AsksExtent → division = none →
          ∃ f ∈ t.features, f.cell = .ok c ∧ ∃ southWest northEast, f.Prints southWest northEast
            ∧ (Cell.DmsGiven southWest northEast →
                c.southWestDms = some southWest ∧ c.northEastDms = some northEast)
            ∧ (¬Cell.DmsGiven southWest northEast → c.DmsDerived sw ne)) := by
  cases origin_of_answer h with
  | @stored _ f _ hq hf hcell =>
      obtain ⟨sw, ne, -, hderived, hdms⟩ := Feature.derived_of_cell hcell
      refine ⟨sw, ne, hderived, ?_, fun _ _ => ⟨f, hf, hcell, hdms⟩⟩
      rintro (hextent | hparts)
      · exact absurd hextent hq
      · exact absurd rfl hparts
  | part hq hf hparent hpart =>
      obtain ⟨_, _, b, bare, -, -, hbare, -, hfilled⟩ := Cell.exists_bare_of_part hpart
      obtain ⟨hderived, hdms⟩ := Cell.derived_of_filled hbare hfilled
      exact ⟨_, _, hderived, fun _ => hdms, fun _ hnone => nomatch hnone⟩
  | framed hsw hne hbare hfilled =>
      obtain ⟨hderived, hdms⟩ := Cell.derived_of_filled hbare hfilled
      exact ⟨_, _, hderived, fun _ => hdms, fun hnot => absurd trivial hnot⟩

open scoped Coarse in
/-- A sheet that is stored with rounded texts for its corners has these texts, and
its part in the first row and the seventh column has texts of its own. -/
theorem answer_derived_stored_dms :
    ∃ (t : CellTable Rat) (sheet seventh : Cell Rat),
      (t.provider none).answer (.name (.whole "A")) = .ok sheet
      ∧ (t.provider (some .eastAligned)).answer (.name ⟨"A", 7⟩) = .ok seventh
      ∧ sheet.southWestDms = some ⟨"57 N", "5 E"⟩
      ∧ (∃ sw ne, sheet.Derived sw ne)
      ∧ seventh.southWestDms = some ⟨"57°13'30.000000\"N", "5°18'0.000000\"E"⟩
      ∧ ∃ sw ne, seventh.Derived sw ne ∧ seventh.DmsDerived sw ne := by
  let f := Coarse.featureOver "A" ⟨5, 11 / 2, 57, 229 / 4⟩
  let t : CellTable Rat := ⟨[{ f with row := f.row ++ [("swlat_dms", .text "57 N"),
    ("swlng_dms", .text "5 E"), ("nelat_dms", .text "57 N"), ("nelng_dms", .text "5 E")] }],
    .fiftyThousand⟩
  have hsheet : ((t.provider none).answer (.name (.whole "A"))).toOption.map (·.southWestDms)
      = some (some ⟨"57 N", "5 E"⟩) := by
    decide +kernel
  have hseventh : ((t.provider (some .eastAligned)).answer (.name ⟨"A", 7⟩)).toOption.map
      (·.southWestDms) = some (some ⟨"57°13'30.000000\"N", "5°18'0.000000\"E"⟩) := by
    decide +kernel
  obtain ⟨sheet, hsheet, htexts⟩ := Outcome.ok_of_toOption hsheet
  obtain ⟨seventh, hseventh, hcomputed⟩ := Outcome.ok_of_toOption hseventh
  obtain ⟨_, _, hwhole, -⟩ := answer_derived hsheet
  obtain ⟨_, _, hpart, hdms, -⟩ := answer_derived hseventh
  exact ⟨t, sheet, seventh, hsheet, hseventh, htexts, ⟨_, _, hwhole⟩, hcomputed, _, _, hpart,
    hdms (.inr nofun)⟩

end CellTable

end MapSheets
