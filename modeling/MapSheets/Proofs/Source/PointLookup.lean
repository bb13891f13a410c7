import MapSheets.Proofs.Cell.Part
import MapSheets.Proofs.Cell.Tiling
import MapSheets.Proofs.Geodesy.Coarse
import MapSheets.Source.Provider

/-
Point lookups among the parts of a base. The base answers for closed cells,
so it returns a parent also for the points of its south and its east border;
there a point has row or column ten, and the number that follows from them
is not that of a part that holds it. The lookup answers with a cell around
the point exactly off these two borders (`cellAt_parts_covers_iff`): on the
south border it is refused, on the east border it goes on to the first part
of the next row.
-/

namespace MapSheets

namespace Cell

open Parts

/-- The closed box of a cell holds a point; without corners it holds none. -/
def Covers (c : Cell Rat) (p : LatLng Rat) : Prop :=
  ∃ sw ne, c.southWest = some sw ∧ c.northEast = some ne
    ∧ (sw.lat ≤ p.lat ∧ p.lat ≤ ne.lat) ∧ sw.lng ≤ p.lng ∧ p.lng ≤ ne.lng

variable [NumberText Rat] [Elementary Rat] {parent : Cell Rat} {sw ne : LatLng Rat}

/-- On the south border the part that a point leads to is refused. -/
theorem part_southBorder (parent : Cell Rat) {p : LatLng Rat} (mode : PartMode)
    (hh : ne.lat - sw.lat = 1 / 4) (hw : 1 / 40 < ne.lng - sw.lng) (hlat : p.lat = sw.lat)
    (hlng : sw.lng ≤ p.lng) :
    ∃ n, last < n
      ∧ parent.part mode (10 * rowAt ne p + columnAt sw ne p + 1) = .error (.partOutOfRange n) := by
  have hrow := rowAt_southBorder hh hlat
  have hcol : 0 ≤ columnAt sw ne p := by
    unfold columnAt
    exact Int.floor_nonneg.mpr (div_nonneg (by linarith) (by linarith))
  have hlast : last < 10 * rowAt ne p + columnAt sw ne p + 1 := by
    unfold last
    omega
  exact ⟨_, hlast, part_of_last_lt hlast⟩

/-- On the east border a point leads to the first part of the next row, which
lies at the west edge, or beyond the last part. -/
theorem part_eastBorder {p : LatLng Rat} {c : Cell Rat} (mode : PartMode)
    (hsw : parent.southWest = some sw) (hne : parent.northEast = some ne)
    (hh : ne.lat - sw.lat = 1 / 4) (hw : 1 / 40 < ne.lng - sw.lng)
    (hlat : sw.lat < p.lat ∧ p.lat ≤ ne.lat) (hlng : p.lng = ne.lng)
    (hc : parent.part mode (10 * rowAt ne p + columnAt sw ne p + 1) = .ok c) :
    ¬c.Covers p := by
  have hcol := columnAt_eastBorder hw hlng
  have hrow := rowAt_range hh hlat.1 hlat.2
  by_cases hlast : rowAt ne p = 9
  · rw [part_of_last_lt (by unfold last; omega)] at hc
    cases hc
  · have hb : Parts.bounds mode sw ne (10 * (rowAt ne p + 1) + 0 + 1)
        = .ok (square sw ne (rowAt ne p + 1) 0) := bounds_square mode hw (by omega) (by omega)
    obtain ⟨c', hc', -, hcsw, hcne⟩ := exists_part hsw hne (by omega) hb
    rw [show 10 * rowAt ne p + columnAt sw ne p + 1 = 10 * (rowAt ne p + 1) + 0 + 1 by omega,
      hc'] at hc
    injection hc with hc
    subst hc
    rintro ⟨_, ne', -, hne', -, -, heast⟩
    rw [hcne] at hne'
    injection hne' with hne'
    rw [← hne', hlng] at heast
    unfold square at heast
    push_cast at heast
    linarith

end Cell

namespace Provider

open Parts

section
variable [NumberText Rat] [NumberReading Rat] [Elementary Rat] [Survey Rat]

/-- A lookup among parts asks for the part of the row and column of the point. -/
theorem cellAt_parts_eq {base : Provider Rat} {srid : Int} {q p : LatLng Rat}
    {parent : Cell Rat} {sw ne : LatLng Rat} (mode : PartMode)
    (hbase : base.cellAt q srid = .ok parent)
    (hq : toGeographic srid q.lng q.lat = .ok (p.lng, p.lat))
    (hsw : parent.southWest = some sw) (hne : parent.northEast = some ne)
    (hw : 1 / 40 < ne.lng - sw.lng) (hlat : p.lat ≤ ne.lat) (hlng : sw.lng ≤ p.lng) :
    (parts mode base).cellAt q srid
      = parent.part mode (10 * rowAt ne p + columnAt sw ne p + 1) := by
  have hnumber : numberAt sw ne ⟨p.lat, p.lng⟩
      = .ok (10 * rowAt ne p + columnAt sw ne p + 1) := numberAt_eq hw hlat hlng
  rw [cellAt, hbase]
  show (do let (lng, lat) ← toGeographic srid q.lng q.lat; _) = _
  rw [hq]
  show (do let (southWest, northEast) ← parent.dividedCorners; _) = _
  unfold Cell.dividedCorners
  rw [hsw, hne]
  show (do let number ← (Outcome.ofFault (numberAt sw ne ⟨p.lat, p.lng⟩) : Outcome Int); _) = _
  rw [hnumber]
  rfl

/-- A lookup among the parts of a base answers with a cell around the point
exactly where the point lies neither on the south nor on the east border of
the parent; on the south border it is refused. -/
theorem cellAt_parts_covers_iff {base : Provider Rat} {srid : Int} {q p : LatLng Rat}
    {parent : Cell Rat} {sw ne : LatLng Rat} (mode : PartMode)
    (hbase : base.cellAt q srid = .ok parent)
    (hq : toGeographic srid q.lng q.lat = .ok (p.lng, p.lat))
    (hsw : parent.southWest = some sw) (hne : parent.northEast = some ne)
    (hh : ne.lat - sw.lat = 1 / 4) (hw : 1 / 40 < ne.lng - sw.lng) (hp : parent.Covers p) :
    ((∃ c, (parts mode base).cellAt q srid = .ok c ∧ c.Covers p)
        ↔ sw.lat < p.lat ∧ p.lng < ne.lng)
      ∧ (p.lat = sw.lat →
          ∃ n, last < n ∧ (parts mode base).cellAt q srid = .error (.partOutOfRange n)) := by
  obtain ⟨sw', ne', hsw', hne', hlat, hlng⟩ := hp
  rw [hsw] at hsw'
  rw [hne] at hne'
  cases hsw'
  cases hne'
  rw [cellAt_parts_eq mode hbase hq hsw hne hw hlat.2 hlng.1]
  refine ⟨?_, fun hsouth => Cell.part_southBorder parent mode hh hw hsouth hlng.1⟩
  constructor
  · rintro ⟨c, hc, hcovers⟩
    have hsouth : sw.lat < p.lat := by
      refine lt_of_le_of_ne hlat.1 fun hborder => ?_
      obtain ⟨n, -, hn⟩ := Cell.part_southBorder parent mode hh hw hborder.symm hlng.1
      rw [hn] at hc
      cases hc
    refine ⟨hsouth, lt_of_le_of_ne hlng.2 fun hborder => ?_⟩
    exact Cell.part_eastBorder mode hsw hne hh hw ⟨hsouth, hlat.2⟩ hborder hc hcovers
  · rintro ⟨hsouth, heast⟩
    have hrow := rowAt_range hh hsouth hlat.2
    have hcol := columnAt_range hlng.1 heast
    obtain ⟨c, hc, -, hcsw, hcne⟩ :=
      Cell.exists_part hsw hne (by omega) (bounds_square mode hw hrow hcol)
    have hholds := (holds_square_iff hw (p := p)).mpr ⟨rfl, rfl⟩
    exact ⟨c, hc, _, _, hcsw, hcne, ⟨hholds.1.1.le, hholds.1.2⟩, hholds.2.1, hholds.2.2.le⟩

end

open scoped Coarse in
/-- A table finds its only sheet at a point of the east border and at one of
the south border; a lookup among the parts finds neither point. -/
theorem cellAt_parts_misses_border :
    ∃ (base : Provider Rat) (east south : LatLng Rat), ∀ p ∈ [east, south],
      (∃ parent, base.cellAt p 4326 = .ok parent ∧ parent.Covers p)
      ∧ ¬∃ c, (parts .eastAligned base).cellAt p 4326 = .ok c ∧ c.Covers p := by
  refine ⟨Coarse.tableOver ⟨5, 25 / 4, 57, 229 / 4⟩, ⟨1431 / 25, 25 / 4⟩, ⟨57, 11 / 2⟩, ?_⟩
  intro p hp
  have hbase : ((Coarse.tableOver ⟨5, 25 / 4, 57, 229 / 4⟩).cellAt p 4326).toOption.map
      (fun c => (c.southWest, c.northEast)) = some (some ⟨57, 5⟩, some ⟨229 / 4, 25 / 4⟩) := by
    revert p
    decide +kernel
  have hborder : ¬(57 < p.lat ∧ p.lng < 25 / 4)
      ∧ (57 ≤ p.lat ∧ p.lat ≤ 229 / 4) ∧ 5 ≤ p.lng ∧ p.lng ≤ 25 / 4 := by
    revert p
    decide +kernel
  obtain ⟨parent, hparent, hcorners⟩ := Outcome.ok_of_toOption hbase
  obtain ⟨hsw, hne⟩ := Prod.mk.inj hcorners
  obtain ⟨hmissed, hinside⟩ := hborder
  have hcovers : parent.Covers p := ⟨_, _, hsw, hne, hinside⟩
  refine ⟨⟨parent, hparent, hcovers⟩, ?_⟩
  rw [(cellAt_parts_covers_iff .eastAligned hparent rfl hsw hne (by norm_num)
    (by norm_num) hcovers).1]
  exact hmissed

end Provider

end MapSheets
