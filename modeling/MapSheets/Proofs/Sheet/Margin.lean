import MapSheets.Proofs.Cell.Filling
import MapSheets.Proofs.Geodesy.Coarse
import MapSheets.Proofs.Geodesy.ZoneBox
import MapSheets.Proofs.Sheet.Context
import MapSheets.Proofs.Trellis.Corners

/-
Zone and hemisphere in the margin of a sheet. They are derived from the
north-east corner of the cell, while the trellis is laid out in the zone of
its center. For a cell whose inside lies in one zone and on one side of the
equator the trellis always lies in that zone; the margin names it exactly
where the corner has its number, and names the side of the cell exactly where
the north edge is not the equator (`printed_zone_iff`).
-/

namespace MapSheets

/-- The letters of the hemispheres differ. -/
theorem Hemisphere.letter_inj {a b : Hemisphere} : a.letter = b.letter ↔ a = b := by
  cases a <;> cases b <;> decide

/-- The margin names a strip for the number of that strip only, apart from the
first strip, which stands for zones without a number too. -/
theorem Zone.printed_named_iff {n zone : Int} (hzone : 1 ≤ zone ∧ zone ≤ 60)
    (hfirst : zone = 1 → 1 ≤ n ∧ n ≤ 60) :
    (named n).label?.getD SheetContext.standardZone = Decimal.padded 2 zone.toNat ↔ n = zone := by
  rw [label?_named]
  by_cases hn : 1 ≤ n ∧ n ≤ 60
  · rw [if_pos hn, Option.getD_some]
    constructor
    · intro h
      have := padded_two_inj (by omega) (by omega) h
      omega
    · intro h
      rw [h]
  · rw [if_neg hn, Option.getD_none]
    constructor
    · intro h
      have := padded_two_inj (m := 1) (by decide) (by omega) h
      exact absurd (hfirst (by omega)) hn
    · intro h
      exact absurd (h ▸ hzone) hn

namespace Cell

section
variable [NumberText Rat] [Elementary Rat] {bare c : Cell Rat} {id : String}
  {southWest northEast : LatLng String} {sw ne : LatLng Rat}

/-- Zone and side of a cell that was made without them are those of its
north-east corner. -/
theorem gridZone_of_make_northEast (h : bare.make id southWest northEast = .ok c)
    (hne : bare.northEast = some ne) (hnone : bare.gridZone = none) {n : Int}
    (hn : Zone.numberAt ne.lat ne.lng = .ok n) :
    c.gridZone = some ⟨Zone.named n, Hemisphere.ofLat ne.lat⟩ := by
  have hzone := gridZone_of_make h
  rw [hne, hnone] at hzone
  have hsupplied : supplied GridZone.ofPoint (some ne) none
      = .ok (some ⟨Zone.named n, Hemisphere.ofLat ne.lat⟩) := by
    show (some <$> GridZone.ofPoint ne) = _
    rw [gridZone_eq_named hn]
    rfl
  rw [hsupplied] at hzone
  injection hzone with hzone
  exact hzone.symm

variable [Survey Rat] {zone : Int} {side : Hemisphere}

/-- A cell whose inside lies in one zone and on one side of the equator has
its trellis in that zone. Its margin names that zone exactly where the
north-east corner has the number of it, which off the latitudes of widened
zones is wherever the east edge is not the end of the zone, and it names the
side exactly where the north edge is not the equator. -/
theorem printed_zone_iff (hmake : bare.make id southWest northEast = .ok c)
    (hsw : bare.southWest = some sw) (hne : bare.northEast = some ne)
    (hnone : bare.gridZone = none) (hbox : Zone.Box sw ne zone side) :
    (∀ ellipsoid spacing t, Trellis.ofCell ellipsoid spacing c = .ok t →
        t.zone = zone ∧ t.corners.InZone zone)
      ∧ ∀ s ctx, SheetContext.ofCell c s = .ok ctx →
          (ctx.zone = Decimal.padded 2 zone.toNat ↔ Zone.numberAt ne.lat ne.lng = .ok zone)
          ∧ (¬(56 ≤ ne.lat ∧ ne.lat ≤ 64) → ¬(72 ≤ ne.lat ∧ ne.lat ≤ 84) →
              (ctx.zone = Decimal.padded 2 zone.toNat ↔ ne.lng ≠ 6 * (zone : Rat) - 180))
          ∧ (ctx.hemisphere = side.letter ↔ ne.lat ≠ 0) := by
  obtain ⟨hcsw, hcne⟩ := corners_of_make hmake
  rw [hsw] at hcsw
  rw [hne] at hcne
  constructor
  · intro ellipsoid spacing t ht
    obtain ⟨hcenter, hcorners⟩ := Trellis.ofCell_zone hcsw hcne ht
    rw [hbox.number_center] at hcenter
    injection hcenter with hcenter
    exact ⟨hcenter.symm, hcenter ▸ hcorners⟩
  · intro s ctx hctx
    obtain ⟨n, hn⟩ := Zone.numberAt_rat_isOk ne.lat ne.lng
    have hgrid := gridZone_of_make_northEast hmake hne hnone hn
    have hzone : ctx.zone = (Zone.named n).label?.getD SheetContext.standardZone := by
      rw [(SheetContext.printed_of_ofCell hctx).copied]
      unfold Cell.zone
      rw [hgrid]
      rfl
    have hside : ctx.hemisphere = (Hemisphere.ofLat ne.lat).letter := by
      rw [(SheetContext.printed_of_ofCell hctx).copied]
      unfold Cell.hemisphere
      rw [hgrid]
      rfl
    have hprinted :
        ctx.zone = Decimal.padded 2 zone.toNat ↔ Zone.numberAt ne.lat ne.lng = .ok zone := by
      rw [hzone, hn, Except.ok.injEq]
      refine Zone.printed_named_iff hbox.range fun hfirst => ?_
      subst hfirst
      exact hbox.northEast_of_first hn
    refine ⟨hprinted, fun hnorway hsvalbard => ?_, ?_⟩
    · rw [hprinted, hbox.number_northEast_iff hnorway hsvalbard]
    · rw [hside, Hemisphere.letter_inj, hbox.side_northEast_iff]

end

open scoped Coarse in
/-- A cell south of the equator and west of the sixth meridian, up to both: its
trellis lies in zone 31, its margin names another zone and the other side. -/
theorem printed_zone_at_equator :
    Zone.Box ⟨-1 / 4, 23 / 4⟩ ⟨0, 6⟩ 31 .south
      ∧ ∃ (bare c : Cell Rat) (t : Trellis Rat) (ctx : SheetContext Rat),
        bare = { mdgid := .whole "", southWest := some ⟨-1 / 4, 23 / 4⟩, northEast := some ⟨0, 6⟩ }
        ∧ bare.make "A" ⟨"", ""⟩ ⟨"", ""⟩ = .ok c
        ∧ Trellis.ofCell .standard .thousand c = .ok t
        ∧ SheetContext.ofCell c { name := "50k" } = .ok ctx
        ∧ (t.zone = 31 ∧ t.corners.InZone 31)
        ∧ ctx.zone ≠ Decimal.padded 2 31 ∧ ctx.hemisphere ≠ Hemisphere.south.letter := by
  let bare : Cell Rat :=
    { mdgid := .whole "", southWest := some ⟨-1 / 4, 23 / 4⟩, northEast := some ⟨0, 6⟩ }
  have hdrawn : (do
      let c ← bare.make "A" ⟨"", ""⟩ ⟨"", ""⟩
      let t ← Trellis.ofCell .standard .thousand c
      let ctx ← SheetContext.ofCell c { name := "50k" }
      return (t, ctx) : Outcome (Trellis Rat × SheetContext Rat)).toOption.map (fun _ => ())
        = some () := by
    decide +kernel
  obtain ⟨_, hdrawn, -⟩ := Outcome.ok_of_toOption hdrawn
  obtain ⟨c, hmake, hdrawn⟩ := Outcome.bind_eq_ok.mp hdrawn
  obtain ⟨t, ht, hdrawn⟩ := Outcome.bind_eq_ok.mp hdrawn
  obtain ⟨ctx, hctx, -⟩ := Outcome.bind_eq_ok.mp hdrawn
  have hbox : Zone.Box ⟨-1 / 4, 23 / 4⟩ ⟨0, 6⟩ 31 .south :=
    Zone.Box.of_strip (by norm_num) (by norm_num) (by decide) (by norm_num) (by norm_num)
      ⟨by norm_num, by norm_num⟩ (Or.inl ⟨rfl, le_refl _⟩)
  obtain ⟨hzone, hmargin⟩ := printed_zone_iff hmake rfl rfl rfl hbox
  obtain ⟨-, hnumber, hside⟩ := hmargin _ ctx hctx
  refine ⟨hbox, bare, c, t, ctx, rfl, hmake, ht, hctx, hzone _ _ t ht, fun h => ?_, fun h => ?_⟩
  · exact (hnumber (by norm_num) (by norm_num)).mp h (by norm_num)
  · exact hside.mp h rfl

end Cell

end MapSheets
