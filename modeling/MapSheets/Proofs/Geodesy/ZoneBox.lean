import MapSheets.Cell.Basic
import MapSheets.Proofs.Geodesy.Zone

/-
Boxes whose inside lies in one zone and on one side of the equator. What
holds inside holds at the center of the box, and not always at its corners:
the north-east corner is on two edges that zones and hemispheres do not count
as theirs. It has the number of the inside unless the east edge is the end of
the zone (`number_northEast_iff`), and the side of the inside unless the north
edge is the equator (`side_northEast_iff`).
-/

namespace MapSheets.Zone

/-- A point strictly between two corners. -/
def Inside (sw ne p : LatLng Rat) : Prop :=
  (sw.lat < p.lat ∧ p.lat < ne.lat) ∧ sw.lng < p.lng ∧ p.lng < ne.lng

/-- A box that is not empty, with all of its inside in one strip or widened
zone and on one side of the equator. -/
structure Box (sw ne : LatLng Rat) (zone : Int) (side : Hemisphere) : Prop where
  south_lt_north : sw.lat < ne.lat
  west_lt_east : sw.lng < ne.lng
  range : 1 ≤ zone ∧ zone ≤ 60
  number : ∀ p, Inside sw ne p → numberAt p.lat p.lng = .ok zone
  side : ∀ p, Inside sw ne p → Hemisphere.ofLat p.lat = side

namespace Box

variable {sw ne : LatLng Rat} {zone : Int} {side : Hemisphere}

/-- Every box within one strip and on one side of the equator is such a box
between the polar region of the south and the latitudes of widened zones. -/
theorem of_strip (hlat : sw.lat < ne.lat) (hlng : sw.lng < ne.lng) (hrange : 1 ≤ zone ∧ zone ≤ 60)
    (hlow : -80 ≤ sw.lat) (hhigh : ne.lat ≤ 56)
    (hstrip : 6 * (zone : Rat) - 186 ≤ sw.lng ∧ ne.lng ≤ 6 * (zone : Rat) - 180)
    (hside : (side = .south ∧ ne.lat ≤ 0) ∨ (side = .north ∧ 0 ≤ sw.lat)) :
    Box sw ne zone side := by
  refine ⟨hlat, hlng, hrange, ?_, ?_⟩
  · rintro p ⟨⟨hsouth, hnorth⟩, hwest, heast⟩
    have hpolar : ¬Polar p.lat := by
      rintro (⟨_, _⟩ | ⟨_, _⟩) <;> linarith
    have hplain : Plain p.lat := by
      constructor <;> rintro ⟨_, _⟩ <;> linarith
    have hzone : strip p.lng = zone := strip_eq_iff.mpr ⟨by linarith, by linarith⟩
    rw [numberAt_of_plain hpolar hplain, hzone]
  · rintro p ⟨⟨hsouth, hnorth⟩, -⟩
    unfold Hemisphere.ofLat
    rcases hside with ⟨rfl, hequator⟩ | ⟨rfl, hequator⟩
    · rw [if_pos (hnorth.trans_le hequator)]
    · rw [if_neg (hequator.trans hsouth.le).not_gt]

/-- The center of a box lies inside. -/
theorem number_center (h : Box sw ne zone side) :
    numberAt ((ne.lat + sw.lat) / 2) ((sw.lng + ne.lng) / 2) = .ok zone := by
  have hlat := h.south_lt_north
  have hlng := h.west_lt_east
  refine h.number ⟨(ne.lat + sw.lat) / 2, (sw.lng + ne.lng) / 2⟩ ⟨⟨?_, ?_⟩, ?_, ?_⟩
  all_goals
    show _ < _
    linarith

/-- No latitude inside is a polar one. -/
theorem not_polar_of_inside (h : Box sw ne zone side) {lat : Rat}
    (hlat : sw.lat < lat ∧ lat < ne.lat) : ¬Polar lat := by
  intro hpolar
  obtain ⟨lng, hlng⟩ := exists_between h.west_lt_east
  have hzone := h.number ⟨lat, lng⟩ ⟨hlat, hlng⟩
  rw [numberAt_of_polar hpolar] at hzone
  injection hzone with hzone
  have hrange := h.range
  omega

/-- There are latitudes inside above every bound below the north edge. -/
theorem exists_inside_above (h : Box sw ne zone side) {low : Rat} (hlow : low < ne.lat) :
    ∃ lat, low < lat ∧ sw.lat < lat ∧ lat < ne.lat := by
  obtain ⟨lat, hlat, hne⟩ := exists_between (max_lt h.south_lt_north hlow)
  exact ⟨lat, lt_of_le_of_lt (le_max_right _ _) hlat, lt_of_le_of_lt (le_max_left _ _) hlat, hne⟩

/-- The polar regions are open, so the north edge is not in one either. -/
theorem not_polar_north (h : Box sw ne zone side) : ¬Polar ne.lat := by
  rintro (⟨hlow, hhigh⟩ | ⟨hlow, hhigh⟩)
  · obtain ⟨lat, hlat, hsouth, hne⟩ := h.exists_inside_above hlow
    exact h.not_polar_of_inside ⟨hsouth, hne⟩ (Or.inl ⟨hlat, hne.trans hhigh⟩)
  · obtain ⟨lat, hlat, hsouth, hne⟩ := h.exists_inside_above hlow
    exact h.not_polar_of_inside ⟨hsouth, hne⟩ (Or.inr ⟨hlat, hne.trans hhigh⟩)

/-- Below a plain north edge that is not the end of such latitudes there are
plain latitudes inside. -/
theorem exists_plain_inside (h : Box sw ne zone side) (hnorway : ¬(56 ≤ ne.lat ∧ ne.lat ≤ 64))
    (hsvalbard : ¬(72 ≤ ne.lat ∧ ne.lat ≤ 84)) :
    ∃ lat, (sw.lat < lat ∧ lat < ne.lat) ∧ Plain lat := by
  -- a bound below the edge with plain latitudes only in between
  obtain ⟨low, hlow, hplain⟩ :
      ∃ low, low < ne.lat ∧ ∀ x, low < x → x < ne.lat → Plain x := by
    unfold Plain
    rcases lt_or_ge ne.lat 56 with h56 | h56
    · exact ⟨sw.lat, h.south_lt_north, fun x _ hx => by constructor <;> rintro ⟨_, _⟩ <;> linarith⟩
    rcases lt_or_ge 84 ne.lat with h84 | h84
    · exact ⟨84, h84, fun x hx _ => by constructor <;> rintro ⟨_, _⟩ <;> linarith⟩
    have h64 : 64 < ne.lat := not_le.mp fun hle => hnorway ⟨h56, hle⟩
    have h72 : ne.lat < 72 := not_le.mp fun hle => hsvalbard ⟨hle, h84⟩
    exact ⟨64, h64, fun x _ _ => by constructor <;> rintro ⟨_, _⟩ <;> linarith⟩
  obtain ⟨lat, hlat, hsouth, hne⟩ := h.exists_inside_above hlow
  exact ⟨lat, ⟨hsouth, hne⟩, hplain lat hlat hne⟩

/-- Off the latitudes of the widened zones the north-east corner has the
number of the inside unless the east edge is the end of the zone. -/
theorem number_northEast_iff (h : Box sw ne zone side) (hnorway : ¬(56 ≤ ne.lat ∧ ne.lat ≤ 64))
    (hsvalbard : ¬(72 ≤ ne.lat ∧ ne.lat ≤ 84)) :
    numberAt ne.lat ne.lng = .ok zone ↔ ne.lng ≠ 6 * (zone : Rat) - 180 := by
  obtain ⟨lat, hlat, hplain⟩ := h.exists_plain_inside hnorway hsvalbard
  have hstrip : ∀ x, sw.lng < x → x < ne.lng → strip x = zone := by
    intro x hwest heast
    have hx := h.number ⟨lat, x⟩ ⟨hlat, hwest, heast⟩
    rw [numberAt_of_plain (h.not_polar_of_inside hlat) hplain] at hx
    injection hx
  have hcorner : Plain ne.lat :=
    ⟨fun hn => hnorway ⟨hn.1, hn.2.le⟩, fun hs => hsvalbard ⟨hs.1, hs.2.le⟩⟩
  rw [numberAt_of_plain h.not_polar_north hcorner, strip_east h.west_lt_east hstrip]
  by_cases hend : ne.lng = 6 * (zone : Rat) - 180
  · rw [if_pos hend]
    constructor
    · intro hzone
      injection hzone with hzone
      omega
    · intro hne
      exact absurd hend hne
  · rw [if_neg hend]
    exact ⟨fun _ => hend, fun _ => rfl⟩

/-- The corner of a box in the first strip has the number of a strip. -/
theorem northEast_of_first (h : Box sw ne 1 side) {n : Int}
    (hn : numberAt ne.lat ne.lng = .ok n) : 1 ≤ n ∧ n ≤ 60 := by
  have hstrip : ∀ x, sw.lng < x → x < ne.lng → strip x = 1 := by
    intro x hwest heast
    obtain ⟨lat, hlat⟩ := exists_between h.south_lt_north
    have hx := h.number ⟨lat, x⟩ ⟨hlat, hwest, heast⟩
    rcases numberAt_cases lat x with ⟨hpolar, -⟩ | ⟨-, -, -, m, hm, hwide⟩ | ⟨-, hstrip⟩
    · exact absurd hpolar (h.not_polar_of_inside hlat)
    · rw [hwide] at hx
      injection hx with hx
      omega
    · rw [hstrip] at hx
      injection hx
  have hcorner := strip_east h.west_lt_east hstrip
  rcases numberAt_cases ne.lat ne.lng with ⟨hpolar, -⟩ | ⟨-, -, -, m, hm, hwide⟩ | ⟨-, hnumber⟩
  · exact absurd hpolar h.not_polar_north
  · rw [hwide] at hn
    injection hn with hn
    omega
  · rw [hnumber, hcorner] at hn
    injection hn with hn
    split at hn <;> omega

/-- The north-east corner is on the side of the inside unless the north edge
is the equator. -/
theorem side_northEast_iff (h : Box sw ne zone side) :
    Hemisphere.ofLat ne.lat = side ↔ ne.lat ≠ 0 := by
  obtain ⟨lng, hlng⟩ := exists_between h.west_lt_east
  -- the side of a latitude inside that is above some bound below the edge
  have hside : ∀ low, low < ne.lat →
      ∃ lat, low < lat ∧ lat < ne.lat ∧ Hemisphere.ofLat lat = side := by
    intro low hlow
    obtain ⟨lat, hlat, hsouth, hne⟩ := h.exists_inside_above hlow
    exact ⟨lat, hlat, hne, h.side ⟨lat, lng⟩ ⟨⟨hsouth, hne⟩, hlng⟩⟩
  unfold Hemisphere.ofLat at hside ⊢
  rcases lt_trichotomy ne.lat 0 with hneg | hzero | hpos
  · obtain ⟨lat, -, hne, hlat⟩ := hside sw.lat h.south_lt_north
    rw [if_pos hneg]
    rw [if_pos (hne.trans hneg)] at hlat
    exact ⟨fun _ => hneg.ne, fun _ => hlat⟩
  · obtain ⟨lat, -, hne, hlat⟩ := hside sw.lat h.south_lt_north
    rw [hzero, if_neg (lt_irrefl _)]
    rw [if_pos (hzero ▸ hne)] at hlat
    rw [← hlat]
    exact ⟨fun hcorner => (nomatch hcorner), fun hne => absurd rfl hne⟩
  · obtain ⟨lat, hlow, hne, hlat⟩ := hside 0 hpos
    rw [if_neg hpos.le.not_gt]
    rw [if_neg hlow.le.not_gt] at hlat
    exact ⟨fun _ => hpos.ne', fun _ => hlat⟩

end Box

end MapSheets.Zone
