import MapSheets.Proofs.Cell.Filling
import MapSheets.Proofs.Geodesy.Zone

/-
Zones over the whole globe. From the antimeridian eastwards all longitudes up
to the antimeridian again lie in a strip (`strip_range_iff`), each within three
degrees of the meridian in the middle of it (`abs_sub_meridian_strip_le`). The
widened zones reach six degrees to one side, so no point between the polar
regions is farther than that from the meridian of its zone (`zone_near_meridian`).

The polar regions are open: the latitudes at which they begin have strips, and
so have the poles (`northPole_in_strip`). Zero is the number of a polar region and
of nothing else, and every point at the longitudes of the strips has a zone
(`zoned_on_globe`).

The quantities are exact. Where the sum of a longitude and 180 is rounded, a point
just short of the antimeridian is counted as one on it.
-/

namespace MapSheets.Zone

variable {lat lng : Rat}

-- ================================================================= strips

theorem le_strip_iff {z : Int} : z ≤ strip lng ↔ 6 * (z : Rat) - 186 ≤ lng := by
  have hfloor : z ≤ strip lng ↔ z - 1 ≤ ⌊(lng + 180) / 6⌋ := by
    unfold strip
    omega
  rw [hfloor, Int.le_floor, le_div_iff₀ (by norm_num)]
  push_cast
  constructor <;> intro h <;> linarith

theorem strip_pos_iff : 1 ≤ strip lng ↔ -180 ≤ lng := by
  rw [le_strip_iff]
  norm_num

/-- The strips are those of the longitudes from the antimeridian on, up to where
it comes again. -/
theorem strip_range_iff : (1 ≤ strip lng ∧ strip lng ≤ 60) ↔ -180 ≤ lng ∧ lng < 180 := by
  have hlast : strip lng ≤ 60 ↔ lng < 180 := by
    rw [← Int.not_lt, ← Int.add_one_le_iff, le_strip_iff]
    norm_num
  rw [strip_pos_iff, hlast]

/-- A longitude is three degrees at most from the middle of its strip. -/
theorem abs_sub_meridian_strip_le (lng : Rat) : |lng - meridian (strip lng)| ≤ 3 := by
  obtain ⟨hwest, heast⟩ := strip_eq_iff.mp (rfl : strip lng = strip lng)
  refine abs_sub_meridian_le ?_ ?_
  · unfold meridian
    linarith
  · unfold meridian
    linarith

-- ================================================================== areas

theorem Norway.not_svalbard (h : Norway lat lng) : ¬Svalbard lat lng := by
  rintro ⟨⟨hlat, -⟩, -⟩
  linarith [h.1.2]

theorem Norway.not_polar (h : Norway lat lng) : ¬Polar lat := by
  rintro (⟨hlow, -⟩ | ⟨-, hhigh⟩)
  · linarith [h.1.2]
  · linarith [h.1.1]

theorem Svalbard.not_polar (h : Svalbard lat lng) : ¬Polar lat := by
  rintro (⟨hlow, -⟩ | ⟨-, hhigh⟩)
  · linarith [h.1.2]
  · linarith [h.1.1]

theorem svalbardZones_range : ∀ n ∈ svalbardZones, 1 ≤ n ∧ n ≤ 60 := by decide

/-- Every point between the polar regions has the number of a strip, and the
meridian in the middle of that strip is six degrees from it at most, three off
Norway and Svalbard. On Svalbard it is one of four strips. -/
theorem zone_near_meridian (hlat : -80 ≤ lat ∧ lat ≤ 84) (hlng : -180 ≤ lng ∧ lng < 180) :
    ∃ n, numberAt lat lng = .ok n ∧ (1 ≤ n ∧ n ≤ 60) ∧ |lng - meridian n| ≤ 6
      ∧ (¬Norway lat lng → ¬Svalbard lat lng → |lng - meridian n| ≤ 3)
      ∧ (Svalbard lat lng → n ∈ svalbardZones) := by
  rcases numberAt_areas lat lng with
    ⟨hpolar, -⟩ | ⟨hnorway, hn⟩ | ⟨hsvalbard, n, hzone, hnear, hn⟩ | ⟨⟨-, -, hsvalbard⟩, hn⟩
  · -- the polar regions begin beyond these latitudes
    rcases hpolar with ⟨_, _⟩ | ⟨_, _⟩ <;> linarith
  · have hnear : |lng - meridian 32| ≤ 6 := by
      obtain ⟨-, hwest, heast⟩ := hnorway
      refine abs_sub_meridian_le ?_ ?_
      · norm_num [meridian]
        exact hwest
      · norm_num [meridian]
        linarith
    exact ⟨32, hn, by decide, hnear, fun h => absurd hnorway h,
      fun h => absurd h hnorway.not_svalbard⟩
  · exact ⟨n, hn, svalbardZones_range n hzone, hnear, fun _ h => absurd hsvalbard h,
      fun _ => hzone⟩
  · have hnear := abs_sub_meridian_strip_le lng
    exact ⟨strip lng, hn, strip_range_iff.mpr hlng, by linarith, fun _ _ => hnear,
      fun h => absurd h hsvalbard⟩

/-- The south-west corner of the last span of Svalbard lies in strip 36, and has the
zone whose meridian is six degrees away. -/
theorem zone_near_meridian_last_span :
    numberAt (72 : Rat) 33 = .ok 37 ∧ strip 33 = 36 ∧ |33 - meridian 37| ≤ 6
      ∧ (37 : Int) ∈ svalbardZones := by
  have hnumber : numberAt (72 : Rat) 33 = .ok 37 := by decide +kernel
  have hstrip : strip 33 = 36 := strip_eq_iff.mpr (by norm_num)
  obtain ⟨n, hn, -, hnear, -, hzone⟩ := @zone_near_meridian 72 33 (by norm_num) (by norm_num)
  obtain rfl : (37 : Int) = n := Except.ok.inj (hnumber.symm.trans hn)
  exact ⟨hnumber, hstrip, hnear, hzone (by norm_num [Svalbard])⟩

-- =============================================================== the globe

/-- A number of a strip or of the polar regions names a zone that is known, and
is the number of it. -/
theorem named_known {n : Int} (h : 0 ≤ n ∧ n ≤ 60) :
    named n ≠ .unknown ∧ ((named n).number : Int) = n := by
  unfold named
  by_cases hstrip : 1 ≤ n ∧ n ≤ 60
  · rw [dif_pos hstrip]
    exact ⟨nofun, Int.toNat_of_nonneg h.1⟩
  · have hzero : n = 0 := by omega
    rw [dif_neg hstrip, if_pos hzero, hzero]
    exact ⟨nofun, rfl⟩

/-- Every point of the globe, given exactly, has a number, and the number is zero in the
polar regions and nowhere else. In the polar regions, and elsewhere at the longitudes
that strips are counted over, it is the number of a zone that is known. -/
theorem zoned_on_globe {p : LatLng Rat} (hwest : -180 ≤ p.lng) :
    ∃ n, numberAt p.lat p.lng = .ok n ∧ (n = 0 ↔ Polar p.lat)
      ∧ (Polar p.lat ∨ p.lng < 180 → (0 ≤ n ∧ n ≤ 60) ∧ ∃ zone : Zone,
          GridZone.ofPoint p = .ok ⟨zone, Hemisphere.ofLat p.lat⟩
            ∧ zone ≠ .unknown ∧ (zone.number : Int) = n) := by
  have hknown : ∀ n, numberAt p.lat p.lng = .ok n → 0 ≤ n ∧ n ≤ 60 → ∃ zone : Zone,
      GridZone.ofPoint p = .ok ⟨zone, Hemisphere.ofLat p.lat⟩
        ∧ zone ≠ .unknown ∧ (zone.number : Int) = n := by
    intro n hn hrange
    obtain ⟨hne, hnumber⟩ := named_known hrange
    exact ⟨named n, Cell.gridZone_eq_named hn, hne, hnumber⟩
  rcases numberAt_areas p.lat p.lng with
    ⟨hpolar, hn⟩ | ⟨hnorway, hn⟩ | ⟨hsvalbard, n, hzone, -, hn⟩ | ⟨⟨hpolar, -⟩, hn⟩
  · exact ⟨0, hn, iff_of_true rfl hpolar, fun _ => ⟨by decide, hknown 0 hn (by decide)⟩⟩
  · exact ⟨32, hn, iff_of_false (by decide) hnorway.not_polar,
      fun _ => ⟨by decide, hknown 32 hn (by decide)⟩⟩
  · have hrange := svalbardZones_range n hzone
    exact ⟨n, hn, iff_of_false (by omega) hsvalbard.not_polar,
      fun _ => ⟨by omega, hknown n hn (by omega)⟩⟩
  · have hlow := strip_pos_iff.mpr hwest
    refine ⟨strip p.lng, hn, iff_of_false (by omega) hpolar, fun hshort => ?_⟩
    have hrange := strip_range_iff.mpr ⟨hwest, hshort.resolve_left hpolar⟩
    exact ⟨by omega, hknown _ hn (by omega)⟩

/-- The parallel at which the north polar region begins is not of it, from the
antimeridian on. -/
theorem zoned_on_globe_begin_of_polar :
    (-180 : Rat) ≤ -180 ∧ numberAt (84 : Rat) (-180) = .ok 1 ∧ ∃ zone : Zone,
      GridZone.ofPoint ⟨(84 : Rat), -180⟩ = .ok ⟨zone, .north⟩
        ∧ zone ≠ .unknown ∧ (zone.number : Int) = 1 := by
  have hnumber : numberAt (84 : Rat) (-180) = .ok 1 := by decide +kernel
  obtain ⟨n, hn, -, hknown⟩ := @zoned_on_globe ⟨84, -180⟩ le_rfl
  obtain rfl : (1 : Int) = n := Except.ok.inj (hnumber.symm.trans hn)
  obtain ⟨-, zone, hzone⟩ := hknown (Or.inr (by norm_num))
  exact ⟨le_rfl, hnumber, zone, hzone⟩

/-- The last double below 180 is rounded up to the antimeridian on the way. -/
example : numberAt (0 : Float) 179.99999999999997 = .ok 61 := by decide +kernel

/-- The north pole lies beyond 84 degrees and has the number of a strip all the same. -/
theorem northPole_in_strip :
    numberAt (90 : Rat) 0 = .ok 31
      ∧ ¬((31 : Int) = 0 ↔ (84 : Rat) < 90 ∨ (90 : Rat) < -80) := by
  refine ⟨by decide +kernel, ?_⟩
  norm_num

end MapSheets.Zone
