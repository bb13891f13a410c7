import MapSheets.Proofs.Geodesy.MapEdge
import MapSheets.Proofs.Geodesy.Resolution
import MapSheets.Basemap.Tile

/-
The tile of a point over the real numbers, against the pixel of the point. Tiles and
pixels are counted in one and the same drawing of the world, tiles as if each were a pixel
(`ofPoint_real`), so the tile has the pixel where its column and its row are the ones that
begin before the point. A whole part is such a place for points in the world and for no
others, although it is cut off toward zero (`along_wholePart_iff`).

Every longitude is drawn in the world. A latitude beyond the edges is not, and there the
two part: the pixel is that of the latitude which such latitudes are pushed to, the tile
is that of the latitude itself. That pixel lies off the world too, by a hair, so no tile
of the world has it.
-/

namespace MapSheets

open Real Mercator

-- ================================================================== drawings

namespace Mercator

variable {world lng u k : ℝ}

/-- A larger drawing of the world. -/
theorem drawn_mul (side world lng u : ℝ) :
    drawn (side * world) lng u = ⟨side * (drawn world lng u).x, side * (drawn world lng u).y⟩ := by
  unfold drawn
  rw [Point.mk.injEq]
  constructor <;> ring

theorem drawn_x_mem_iff (hworld : 0 < world) :
    (0 ≤ (drawn world lng u).x ∧ (drawn world lng u).x < world) ↔ -180 ≤ lng ∧ lng < 180 := by
  have hx : (drawn world lng u).x = (lng + 180) / 360 * world := rfl
  rw [hx, mul_nonneg_iff_of_pos_right hworld, mul_lt_iff_lt_one_left hworld]
  constructor
  · rintro ⟨hlow, hhigh⟩
    constructor <;> linarith
  · rintro ⟨hlow, hhigh⟩
    constructor <;> linarith

/-- Heights grow up the page, pixels down it. -/
theorem drawn_y_strictAnti (hworld : 0 < world) (lng : ℝ) :
    StrictAnti fun u => (drawn world lng u).y := by
  intro u u' h
  have hturns : u / π < u' / π := div_lt_div_of_pos_right h pi_pos
  have hless : (1 - u' / π) / 2 < (1 - u / π) / 2 := by linarith
  exact mul_lt_mul_of_pos_right hless hworld

/-- The height that is drawn at a place. -/
theorem drawn_y_heightAt (hworld : 0 < world) (lng k : ℝ) :
    (drawn world lng (π * (1 - 2 * k / world))).y = k := by
  unfold drawn
  field_simp
  ring

theorem lt_drawn_y_iff (hworld : 0 < world) :
    k < (drawn world lng u).y ↔ u < π * (1 - 2 * k / world) := by
  simpa only [drawn_y_heightAt hworld] using
    (drawn_y_strictAnti hworld lng).lt_iff_gt (a := π * (1 - 2 * k / world)) (b := u)

theorem drawn_y_lt_iff (hworld : 0 < world) :
    (drawn world lng u).y < k ↔ π * (1 - 2 * k / world) < u := by
  simpa only [drawn_y_heightAt hworld] using
    (drawn_y_strictAnti hworld lng).lt_iff_gt (a := u) (b := π * (1 - 2 * k / world))

theorem drawn_y_lt_world_iff (hworld : 0 < world) : (drawn world lng u).y < world ↔ -π < u := by
  rw [drawn_y_lt_iff hworld, mul_div_cancel_right₀ _ hworld.ne']
  ring_nf

theorem drawn_y_mem_iff (hworld : 0 < world) :
    (0 ≤ (drawn world lng u).y ∧ (drawn world lng u).y < world) ↔ -π < u ∧ u ≤ π := by
  rw [drawn_y_lt_world_iff hworld, ← not_lt, drawn_y_lt_iff hworld, not_lt, mul_zero, zero_div,
    sub_zero, mul_one]
  exact and_comm

end Mercator

namespace Tile

-- ================================================================= the places

/-- A place along an axis, a column or a row, is one of the world, and the pixel is in it. -/
structure Along (n : ℤ) (zoom : ℕ) (p : ℝ) : Prop where
  nonneg : 0 ≤ n
  lt_count : n < 2 ^ zoom
  low : 256 * n ≤ p
  high : p < 256 * (n + 1)

/-- A tile is one of the world, and the pixel is in it. -/
structure Holds (t : Tile) (zoom : ℕ) (x y : ℝ) : Prop where
  column : Along t.x zoom x
  row : Along t.y zoom y

section

variable {n : ℤ} {zoom : ℕ} {p x : ℝ}

/-- There is a place for pixels of the world only. -/
theorem Along.mem_world (h : Along n zoom p) : 0 ≤ p ∧ p < 256 * 2 ^ zoom := by
  have hfirst : (0 : ℝ) ≤ n := by exact_mod_cast h.nonneg
  have hlast : (n : ℝ) + 1 ≤ 2 ^ zoom := by exact_mod_cast h.lt_count
  constructor <;> linarith [h.low, h.high]

theorem along_wholePart_iff : Along (Scalar.wholePart x) zoom (256 * x) ↔ 0 ≤ x ∧ x < 2 ^ zoom := by
  constructor
  · intro h
    obtain ⟨hfirst, hlast⟩ := h.mem_world
    constructor <;> linarith
  · rintro ⟨hfirst, hlast⟩
    rw [Scalar.wholePart_of_nonneg hfirst]
    have hlow := Int.floor_le x
    have hhigh := Int.lt_floor_add_one x
    constructor
    case nonneg => exact Int.floor_nonneg.mpr hfirst
    case lt_count => exact Int.floor_lt.mpr (by exact_mod_cast hlast)
    case low => linarith
    case high => linarith

end

-- ================================================================== the points

/-- The zoom as a real number gives the count of the tiles. -/
theorem two_rpow_zoom (zoom : ℕ) : (2 : ℝ) ^ (Scalar.ofInt (zoom : ℤ) : ℝ) = 2 ^ zoom := by
  show (2 : ℝ) ^ ((zoom : ℤ) : ℝ) = 2 ^ zoom
  rw [Int.cast_natCast, rpow_natCast]

/-- The tile of a point is counted in a drawing with a pixel for each tile. -/
theorem ofPoint_real (p : LatLng ℝ) (zoom : ℕ) :
    ofPoint p zoom = .ok ⟨Scalar.wholePart (drawn (2 ^ zoom) p.lng (height p.lat)).x,
      Scalar.wholePart (drawn (2 ^ zoom) p.lng (height p.lat)).y⟩ := by
  unfold ofPoint
  rw [Elementary.powerOfTwo?_real, Outcome.ok_bind, two_rpow_zoom, Scalar.truncate?_real,
    Outcome.ok_bind, Elementary.tangent?_real, Outcome.ok_bind, Scalar.truncate?_real]
  rw [Scalar.one_real]
  rfl

/-- The pixel of a point is counted in a drawing with 256 pixels for each tile. -/
theorem pixelOf_tiles (lat lng : ℝ) (zoom : ℕ) :
    pixelOf lat lng (Scalar.ofInt zoom) tileSide
      = .ok (256 * (drawn (2 ^ zoom) lng (height (clampLat lat))).x,
          256 * (drawn (2 ^ zoom) lng (height (clampLat lat))).y) := by
  obtain ⟨pixel, hpixel, hok⟩ := pixelOf_real lat lng (Scalar.ofInt zoom) tileSide
  rw [two_rpow_zoom, tileSide_real, drawn_mul] at hpixel
  rw [hok, hpixel]

/-- The row of a point has its pixel between the edges. Elsewhere the pixel is in no row of
the world, whatever the row of the point is. -/
theorem along_row_iff {p : LatLng ℝ} (hlat : |p.lat| < 90) (zoom : ℕ) :
    Along (Scalar.wholePart (drawn (2 ^ zoom) p.lng (height p.lat)).y) zoom
        (256 * (drawn (2 ^ zoom) p.lng (height (clampLat p.lat))).y)
      ↔ BetweenEdges p.lat := by
  have hworld : (0 : ℝ) < 2 ^ zoom := by positivity
  constructor
  · intro h
    obtain ⟨hfirst, hlast⟩ := h.mem_world
    have hdrawn : 0 ≤ (drawn (2 ^ zoom) p.lng (height (clampLat p.lat))).y
        ∧ (drawn (2 ^ zoom) p.lng (height (clampLat p.lat))).y < 2 ^ zoom := by
      constructor <;> linarith
    rwa [drawn_y_mem_iff hworld, height_mem_iff (abs_clampLat_lt p.lat),
      betweenEdges_clampLat_iff] at hdrawn
  · intro h
    rw [h.clampLat_eq, along_wholePart_iff, drawn_y_mem_iff hworld]
    exact (height_mem_iff hlat).mpr h

end Tile

/-- The tile of a point is the tile of the world that has the pixel of the point, at every
zoom, exactly between the edges of the web map. Its column is always right. Its row is off
the world beyond the southern edge; beyond the northern edge it is so from the latitude on
that is drawn a whole tile above the world, since a row is cut off toward zero. -/
theorem Tile.ofPoint_holds_pixel_iff {p : LatLng ℝ} (hlat : |p.lat| < 90) (hwest : -180 ≤ p.lng)
    (heast : p.lng < 180) (zoom : ℕ) :
    ∃ t x y, Tile.ofPoint p zoom = .ok t
      ∧ pixelOf p.lat p.lng (Scalar.ofInt zoom) tileSide = .ok (x, y)
      ∧ Tile.Along t.x zoom x
      ∧ (t.Holds zoom x y ↔ -edge < p.lat ∧ p.lat ≤ edge)
      ∧ (t.y < 2 ^ zoom ↔ -edge < p.lat)
      ∧ (0 ≤ t.y ↔ p.lat < latOf (π * (1 + 2 / 2 ^ zoom))) := by
  have hworld : (0 : ℝ) < 2 ^ zoom := by positivity
  have hcolumn : Along (Scalar.wholePart (drawn (2 ^ zoom) p.lng (height p.lat)).x) zoom
      (256 * (drawn (2 ^ zoom) p.lng (height (clampLat p.lat))).x) :=
    along_wholePart_iff.mpr ((drawn_x_mem_iff hworld).mpr ⟨hwest, heast⟩)
  refine ⟨_, _, _, ofPoint_real p zoom, pixelOf_tiles p.lat p.lng zoom, hcolumn, ?_, ?_, ?_⟩
  · exact ⟨fun h => (along_row_iff hlat zoom).mp h.row,
      fun h => ⟨hcolumn, (along_row_iff hlat zoom).mpr h⟩⟩
  · have hcount : (0 : ℤ) < 2 ^ zoom := by positivity
    dsimp only
    rw [Scalar.wholePart_lt_iff hcount]
    push_cast
    rw [drawn_y_lt_world_iff hworld, lt_height_iff hlat, latOf_neg]
    rfl
  · dsimp only
    rw [Scalar.wholePart_nonneg_iff, lt_drawn_y_iff hworld, height_lt_iff hlat]
    ring_nf

/-- On the equator the tile has the pixel. At 86 degrees south the row of the tile at zoom
zero is not the one row of the world. -/
theorem Tile.ofPoint_holds_pixel_iff_south :
    (|(0 : ℝ)| < 90 ∧ |(-86 : ℝ)| < 90 ∧ (-180 : ℝ) ≤ 0 ∧ (0 : ℝ) < 180)
      ∧ (∃ t x y, Tile.ofPoint (⟨0, 0⟩ : LatLng ℝ) 1 = .ok t
        ∧ pixelOf (0 : ℝ) 0 (Scalar.ofInt 1) tileSide = .ok (x, y) ∧ t.Holds 1 x y)
      ∧ ∃ t x y, Tile.ofPoint (⟨-86, 0⟩ : LatLng ℝ) 0 = .ok t
        ∧ pixelOf (-86 : ℝ) 0 (Scalar.ofInt 0) tileSide = .ok (x, y)
        ∧ 1 ≤ t.y ∧ ¬ t.Holds 0 x y := by
  have hequator : |(0 : ℝ)| < 90 := by norm_num
  have hsouth : |(-86 : ℝ)| < 90 := by norm_num [abs_lt]
  have hwest : (-180 : ℝ) ≤ 0 := by norm_num
  have heast : (0 : ℝ) < 180 := by norm_num
  have hbeyond : ¬ -edge < (-86 : ℝ) := by linarith [edge_lt]
  refine ⟨⟨hequator, hsouth, hwest, heast⟩, ?_, ?_⟩
  · obtain ⟨t, x, y, htile, hpixel, -, hholds, -⟩ :=
      Tile.ofPoint_holds_pixel_iff (p := ⟨0, 0⟩) hequator hwest heast 1
    exact ⟨t, x, y, htile, hpixel, hholds.mpr ⟨neg_lt_zero.mpr edge_pos, edge_pos.le⟩⟩
  · obtain ⟨t, x, y, htile, hpixel, -, hholds, hrow, -⟩ :=
      Tile.ofPoint_holds_pixel_iff (p := ⟨-86, 0⟩) hsouth hwest heast 0
    exact ⟨t, x, y, htile, hpixel, not_lt.mp fun h => hbeyond (hrow.mp h),
      fun h => hbeyond (hholds.mp h).1⟩

end MapSheets
