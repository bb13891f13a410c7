import MapSheets.Basemap.Tile
import MapSheets.Proofs.Number.Unlimited
import Mathlib.Data.List.Nodup

/-
Ranges of tiles. A range lists the tiles that lie in it, each once, row by
row; one with an end before its beginning lists none, whatever its columns
times its rows come to. The range around a point stays within the world: it is
cut off at the borders, also where the window lies beyond them altogether.
-/

namespace MapSheets

namespace TileRange

-- ================================================================ listing

theorem mem_run {first count n : Int} : n ∈ run first count ↔ first ≤ n ∧ n < first + count := by
  unfold run
  rw [List.mem_map]
  constructor
  · rintro ⟨i, hi, rfl⟩
    rw [List.mem_range] at hi
    omega
  · rintro ⟨hfirst, hlast⟩
    exact ⟨(n - first).toNat, List.mem_range.mpr (by omega), by omega⟩

theorem nodup_run (first count : Int) : (run first count).Nodup :=
  List.nodup_range.map fun i j h => by omega

theorem length_run (first count : Int) : (run first count).length = count.toNat := by
  rw [run, List.length_map, List.length_range]

theorem mem_tiles {r : TileRange} {t : Tile} :
    t ∈ r.tiles ↔ (r.xMin ≤ t.x ∧ t.x ≤ r.xMax) ∧ r.yMin ≤ t.y ∧ t.y ≤ r.yMax := by
  unfold tiles columns rows
  simp only [List.mem_flatMap, List.mem_map, mem_run]
  constructor
  · rintro ⟨y, hy, x, hx, rfl⟩
    dsimp only
    omega
  · rintro ⟨hx, hy⟩
    exact ⟨t.y, by omega, t.x, by omega, rfl⟩

/-- No tile is listed twice: within a row the columns differ, between rows the rows. -/
theorem nodup_tiles (r : TileRange) : r.tiles.Nodup := by
  unfold tiles
  refine List.nodup_flatMap.mpr ⟨fun y _ => ?_, (nodup_run _ _).imp fun hrows t ht ht' => ?_⟩
  · exact (nodup_run _ _).map fun x x' h => (Tile.mk.inj h).1
  · obtain ⟨x, -, rfl⟩ := List.mem_map.mp ht
    obtain ⟨x', -, h⟩ := List.mem_map.mp ht'
    exact hrows (Tile.mk.inj h).2.symm

theorem length_tiles (r : TileRange) : r.tiles.length = r.rows.toNat * r.columns.toNat := by
  simp [tiles, List.length_flatMap, length_run]

-- ============================================================== the world

/-- The ends of the range do not reach beyond the tiles of a zoom. -/
structure InWorld (r : TileRange) (zoom : Nat) : Prop where
  xMin : 0 ≤ r.xMin
  yMin : 0 ≤ r.yMin
  xMax : r.xMax < 2 ^ zoom
  yMax : r.yMax < 2 ^ zoom

theorem InWorld.mem {r : TileRange} {zoom : Nat} (h : r.InWorld zoom) {t : Tile}
    (ht : t ∈ r.tiles) : (0 ≤ t.x ∧ t.x < 2 ^ zoom) ∧ 0 ≤ t.y ∧ t.y < 2 ^ zoom := by
  have hbounds := mem_tiles.mp ht
  have := h.xMin
  have := h.yMin
  have := h.xMax
  have := h.yMax
  omega

/-- Columns times rows bound the tiles, and so does the world at the lowest zoom. An
end before its beginning on both axes makes the product positive, but lists no tile. -/
theorem InWorld.length_le {r : TileRange} {zoom : Nat} (h : r.InWorld zoom) {most : Nat}
    (hmost : 4 ≤ most) (hfew : r.size ≤ most ∨ zoom = 1) : r.tiles.length ≤ most := by
  rw [length_tiles]
  have := h.xMin
  have := h.yMin
  have := h.xMax
  have := h.yMax
  rcases hfew with hsize | rfl
  · rcases le_total r.rows 0 with hrows | hrows
    · rw [Int.toNat_of_nonpos hrows, Nat.zero_mul]
      exact Nat.zero_le _
    · rcases le_total r.columns 0 with hcolumns | hcolumns
      · rw [Int.toNat_of_nonpos hcolumns, Nat.mul_zero]
        exact Nat.zero_le _
      · rw [size, mul_comm] at hsize
        zify
        rwa [Int.toNat_of_nonneg hrows, Int.toNat_of_nonneg hcolumns]
  · have hrows : r.rows.toNat ≤ 2 := by
      unfold rows
      omega
    have hcolumns : r.columns.toNat ≤ 2 := by
      unfold columns
      omega
    exact (Nat.mul_le_mul hrows hcolumns).trans hmost

end TileRange

section

variable {α : Type} [Scalar α] [Elementary α]

theorem Mercator.pixelOf_isOk (u : Unlimited α) (lat lng zoom side : α) :
    ∃ p, Mercator.pixelOf lat lng zoom side = .ok p := by
  unfold Mercator.pixelOf Elementary.tangent?
  dsimp only
  rw [u.powerOfTwo, u.bounded]
  exact ⟨_, rfl⟩

/-- In unlimited arithmetic every window has its range of tiles, within the world. -/
theorem Tile.around_inWorld (u : Unlimited α) (center : LatLng α) (zoom : Nat)
    (width height : α) :
    ∃ range w, Tile.around center zoom width height = .ok (range, w) ∧ range.InWorld zoom := by
  obtain ⟨⟨cx, cy⟩, hpixel⟩ :=
    Mercator.pixelOf_isOk u center.lat center.lng (Scalar.ofInt zoom) Mercator.tileSide
  obtain ⟨xMin, hxMin⟩ := u.floor ((cx - width / 2) / Mercator.tileSide)
  obtain ⟨yMin, hyMin⟩ := u.floor ((cy - height / 2) / Mercator.tileSide)
  obtain ⟨xMax, hxMax⟩ := u.floor ((cx + width / 2 - sliver) / Mercator.tileSide)
  obtain ⟨yMax, hyMax⟩ := u.floor ((cy + height / 2 - sliver) / Mercator.tileSide)
  have hcount : ((twoTo zoom : Nat) : Int) = 2 ^ zoom := Nat.cast_pow 2 zoom
  refine ⟨⟨max 0 xMin, max 0 yMin, min (twoTo zoom - 1) xMax, min (twoTo zoom - 1) yMax⟩,
    ⟨cx - width / 2, cy - height / 2, cx + width / 2, cy + height / 2⟩, ?_, ?_⟩
  · exact Outcome.bind_eq_ok.mpr ⟨_, hpixel, Outcome.bind_eq_ok.mpr ⟨_, hxMin,
      Outcome.bind_eq_ok.mpr ⟨_, hyMin, Outcome.bind_eq_ok.mpr ⟨_, hxMax,
        Outcome.bind_eq_ok.mpr ⟨_, hyMax, rfl⟩⟩⟩⟩⟩
  · exact ⟨le_max_left _ _, le_max_left _ _, by dsimp only; omega, by dsimp only; omega⟩

end

end MapSheets
