import MapSheets.Proofs.Basemap.Passes
import Mathlib.Data.Set.Lattice
import Mathlib.Data.Set.Prod
import Mathlib.Tactic.Linarith

/-
The tiles under a window. Along an axis a tile has 256 pixels and a pixel lies in one
tile (`mem_pixels_iff`), so a tile meets a stretch of pixels exactly if it lies between
the tiles of its ends (`meets_iff`). The range around a point is made of these ends,
cut off at the borders of the world; what is said of columns and of rows is one
statement about an axis (`Tile.under_cut`).

The window is taken less the sliver at its far ends, so it has its ends in order only
where it is as large as the sliver. What a pass asks for are tiles of the range and
no others, whatever the server answers (`TileServer.mem_requests_fetchTiles`).
-/

namespace MapSheets

-- ==================================================================== an axis

namespace Tile

/-- The pixels of the tiles in a column, and likewise of those in a row. -/
def pixels (n : Int) : Set Rat := Set.Ico (256 * n) (256 * n + 256)

/-- The pixels of the world at a zoom. -/
def worldPixels (zoom : Nat) : Set Rat := Set.Ico 0 (256 * 2 ^ zoom)

theorem mem_pixels_iff {n : Int} {p : Rat} : p ∈ pixels n ↔ ⌊p / 256⌋ = n := by
  rw [Int.floor_eq_iff, le_div_iff₀ (by norm_num), div_lt_iff₀ (by norm_num), pixels, Set.mem_Ico]
  constructor
  · rintro ⟨hlow, hhigh⟩
    constructor <;> linarith
  · rintro ⟨hlow, hhigh⟩
    constructor <;> linarith

theorem mem_worldPixels_iff {zoom : Nat} {p : Rat} :
    p ∈ worldPixels zoom ↔ 0 ≤ ⌊p / 256⌋ ∧ ⌊p / 256⌋ < 2 ^ zoom := by
  rw [Int.floor_nonneg, Int.floor_lt, le_div_iff₀ (by norm_num), div_lt_iff₀ (by norm_num),
    worldPixels, Set.mem_Ico]
  push_cast
  rw [zero_mul, mul_comm (256 : Rat)]

variable {low high : Rat}

/-- A tile meets a stretch of pixels if it lies between the tiles of the ends. -/
theorem meets_iff (h : low ≤ high) {n : Int} :
    (pixels n ∩ Set.Icc low high).Nonempty ↔ ⌊low / 256⌋ ≤ n ∧ n ≤ ⌊high / 256⌋ := by
  have hmono : ∀ {p q : Rat}, p ≤ q → ⌊p / 256⌋ ≤ ⌊q / 256⌋ := fun hpq =>
    Int.floor_le_floor (div_le_div_of_nonneg_right hpq (by norm_num))
  constructor
  · rintro ⟨p, hp, hlow, hhigh⟩
    rw [← mem_pixels_iff.mp hp]
    exact ⟨hmono hlow, hmono hhigh⟩
  · rintro ⟨hfirst, hlast⟩
    rw [Int.le_floor, le_div_iff₀ (by norm_num), mul_comm] at hlast
    have hbegin : low < 256 * n + 256 := by
      have hbelow : low / 256 < (n + 1 : Int) := Int.floor_lt.mp (Int.lt_add_one_of_le hfirst)
      rw [div_lt_iff₀ (by norm_num)] at hbelow
      push_cast at hbelow
      linarith
    -- the later one of the two beginnings is in both
    refine ⟨max low (256 * n), ⟨le_max_right _ _, max_lt hbegin (by linarith)⟩, le_max_left _ _,
      max_le h hlast⟩

/-- A run of tiles along an axis is the tiles under a stretch of pixels, as far as the
world has them. -/
def Under (first last : Int) (zoom : Nat) (stretch : Set Rat) : Prop :=
  ∀ n, (first ≤ n ∧ n ≤ last) ↔ (0 ≤ n ∧ n < 2 ^ zoom) ∧ (pixels n ∩ stretch).Nonempty

theorem under_cut (h : low ≤ high) (zoom : Nat) :
    Under (max 0 ⌊low / 256⌋) (min (2 ^ zoom - 1) ⌊high / 256⌋) zoom (Set.Icc low high) := by
  intro n
  rw [meets_iff h]
  omega

namespace Under

variable {first last : Int} {zoom : Nat} {stretch : Set Rat}

theorem mem_of_mem (h : Under first last zoom stretch) {p : Rat} (hp : p ∈ stretch)
    (hworld : p ∈ worldPixels zoom) : first ≤ ⌊p / 256⌋ ∧ ⌊p / 256⌋ ≤ last :=
  (h _).mpr ⟨mem_worldPixels_iff.mp hworld, p, mem_pixels_iff.mpr rfl, hp⟩

/-- There are tiles if and only if the stretch has pixels of the world. -/
theorem le_iff (h : Under first last zoom stretch) :
    first ≤ last ↔ (stretch ∩ worldPixels zoom).Nonempty := by
  constructor
  · intro hle
    obtain ⟨hworld, p, hp, hstretch⟩ := (h first).mp ⟨le_rfl, hle⟩
    rw [← mem_pixels_iff.mp hp] at hworld
    exact ⟨p, hstretch, mem_worldPixels_iff.mpr hworld⟩
  · rintro ⟨p, hp, hworld⟩
    have hmem := h.mem_of_mem hp hworld
    exact hmem.1.trans hmem.2

end Under

end Tile

-- ================================================================= the window

/-- The pixels of the world at a zoom. -/
def Tile.world (zoom : Nat) : Set (Rat × Rat) := Tile.worldPixels zoom ×ˢ Tile.worldPixels zoom

/-- The pixels of a tile. -/
def Tile.area (t : Tile) : Set (Rat × Rat) := Tile.pixels t.x ×ˢ Tile.pixels t.y

namespace Window

/-- The pixels of a window across, less the sliver. -/
def across (w : Window Rat) : Set Rat := Set.Icc w.left (w.right - Tile.sliver)

/-- The pixels of a window from top to bottom, less the sliver. -/
def down (w : Window Rat) : Set Rat := Set.Icc w.top (w.bottom - Tile.sliver)

/-- The pixels of a window, less the sliver. -/
def shown (w : Window Rat) : Set (Rat × Rat) := w.across ×ˢ w.down

end Window

/-- A range is the tiles under a window, as far as the world has them: its columns and
its rows are, and so it covers what the window shows of the world with tiles that the
window lies on. It has no tile exactly where the window shows nothing of the world. -/
structure TileRange.Covers (range : TileRange) (zoom : Nat) (w : Window Rat) : Prop where
  columns : Tile.Under range.xMin range.xMax zoom w.across
  rows : Tile.Under range.yMin range.yMax zoom w.down
  mem_tiles_iff : ∀ t, t ∈ range.tiles ↔
    ((0 ≤ t.x ∧ t.x < 2 ^ zoom) ∧ 0 ≤ t.y ∧ t.y < 2 ^ zoom) ∧ (t.area ∩ w.shown).Nonempty
  covered : ∀ p ∈ w.shown ∩ Tile.world zoom, ∃ t ∈ range.tiles, p ∈ t.area
  empty_iff : (range.xMax < range.xMin ∨ range.yMax < range.yMin) ↔ w.shown ∩ Tile.world zoom = ∅

theorem TileRange.covers {range : TileRange} {zoom : Nat} {w : Window Rat}
    (hcolumns : Tile.Under range.xMin range.xMax zoom w.across)
    (hrows : Tile.Under range.yMin range.yMax zoom w.down) : range.Covers zoom w := by
  constructor
  case columns => exact hcolumns
  case rows => exact hrows
  case mem_tiles_iff =>
    intro t
    rw [mem_tiles, hcolumns, hrows, Tile.area, Window.shown, Set.prod_inter_prod,
      Set.prod_nonempty_iff]
    exact and_and_and_comm
  case covered =>
    rintro ⟨x, y⟩ ⟨⟨hx, hy⟩, hworldX, hworldY⟩
    exact ⟨⟨⌊x / 256⌋, ⌊y / 256⌋⟩,
      mem_tiles.mpr ⟨hcolumns.mem_of_mem hx hworldX, hrows.mem_of_mem hy hworldY⟩,
      Tile.mem_pixels_iff.mpr rfl, Tile.mem_pixels_iff.mpr rfl⟩
  case empty_iff =>
    rw [Window.shown, Tile.world, Set.prod_inter_prod, Set.prod_eq_empty_iff, ← not_le,
      ← not_le, hcolumns.le_iff, hrows.le_iff, Set.not_nonempty_iff_eq_empty,
      Set.not_nonempty_iff_eq_empty]

namespace TileServer

-- =================================================================== requests

section

variable {s : TileServer} {zoom : Nat} {style : Json} {address : String}

/-- A tile is asked for under its own address, or not at all. -/
theorem mem_requests_fetchTile {f : Fetched} {tile : Tile}
    (h : address ∈ (s.fetchTile zoom style f tile).requests) :
    s.addressOf zoom style tile = .ok address := by
  cases haddress : s.addressOf zoom style tile with
  | error e =>
      unfold addressOf at haddress
      unfold fetchTile at h
      rw [haddress] at h
      cases h
  | ok own =>
      obtain ⟨f', -, hrequests, -⟩ := answer_step f tile (s.reply own)
      rw [fetchTile_eq f tile haddress] at h
      rcases List.mem_cons.mp h with rfl | h
      · rfl
      · -- the answer asks for nothing
        exact absurd (hrequests ▸ h : address ∈ []) List.not_mem_nil

/-- Tile after tile nothing else is asked for. -/
theorem mem_requests_fetchTiles (tiles : List Tile) {f : Fetched}
    (h : address ∈ (tiles.foldlM (s.fetchTile zoom style) f).requests) :
    ∃ t ∈ tiles, s.addressOf zoom style t = .ok address := by
  induction tiles generalizing f with
  | nil => cases h
  | cons tile rest ih =>
      rw [List.foldlM_cons] at h
      rcases Work.mem_requests_bind h with h | ⟨f', h⟩
      · exact ⟨tile, List.mem_cons_self, mem_requests_fetchTile h⟩
      · obtain ⟨t, ht, haddress⟩ := ih h
        exact ⟨t, List.mem_cons_of_mem _ ht, haddress⟩

end

end TileServer

-- ================================================================ the range

/-- The range around a point is the tiles under the window around it, wherever the
window lies and whatever pixel the point is at. A server is asked for no other tile. -/
theorem Tile.around_covers [Elementary Rat] (center : LatLng Rat) (zoom : Nat)
    {width height : Rat} {middle : Rat × Rat}
    (hmiddle : Mercator.pixelOf center.lat center.lng (Scalar.ofInt zoom) Mercator.tileSide
      = .ok middle) (hwidth : Tile.sliver ≤ width) (hheight : Tile.sliver ≤ height) :
    ∃ range w, Tile.around center zoom width height = .ok (range, w)
      ∧ w = ⟨middle.1 - width / 2, middle.2 - height / 2, middle.1 + width / 2,
          middle.2 + height / 2⟩
      ∧ range.Covers zoom w
      ∧ ∀ (s : TileServer) (style : Json), ∀ address ∈ (s.fetch zoom style range).requests,
        ∃ t ∈ range.tiles, s.addressOf zoom style t = .ok address := by
  obtain ⟨cx, cy⟩ := middle
  have hcount : ((twoTo zoom : Nat) : Int) = 2 ^ zoom := Nat.cast_pow 2 zoom
  have hacross : cx - width / 2 ≤ cx + width / 2 - sliver := by linarith
  have hdown : cy - height / 2 ≤ cy + height / 2 - sliver := by linarith
  have hcolumns := under_cut hacross zoom
  have hrows := under_cut hdown zoom
  rw [← hcount] at hcolumns hrows
  refine ⟨⟨max 0 ⌊(cx - width / 2) / 256⌋, max 0 ⌊(cy - height / 2) / 256⌋,
      min (twoTo zoom - 1) ⌊(cx + width / 2 - sliver) / 256⌋,
      min (twoTo zoom - 1) ⌊(cy + height / 2 - sliver) / 256⌋⟩, _, ?_, rfl,
    TileRange.covers hcolumns hrows, fun s style address h => ?_⟩
  · unfold around
    exact Outcome.bind_eq_ok.mpr ⟨_, hmiddle, Outcome.bind_eq_ok.mpr ⟨_, rfl,
      Outcome.bind_eq_ok.mpr ⟨_, rfl, Outcome.bind_eq_ok.mpr ⟨_, rfl,
        Outcome.bind_eq_ok.mpr ⟨_, rfl, rfl⟩⟩⟩⟩⟩
  · exact TileServer.mem_requests_fetchTiles _ h

open scoped Coarse in
/-- At zoom one a window around the middle of the eastern border is half off the world.
The two tiles of its western half are left. -/
theorem Tile.around_covers_border :
    (Mercator.pixelOf (0 : Rat) 180 (Scalar.ofInt (1 : Nat)) Mercator.tileSide = .ok (512, 256)
        ∧ (Tile.sliver : Rat) ≤ 300 ∧ (Tile.sliver : Rat) ≤ 200)
      ∧ ∃ w, Tile.around (⟨0, 180⟩ : LatLng Rat) (1 : Nat) 300 200 = .ok (⟨1, 0, 1, 1⟩, w)
        ∧ TileRange.Covers ⟨1, 0, 1, 1⟩ 1 w := by
  have hmiddle : Mercator.pixelOf (0 : Rat) 180 (Scalar.ofInt (1 : Nat)) Mercator.tileSide
      = .ok (512, 256) := by
    have hvalue : (Mercator.pixelOf (0 : Rat) 180 (Scalar.ofInt (1 : Nat))
        Mercator.tileSide).toOption.map id = some (512, 256) := by
      decide +kernel
    obtain ⟨_, hmiddle, rfl⟩ := Outcome.ok_of_toOption hvalue
    exact hmiddle
  have hwidth : (Tile.sliver : Rat) ≤ 300 := by decide +kernel
  have hheight : (Tile.sliver : Rat) ≤ 200 := by decide +kernel
  obtain ⟨range, w, haround, -, hcovers, -⟩ :=
    Tile.around_covers ⟨0, 180⟩ 1 hmiddle hwidth hheight
  have hrange : (Tile.around (⟨0, 180⟩ : LatLng Rat) (1 : Nat) 300 200).toOption.map (fun p => p.1)
      = some ⟨1, 0, 1, 1⟩ := by
    decide +kernel
  rw [haround] at hrange
  cases hrange
  exact ⟨⟨hmiddle, hwidth, hheight⟩, w, haround, hcovers⟩

end MapSheets
