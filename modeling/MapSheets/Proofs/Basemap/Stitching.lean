import MapSheets.Proofs.Basemap.Window
import MapSheets.Proofs.Number.Nearest

/-
Tiles put together and cut to a window. A whole pixel of the world belongs to one
tile (`Tile.ofPixel`). Tiles are pasted from the first tile of a range on, and a
window is cut out from there on too, at ends that are rounded to whole pixels. The
first tile begins at an even pixel, so rounding goes the same way as from the corner
of the world (`cutOut_eq`), and every pixel that is cut out shows the pixel of the
world that is in its place (`Image.Shows`).

What is cut out reaches beyond the tiles at the borders of the world only. The sliver
that a window is taken less at its far ends is smaller than half a pixel, so the last
pixel of a window always lies on a tile (`under_rounded`); along the near ends rounding
never goes below the tile of the end.
-/

namespace MapSheets

-- ==================================================================== pixels

/-- The tile that a whole pixel of the world belongs to. -/
def Tile.ofPixel (x y : Int) : Tile := ⟨x / 256, y / 256⟩

/-- A whole pixel of the world at a zoom. -/
def Tile.IsWorldPixel (zoom : Nat) (x y : Int) : Prop :=
  (0 ≤ x ∧ x < 256 * 2 ^ zoom) ∧ 0 ≤ y ∧ y < 256 * 2 ^ zoom

instance (zoom : Nat) (x y : Int) : Decidable (Tile.IsWorldPixel zoom x y) :=
  inferInstanceAs (Decidable (_ ∧ _))

namespace Image

theorem has_iff {i : Image} {x y : Int} :
    i.has x y = true ↔ (0 ≤ x ∧ x < i.width) ∧ 0 ≤ y ∧ y < i.height := by
  simp [has, and_assoc]

/-- An image of the size of a tile. -/
structure IsTile (i : Image) : Prop where
  width : i.width = 256
  height : i.height = 256

end Image

/-- The tiles under a window: from the one with its beginning to the one with its end
less the sliver, as far as the world has them. -/
def Window.range (w : Window Rat) (zoom : Nat) : TileRange :=
  ⟨max 0 ⌊w.left / 256⌋, max 0 ⌊w.top / 256⌋,
    min (2 ^ zoom - 1) ⌊(w.right - Tile.sliver) / 256⌋,
    min (2 ^ zoom - 1) ⌊(w.bottom - Tile.sliver) / 256⌋⟩

/-- In exact arithmetic there is a window around every point. -/
theorem Tile.around_eq [Elementary Rat] (center : LatLng Rat) (zoom : Nat) (width height : Rat) :
    ∃ w : Window Rat, Tile.around center zoom width height = .ok (w.range zoom, w)
      ∧ w.right = w.left + width ∧ w.bottom = w.top + height := by
  have hpixel : ∃ middle, Mercator.pixelOf center.lat center.lng (Scalar.ofInt zoom)
      (Mercator.tileSide : Rat) = .ok middle := ⟨_, rfl⟩
  obtain ⟨⟨cx, cy⟩, hmiddle⟩ := hpixel
  have hcount : ((twoTo zoom : Nat) : Int) = 2 ^ zoom := Nat.cast_pow 2 zoom
  refine ⟨⟨cx - width / 2, cy - height / 2, cx + width / 2, cy + height / 2⟩, ?_,
    by dsimp only; ring, by dsimp only; ring⟩
  unfold around Window.range
  rw [← hcount]
  exact Outcome.bind_eq_ok.mpr ⟨_, hmiddle, Outcome.bind_eq_ok.mpr ⟨_, rfl,
    Outcome.bind_eq_ok.mpr ⟨_, rfl, Outcome.bind_eq_ok.mpr ⟨_, rfl,
      Outcome.bind_eq_ok.mpr ⟨_, rfl, rfl⟩⟩⟩⟩⟩

/-- Along an axis, the pixels between the rounded ends of a stretch that lie on its tiles
are those that lie in the world. -/
theorem Tile.under_rounded {low high : Rat} {first last x : Int} (zoom : Nat)
    (hfirst : NearestEven low first) (hlast : NearestEven high last) (hx : first ≤ x ∧ x < last) :
    (max 0 ⌊low / 256⌋ ≤ x / 256 ∧ x / 256 ≤ min (2 ^ zoom - 1) ⌊(high - Tile.sliver) / 256⌋)
      ↔ 0 ≤ x ∧ x < 256 * 2 ^ zoom := by
  have hbegin : ⌊low / 256⌋ ≤ x / 256 := by
    have hfloor : 256 * ⌊low / 256⌋ ≤ ⌊low⌋ := by
      rw [Int.le_floor]
      push_cast
      linarith [Int.floor_le (low / 256)]
    have := hfirst.floor_le
    omega
  have hend : x / 256 ≤ ⌊(high - sliver) / 256⌋ := by
    have hlastPixel : (x : Rat) + 1 ≤ last := by exact_mod_cast hx.2
    have hsliver : (sliver : Rat) < 1 / 2 := by decide +kernel
    have htile : ((256 * (x / 256) : Int) : Rat) ≤ x := by exact_mod_cast (by omega)
    push_cast at htile
    rw [Int.le_floor, le_div_iff₀ (by norm_num)]
    linarith [hlast.high]
  generalize (2 : Int) ^ zoom = count
  omega

-- ==================================================================== pasting

/-- What came back for a range: some of its tiles, each once, as images of the size of
a tile. -/
structure Fetched.Tiled (f : Fetched) (range : TileRange) : Prop where
  within : ∀ t ∈ f.images.map (·.1), t ∈ range.tiles
  nodup : (f.images.map (·.1)).Nodup
  square : ∀ entry ∈ f.images, entry.2.IsTile

namespace TileServer

/-- A canvas with a tile pasted in its place from the first tile of a range on. -/
def pasteTile (range : TileRange) (canvas : Image) (entry : Tile × Image) : Image :=
  canvas.paste entry.2 ((entry.1.x - range.xMin) * 256) ((entry.1.y - range.yMin) * 256)

theorem joined_eq (range : TileRange) (f : Fetched) :
    joined range f = f.images.foldl (pasteTile range) (blank range) := rfl

section

variable {range : TileRange} {x y : Int}

/-- Pasting a tile changes the pixels that belong to it, and no other. -/
theorem pixel_pasteTile (canvas : Image) {entry : Tile × Image} (h : entry.2.IsTile) :
    (pasteTile range canvas entry).pixel (x - range.xMin * 256) (y - range.yMin * 256)
      = if Tile.ofPixel x y = entry.1 then entry.2.pixel (x % 256) (y % 256)
        else canvas.pixel (x - range.xMin * 256) (y - range.yMin * 256) := by
  obtain ⟨⟨tx, ty⟩, image⟩ := entry
  have hplace : image.has (x - range.xMin * 256 - (tx - range.xMin) * 256)
      (y - range.yMin * 256 - (ty - range.yMin) * 256) = true ↔ Tile.ofPixel x y = ⟨tx, ty⟩ := by
    rw [Image.has_iff, h.width, h.height, Tile.ofPixel, Tile.mk.injEq]
    push_cast
    omega
  dsimp only [pasteTile, Image.paste]
  by_cases htile : Tile.ofPixel x y = ⟨tx, ty⟩
  · rw [if_pos (hplace.mpr htile), if_pos htile]
    obtain ⟨hx, hy⟩ := Tile.mk.inj htile
    congr 1 <;> omega
  · rw [if_neg (hplace.not.mpr htile), if_neg htile]

/-- Tile after tile: a pixel shows the tile that it belongs to, or the canvas. -/
theorem pixel_pasted {images : List (Tile × Image)} (hnodup : (images.map (·.1)).Nodup)
    (hsquare : ∀ entry ∈ images, entry.2.IsTile) (canvas : Image) :
    (∀ i, (Tile.ofPixel x y, i) ∈ images →
        (images.foldl (pasteTile range) canvas).pixel (x - range.xMin * 256) (y - range.yMin * 256)
          = i.pixel (x % 256) (y % 256))
      ∧ (Tile.ofPixel x y ∉ images.map (·.1) →
        (images.foldl (pasteTile range) canvas).pixel (x - range.xMin * 256) (y - range.yMin * 256)
          = canvas.pixel (x - range.xMin * 256) (y - range.yMin * 256)) := by
  induction images generalizing canvas with
  | nil => exact ⟨fun _ h => absurd h List.not_mem_nil, fun _ => rfl⟩
  | cons entry rest ih =>
      rw [List.map_cons, List.nodup_cons] at hnodup
      obtain ⟨hfirst, hrest⟩ := List.forall_mem_cons.mp hsquare
      obtain ⟨hcame, hnot⟩ := ih hnodup.2 hrest (pasteTile range canvas entry)
      rw [pixel_pasteTile canvas hfirst] at hnot
      rw [List.foldl_cons]
      constructor
      · intro i hi
        rcases List.mem_cons.mp hi with rfl | hi
        · -- no later tile is pasted over it
          rw [hnot hnodup.1, if_pos rfl]
        · exact hcame i hi
      · intro habsent
        rw [List.map_cons, List.mem_cons, not_or] at habsent
        rw [hnot habsent.2, if_neg habsent.1]

theorem size_pasted (range : TileRange) (images : List (Tile × Image)) (canvas : Image) :
    (images.foldl (pasteTile range) canvas).width = canvas.width
      ∧ (images.foldl (pasteTile range) canvas).height = canvas.height := by
  induction images generalizing canvas with
  | nil => exact ⟨rfl, rfl⟩
  | cons entry rest ih => exact ih (pasteTile range canvas entry)

/-- The tiles put together have the pixels of the tiles of the range. -/
theorem has_joined_iff (f : Fetched) :
    (joined range f).has (x - range.xMin * 256) (y - range.yMin * 256) = true
      ↔ Tile.ofPixel x y ∈ range.tiles := by
  obtain ⟨hwidth, hheight⟩ := size_pasted range f.images (blank range)
  rw [Image.has_iff, joined_eq, hwidth, hheight, TileRange.mem_tiles]
  dsimp only [blank, Image.even, Tile.ofPixel, TileRange.columns, TileRange.rows]
  omega

end

-- ==================================================================== cutting

/-- A window is cut out at its rounded ends. -/
theorem cutOut_eq {w : Window Rat} {left top right bottom : Int} (range : TileRange)
    (hleft : NearestEven w.left left) (htop : NearestEven w.top top)
    (hright : NearestEven w.right right) (hbottom : NearestEven w.bottom bottom) (f : Fetched) :
    cutOut range w f = .ok ((joined range f).crop (left - range.xMin * 256)
      (top - range.yMin * 256) (right - range.xMin * 256) (bottom - range.yMin * 256)) := by
  have hround : ∀ {end_ : Rat} {n : Int}, NearestEven end_ n → ∀ first : Int,
      Scalar.round? (end_ - Scalar.ofInt (first * 256)) = .ok (n - first * 256) :=
    fun h first => Scalar.round?_eq_ok_iff.mpr (h.sub_even (by omega))
  unfold cutOut
  exact Outcome.bind_eq_ok.mpr ⟨_, hround hleft _, Outcome.bind_eq_ok.mpr ⟨_, hround htop _,
    Outcome.bind_eq_ok.mpr ⟨_, hround hright _, Outcome.bind_eq_ok.mpr
      ⟨_, hround hbottom _, rfl⟩⟩⟩⟩

end TileServer

/-- An image that shows the world from a pixel on. Its pixels in the world are those of
the tiles that were asked for: of the tile that a pixel belongs to, where it came back,
and white where it did not. What lies beyond the tiles lies beyond the world. -/
structure Image.Shows (image : Image) (range : TileRange) (f : Fetched) (zoom : Nat)
    (left top : Int) : Prop where
  within : ∀ i j, image.has i j = true →
    ((TileServer.joined range f).has (left + i - range.xMin * 256) (top + j - range.yMin * 256)
        = true ↔ Tile.IsWorldPixel zoom (left + i) (top + j))
  requested : ∀ i j, image.has i j = true → Tile.IsWorldPixel zoom (left + i) (top + j) →
    Tile.ofPixel (left + i) (top + j) ∈ range.tiles
  tile : ∀ i j, image.has i j = true →
    ∀ own, (Tile.ofPixel (left + i) (top + j), own) ∈ f.images →
      image.pixel i j = own.pixel ((left + i) % 256) ((top + j) % 256)
  missing : ∀ i j, image.has i j = true → Tile.IsWorldPixel zoom (left + i) (top + j) →
    Tile.ofPixel (left + i) (top + j) ∉ f.images.map (·.1) → image.pixel i j = .white
  beyond : ∀ i j, image.has i j = true → ¬Tile.IsWorldPixel zoom (left + i) (top + j) →
    image.pixel i j = .black

namespace Window

variable {w : Window Rat} {zoom : Nat} {left top right bottom : Int}

/-- A pixel between the rounded ends of a window lies on its tiles if and only if it lies
in the world. -/
theorem ofPixel_mem_iff (hleft : NearestEven w.left left) (htop : NearestEven w.top top)
    (hright : NearestEven w.right right) (hbottom : NearestEven w.bottom bottom) {x y : Int}
    (hx : left ≤ x ∧ x < right) (hy : top ≤ y ∧ y < bottom) :
    Tile.ofPixel x y ∈ (w.range zoom).tiles ↔ Tile.IsWorldPixel zoom x y := by
  rw [TileRange.mem_tiles]
  exact and_congr (Tile.under_rounded zoom hleft hright hx)
    (Tile.under_rounded zoom htop hbottom hy)

/-- What is cut out of the tiles under a window shows the world from the rounded corner
of the window on. -/
theorem shows_crop (hleft : NearestEven w.left left) (htop : NearestEven w.top top)
    (hright : NearestEven w.right right) (hbottom : NearestEven w.bottom bottom) {f : Fetched}
    (hf : f.Tiled (w.range zoom)) :
    ((TileServer.joined (w.range zoom) f).crop (left - (w.range zoom).xMin * 256)
      (top - (w.range zoom).yMin * 256) (right - (w.range zoom).xMin * 256)
      (bottom - (w.range zoom).yMin * 256)).Shows (w.range zoom) f zoom left top := by
  generalize hrange : w.range zoom = range at hf
  have hshift : ∀ (first start i : Int), start - first * 256 + i = start + i - first * 256 := by
    intros
    omega
  -- the pixels of the image are those between the rounded ends
  have hends : ∀ i j, ((TileServer.joined range f).crop (left - range.xMin * 256)
      (top - range.yMin * 256) (right - range.xMin * 256) (bottom - range.yMin * 256)).has i j
        = true → (Tile.ofPixel (left + i) (top + j) ∈ range.tiles
          ↔ Tile.IsWorldPixel zoom (left + i) (top + j)) := by
    intro i j hij
    rw [Image.has_iff] at hij
    dsimp only [Image.crop] at hij
    rw [← hrange]
    exact ofPixel_mem_iff hleft htop hright hbottom (by omega) (by omega)
  have hpixel : ∀ i j, ((TileServer.joined range f).crop (left - range.xMin * 256)
      (top - range.yMin * 256) (right - range.xMin * 256) (bottom - range.yMin * 256)).pixel i j
        = if Tile.ofPixel (left + i) (top + j) ∈ range.tiles then
            (TileServer.joined range f).pixel (left + i - range.xMin * 256)
              (top + j - range.yMin * 256)
          else .black := by
    intro i j
    dsimp only [Image.crop]
    rw [hshift, hshift]
    exact if_congr (TileServer.has_joined_iff f) rfl rfl
  constructor
  case within => exact fun i j hij => (TileServer.has_joined_iff f).trans (hends i j hij)
  case requested => exact fun i j hij => (hends i j hij).mpr
  case tile =>
    intro i j hij own hown
    have htile := hf.within _ (List.mem_map_of_mem hown)
    rw [hpixel, if_pos htile, TileServer.joined_eq]
    exact (TileServer.pixel_pasted hf.nodup hf.square _).1 own hown
  case missing =>
    intro i j hij hworld habsent
    rw [hpixel, if_pos ((hends i j hij).mpr hworld), TileServer.joined_eq]
    exact (TileServer.pixel_pasted hf.nodup hf.square _).2 habsent
  case beyond =>
    intro i j hij hworld
    rw [hpixel, if_neg ((hends i j hij).not.mpr hworld)]

end Window

namespace TileServer

-- =================================================================== fetching

section

variable {s : TileServer} {zoom : Nat} {style : Json}

/-- The image that a server sends for a tile, if it sends one. -/
def sent (s : TileServer) (zoom : Nat) (style : Json) (tile : Tile) : Option Image :=
  match s.addressOf zoom style tile with
  | .error _ => none
  | .ok address =>
    match s.reply address with
    | .image i => some i
    | .status _ | .unreachable _ => none

theorem images_countFailure {f f' : Fetched} {tile : Tile} {reason : String}
    (h : (countFailure f tile reason).outcome = .ok f') : f'.images = f.images := by
  unfold countFailure at h
  split at h <;> cases h <;> rfl

theorem images_fetchTile {f f' : Fetched} {tile : Tile}
    (h : (s.fetchTile zoom style f tile).outcome = .ok f') :
    f'.images = f.images ++ ((s.sent zoom style tile).map (tile, ·)).toList := by
  unfold sent
  cases haddress : s.addressOf zoom style tile with
  | error e =>
      unfold addressOf at haddress
      unfold fetchTile at h
      rw [haddress] at h
      cases h
  | ok address =>
      rw [fetchTile_eq f tile haddress, Work.outcome_note] at h
      dsimp only
      cases hreply : s.reply address with
      | image i =>
          rw [hreply] at h
          cases h
          rfl
      | status code =>
          rw [hreply] at h
          simp only [answer] at h
          split at h
          · cases h
            exact (List.append_nil _).symm
          · exact (images_countFailure h).trans (List.append_nil _).symm
      | unreachable reason =>
          rw [hreply] at h
          exact (images_countFailure h).trans (List.append_nil _).symm

theorem images_fetchTiles (tiles : List Tile) {f f' : Fetched}
    (h : (tiles.foldlM (s.fetchTile zoom style) f).outcome = .ok f') :
    f'.images = f.images ++ tiles.filterMap fun t => (s.sent zoom style t).map (t, ·) := by
  induction tiles generalizing f with
  | nil =>
      cases h
      exact (List.append_nil _).symm
  | cons tile rest ih =>
      rw [List.foldlM_cons] at h
      obtain ⟨f₁, hfirst, hrest⟩ := Work.outcome_bind_eq_ok.mp h
      rw [ih hrest, images_fetchTile hfirst, List.append_assoc]
      congr 1
      cases hsent : s.sent zoom style tile with
      | none => simp [hsent]
      | some i => simp [hsent]

/-- What comes back for a range are the images that the server sends for its tiles. -/
theorem mem_images_fetch {range : TileRange} {f : Fetched}
    (h : (s.fetch zoom style range).outcome = .ok f) {tile : Tile} {i : Image} :
    (tile, i) ∈ f.images ↔ tile ∈ range.tiles ∧ s.sent zoom style tile = some i := by
  rw [images_fetchTiles range.tiles h]
  simp only [List.nil_append, List.mem_filterMap, Option.map_eq_some_iff, Prod.mk.injEq]
  constructor
  · rintro ⟨t, ht, i', hi', rfl, rfl⟩
    exact ⟨ht, hi'⟩
  · rintro ⟨ht, hi⟩
    exact ⟨tile, ht, i, hi, rfl, rfl⟩

/-- A server that sends nothing but tiles. -/
def SendsTiles (s : TileServer) : Prop := ∀ address i, s.reply address = .image i → i.IsTile

theorem isTile_of_sent (hs : s.SendsTiles) {tile : Tile} {i : Image}
    (h : s.sent zoom style tile = some i) : i.IsTile := by
  unfold sent at h
  split at h
  · cases h
  · split at h
    case h_1 address _ _ hreply =>
      cases h
      exact hs _ _ hreply
    all_goals cases h

theorem tiled_fetch (hs : s.SendsTiles) {range : TileRange} {f : Fetched}
    (h : (s.fetch zoom style range).outcome = .ok f) : f.Tiled range where
  within t ht := by
    obtain ⟨⟨_, i⟩, hentry, rfl⟩ := List.mem_map.mp ht
    exact ((mem_images_fetch h).mp hentry).1
  nodup := by
    have hkeys : ∀ tiles : List Tile, ((tiles.filterMap fun t =>
        (s.sent zoom style t).map (t, ·)).map (·.1)).Sublist tiles := by
      intro tiles
      induction tiles with
      | nil => exact List.Sublist.slnil
      | cons tile rest ih =>
          cases hsent : s.sent zoom style tile with
          | none => simpa [hsent] using ih.cons tile
          | some i => simpa [hsent] using ih
    rw [images_fetchTiles range.tiles h, List.nil_append]
    exact (hkeys _).nodup range.nodup_tiles
  square entry hentry := isTile_of_sent hs ((mem_images_fetch h).mp hentry).2

end

-- ==================================================================== the map

/-- A map is the image that was cut out, brought to its size. -/
theorem image_of_finish {α : Type} [Scalar α] [Elementary α] {s : TileServer} {r : MapRequest α}
    {zoom : Nat} {range : TileRange} {w : Window α} {f : Fetched} {map : Basemap α}
    (h : s.finish r zoom range w f = .ok map) :
    ∃ cut, cutOut range w f = .ok cut ∧ map.image = s.resize cut r.width.toNat r.height.toNat := by
  have hends : Outcome.Ends (fun map : Basemap α => ∃ cut, cutOut range w f = .ok cut
      ∧ map.image = s.resize cut r.width.toNat r.height.toNat) (fun _ => True)
      (s.finish r zoom range w f) := by
    unfold finish
    refine .unless (fun _ => trivial) fun _ => ?_
    refine Outcome.Ends.bind ⟨fun cut hcut => Outcome.lift_eq_ok.mp hcut, fun _ _ => trivial⟩
      fun cut hcut => ?_
    refine .unless (fun _ => trivial) fun _ => .unless (fun _ => trivial) fun _ => ?_
    refine Outcome.Ends.bind_any (fun northWest => ?_) ⟨fun _ _ => trivial, fun _ _ => trivial⟩
    refine Outcome.Ends.bind_any (fun southEast => ?_) ⟨fun _ _ => trivial, fun _ _ => trivial⟩
    exact Outcome.ends_ok ⟨cut, hcut, rfl⟩
  exact hends.result map h

end TileServer

/-- Every pixel of the world is put in its place. A window around a point, whatever its
size and wherever it lies, is cut out at its ends rounded to whole pixels, a half to the
even one, and shows the world from there on, whichever of its tiles came back. A map is
this image brought to its size; the tiles that come back are those that the server sends
an image for. -/
theorem Tile.around_shows [Elementary Rat] (center : LatLng Rat) (zoom : Nat)
    {width height : Rat} (hwidth : 0 ≤ width) (hheight : 0 ≤ height) :
    ∃ range w left top right bottom, Tile.around center zoom width height = .ok (range, w)
      ∧ (NearestEven w.left left ∧ NearestEven w.top top)
      ∧ (NearestEven w.right right ∧ NearestEven w.bottom bottom)
      ∧ (∀ f : Fetched, f.Tiled range → ∃ cut, TileServer.cutOut range w f = .ok cut
          ∧ ((cut.width : Int) = right - left ∧ (cut.height : Int) = bottom - top)
          ∧ cut.Shows range f zoom left top
          ∧ ∀ (s : TileServer) (r : MapRequest Rat) (map : Basemap Rat),
              s.finish r zoom range w f = .ok map →
              map.image = s.resize cut r.width.toNat r.height.toNat)
      ∧ ∀ (s : TileServer) (style : Json) (f : Fetched), s.SendsTiles →
          (s.fetch zoom style range).outcome = .ok f → f.Tiled range
            ∧ ∀ t i, (t, i) ∈ f.images ↔ t ∈ range.tiles ∧ s.sent zoom style t = some i := by
  obtain ⟨w, haround, hacross, hdown⟩ := around_eq center zoom width height
  obtain ⟨left, -, hleft⟩ := Scalar.round?_rat w.left
  obtain ⟨top, -, htop⟩ := Scalar.round?_rat w.top
  obtain ⟨right, -, hright⟩ := Scalar.round?_rat w.right
  obtain ⟨bottom, -, hbottom⟩ := Scalar.round?_rat w.bottom
  have hcolumns : left ≤ right := hleft.mono hright (by linarith)
  have hrows : top ≤ bottom := htop.mono hbottom (by linarith)
  refine ⟨w.range zoom, w, left, top, right, bottom, haround, ⟨hleft, htop⟩, ⟨hright, hbottom⟩,
    fun f hf => ?_, fun s style f hs h =>
      ⟨TileServer.tiled_fetch hs h, fun t i => TileServer.mem_images_fetch h⟩⟩
  have hcut := TileServer.cutOut_eq (w.range zoom) hleft htop hright hbottom f
  refine ⟨_, hcut, ?_, Window.shows_crop hleft htop hright hbottom hf, fun s r map h => ?_⟩
  · dsimp only [Image.crop]
    omega
  · obtain ⟨cut, hown, himage⟩ := TileServer.image_of_finish h
    rw [hcut] at hown
    cases hown
    exact himage

open scoped Coarse in
/-- At zoom one a window around the middle of the eastern border has halves for ends, and
the eastern part of it is off the world. Of its two tiles the northern one came back. -/
theorem Tile.around_shows_border :
    ((0 : Rat) ≤ 301 ∧ (0 : Rat) ≤ 200)
      ∧ ∃ range w cut, Tile.around (⟨0, 180⟩ : LatLng Rat) (1 : Nat) 301 200 = .ok (range, w)
        ∧ (w.left = 723 / 2 ∧ w.right = 1325 / 2)
        ∧ TileServer.cutOut range w
            { images := [(⟨1, 0⟩, .even 256 256 ⟨200, 0, 0⟩)], missing := 1 } = .ok cut
        ∧ (cut.width = 300 ∧ cut.height = 200)
        ∧ cut.pixel 149 99 = ⟨200, 0, 0⟩ ∧ cut.pixel 149 100 = .white
        ∧ cut.pixel 150 99 = .black := by
  have hwidth : (0 : Rat) ≤ 301 := by norm_num
  have hheight : (0 : Rat) ≤ 200 := by norm_num
  obtain ⟨range, w, left, top, right, bottom, haround, ⟨hleft, htop⟩, ⟨hright, hbottom⟩, hshows,
      -⟩ :=
    Tile.around_shows ⟨0, 180⟩ 1 hwidth hheight
  have hvalue : (Tile.around (⟨0, 180⟩ : LatLng Rat) (1 : Nat) 301 200).toOption.map
      (fun p => (p.1, p.2.left, p.2.top, p.2.right, p.2.bottom))
      = some (⟨1, 0, 1, 1⟩, 723 / 2, 156, 1325 / 2, 356) := by
    decide +kernel
  obtain ⟨_, hown, hvalue⟩ := Outcome.ok_of_toOption hvalue
  rw [haround] at hown
  cases hown
  simp only [Prod.mk.injEq] at hvalue
  obtain ⟨rfl, hwleft, hwtop, hwright, hwbottom⟩ := hvalue
  rw [hwleft] at hleft
  rw [hwtop] at htop
  rw [hwright] at hright
  rw [hwbottom] at hbottom
  -- both halves go to the even neighbour
  obtain rfl : left = 362 := hleft.unique ⟨by norm_num, by norm_num, fun _ => by decide⟩
  obtain rfl : right = 662 := hright.unique ⟨by norm_num, by norm_num, fun _ => by decide⟩
  obtain rfl : top = 156 := htop.unique ⟨by norm_num, by norm_num, fun _ => by decide⟩
  obtain rfl : bottom = 356 := hbottom.unique ⟨by norm_num, by norm_num, fun _ => by decide⟩
  obtain ⟨cut, hcut, ⟨hcolumns, hrows⟩, hcutShows, -⟩ := hshows
    { images := [(⟨1, 0⟩, .even 256 256 ⟨200, 0, 0⟩)], missing := 1 }
    ⟨by decide, by decide, List.forall_mem_singleton.mpr ⟨rfl, rfl⟩⟩
  have hhas : ∀ {i j : Int}, 0 ≤ i ∧ i < 300 → 0 ≤ j ∧ j < 200 → cut.has i j = true :=
    fun hi hj => Image.has_iff.mpr (by omega)
  refine ⟨⟨hwidth, hheight⟩, _, w, cut, haround, ⟨hwleft, hwright⟩, hcut, by omega, ?_, ?_, ?_⟩
  · exact hcutShows.tile 149 99 (hhas (by decide) (by decide)) _ List.mem_cons_self
  · exact hcutShows.missing 149 100 (hhas (by decide) (by decide)) (by decide) (by decide)
  · exact hcutShows.beyond 150 99 (hhas (by decide) (by decide)) (by decide)

end MapSheets
