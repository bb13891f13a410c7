import MapSheets.Basemap.Download
import MapSheets.Proofs.Basemap.Range
import MapSheets.Proofs.Geodesy.Coarse
import MapSheets.Proofs.Work

/-
The passes of a download. A tile is one request and one answer (`fetchTile_step`),
so a range that is fetched is asked for once, tile by tile, and everything in it
is counted (`fetch_run`). One pass does one of three things (`pass_step`): it
is not made since it would need too many tiles, it is made and given up since
the server has too few of them, or it is the last.

From a zoom downwards this makes a `Descent`. Passes are given up above zoom 12
only, while zooms are passed over down to the lowest; that bounds the number of
passes, and the download rests on the last one (`download_within_limits`).
Nothing is assumed of the server.
-/

namespace MapSheets

-- ============================================================== requests

/-- The address that a note tells a request for. -/
def DownloadNote.request? : DownloadNote → Option String
  | requested address => some address
  | line _ => none

namespace Work

variable {β γ : Type}

def requests (w : Work DownloadNote β) : List String := w.notes.filterMap DownloadNote.request?

theorem requests_bind_ok {w : Work DownloadNote β} {b : β} (h : w.outcome = .ok b)
    (next : β → Work DownloadNote γ) : (w >>= next).requests = w.requests ++ (next b).requests := by
  rw [requests, notes_bind_ok h, List.filterMap_append]
  rfl

theorem requests_bind_error {w : Work DownloadNote β} {f : Failure} (h : w.outcome = .error f)
    (next : β → Work DownloadNote γ) : (w >>= next).requests = w.requests := by
  rw [requests, notes_bind_error h, requests]

theorem mem_requests_bind {w : Work DownloadNote β} {next : β → Work DownloadNote γ}
    {address : String} (h : address ∈ (w >>= next).requests) :
    address ∈ w.requests ∨ ∃ b, address ∈ (next b).requests := by
  cases hw : w.outcome with
  | error e =>
      rw [requests_bind_error hw] at h
      exact Or.inl h
  | ok b =>
      rw [requests_bind_ok hw, List.mem_append] at h
      exact h.imp_right fun h => ⟨b, h⟩

theorem requests_line (text : String) (next : Unit → Work DownloadNote γ) :
    (note (.line text) >>= next).requests = (next ()).requests := rfl

end Work

/-- The tiles for which the server gave an answer, or none in time. -/
def Fetched.answers (f : Fetched) : Nat := f.images.length + f.failed + f.missing

namespace TileServer

-- ============================================================== fetching

def addressOf (s : TileServer) (zoom : Nat) (style : Json) (tile : Tile) : Outcome String :=
  Address.ofTemplate s.template zoom tile.x tile.y style

/-- The template can be filled in for every tile. -/
def Fillable (s : TileServer) (style : Json) : Prop :=
  ∀ zoom tile, ∃ address, s.addressOf zoom style tile = .ok address

theorem fillable_standard (reply : String → Reply) (resize : Image → Nat → Nat → Image)
    (style : Json) :
    Fillable ⟨.str Address.standard, reply, resize⟩ style := fun _ _ => ⟨_, rfl⟩

section

variable {s : TileServer} {zoom : Nat} {style : Json}

theorem countFailure_step (f : Fetched) (tile : Tile) (reason : String) :
    ∃ f', (countFailure f tile reason).outcome = .ok f'
      ∧ (countFailure f tile reason).requests = [] ∧ f'.answers = f.answers + 1 := by
  refine ⟨{ f with failed := f.failed + 1 }, ?_, ?_, ?_⟩
  · unfold countFailure
    split <;> rfl
  · unfold countFailure
    split <;> rfl
  · unfold Fetched.answers
    dsimp only
    omega

/-- What an answer adds to the tiles that came back. -/
def answer (f : Fetched) (tile : Tile) : Reply → Work DownloadNote Fetched
  | .image i => return { f with images := f.images ++ [(tile, i)] }
  | .status code =>
    if code = missingCode then return { f with missing := f.missing + 1 }
    else countFailure f tile ("HTTP " ++ toString code)
  | .unreachable reason => countFailure f tile reason

theorem answer_step (f : Fetched) (tile : Tile) (reply : Reply) :
    ∃ f', (answer f tile reply).outcome = .ok f' ∧ (answer f tile reply).requests = []
      ∧ f'.answers = f.answers + 1 := by
  cases reply with
  | image i =>
      refine ⟨_, rfl, rfl, ?_⟩
      simp only [Fetched.answers, List.length_append, List.length_singleton]
      omega
  | status code =>
      simp only [answer]
      split
      · exact ⟨_, rfl, rfl, rfl⟩
      · exact countFailure_step f tile _
  | unreachable reason => exact countFailure_step f tile reason

theorem fetchTile_eq (f : Fetched) (tile : Tile) {address : String}
    (h : s.addressOf zoom style tile = .ok address) :
    s.fetchTile zoom style f tile
      = Work.note (.requested address) >>= fun _ => answer f tile (s.reply address) := by
  unfold addressOf at h
  unfold fetchTile
  rw [h]
  rfl

/-- One tile is one request and one answer, whatever the server replies. -/
theorem fetchTile_step (hfills : s.Fillable style) (f : Fetched) (tile : Tile) :
    ∃ f', (s.fetchTile zoom style f tile).outcome = .ok f'
      ∧ (s.fetchTile zoom style f tile).requests.map .ok = [s.addressOf zoom style tile]
      ∧ f'.answers = f.answers + 1 := by
  obtain ⟨address, haddress⟩ := hfills zoom tile
  rw [fetchTile_eq f tile haddress, haddress]
  obtain ⟨f', houtcome, hrequests, hanswers⟩ := answer_step f tile (s.reply address)
  refine ⟨f', houtcome, ?_, hanswers⟩
  exact congrArg (fun rest => Except.ok address :: rest.map Except.ok) hrequests

/-- Tile after tile: as many answers as tiles, and their addresses in order. -/
theorem fetchTiles_run (hfills : s.Fillable style) (tiles : List Tile) (f : Fetched) :
    ∃ f', (tiles.foldlM (s.fetchTile zoom style) f).outcome = .ok f'
      ∧ (tiles.foldlM (s.fetchTile zoom style) f).requests.map .ok
        = tiles.map (s.addressOf zoom style)
      ∧ f'.answers = f.answers + tiles.length := by
  induction tiles generalizing f with
  | nil => exact ⟨f, rfl, rfl, rfl⟩
  | cons tile rest ih =>
      obtain ⟨f₁, houtcome₁, hrequests₁, hanswers₁⟩ := fetchTile_step hfills f tile
      obtain ⟨f₂, houtcome₂, hrequests₂, hanswers₂⟩ := ih f₁
      rw [List.foldlM_cons, Work.outcome_bind_ok houtcome₁, Work.requests_bind_ok houtcome₁,
        List.map_append, hrequests₁, hrequests₂]
      refine ⟨f₂, houtcome₂, rfl, ?_⟩
      rw [hanswers₂, hanswers₁, List.length_cons]
      omega

theorem fetch_run (hfills : s.Fillable style) (range : TileRange) :
    ∃ f, (s.fetch zoom style range).outcome = .ok f
      ∧ (s.fetch zoom style range).requests.map .ok = range.tiles.map (s.addressOf zoom style)
      ∧ f.answers = range.tiles.length := by
  obtain ⟨f, houtcome, hrequests, hanswers⟩ := fetchTiles_run hfills range.tiles {}
  exact ⟨f, houtcome, hrequests, hanswers.trans (Nat.zero_add _)⟩

end

-- ============================================================= finishing

section

variable {α : Type} [Scalar α] [Elementary α]

theorem finish_nil (s : TileServer) (r : MapRequest α) (zoom : Nat) (range : TileRange)
    (w : Window α) {f : Fetched} (h : f.images = []) :
    s.finish r zoom range w f = .error (.noTiles f.failed f.missing) := by
  unfold finish
  rw [h]
  rfl

theorem cutOut_isOk (u : Unlimited α) (range : TileRange) (w : Window α) (f : Fetched) :
    ∃ cut, cutOut range w f = .ok cut :=
  Outcome.bind_isOk (u.round _) fun _ => Outcome.bind_isOk (u.round _) fun _ =>
    Outcome.bind_isOk (u.round _) fun _ => Outcome.bind_isOk (u.round _) fun _ => ⟨_, rfl⟩

theorem corner_isOk (u : Unlimited α) (x y : Int) (zoom : Nat) :
    ∃ p, (Tile.corner (.whole x) (.whole y) zoom : Except Fault (LatLng α)) = .ok p := by
  have hcount : ((twoTo zoom : Nat) : Int) ≠ 0 := Int.natCast_ne_zero.mpr (twoTo_pos zoom).ne'
  unfold Tile.corner
  simp only [if_pos (Int.natCast_nonneg zoom), Int.toNat_natCast]
  exact ⟨_, Outcome.bind_eq_ok.mpr ⟨_, u.ratio x hcount, Outcome.bind_eq_ok.mpr ⟨_, rfl,
    Outcome.bind_eq_ok.mpr ⟨_, u.ratio (y * 2) hcount, Outcome.bind_eq_ok.mpr
      ⟨_, u.ranged _ _, rfl⟩⟩⟩⟩⟩

/-- The window can be cut out of the tiles: it is not empty, and not too large an image. -/
def Cuttable (range : TileRange) (w : Window α) (f : Fetched) : Prop :=
  ∀ cut, cutOut range w f = .ok cut →
    ¬(cut.width = 0 ∨ cut.height = 0) ∧ cut.width * cut.height ≤ mostPixels

/-- With an image there is a map at the zoom of the pass if the window can be cut
out. If it cannot, that is no failure of the download. -/
theorem finish_cons (u : Unlimited α) (s : TileServer) (r : MapRequest α) (zoom : Nat)
    {range : TileRange} {w : Window α} {f : Fetched} (hf : f.images ≠ []) :
    (∀ e, s.finish r zoom range w f = .error e → e.family ≠ .basemap)
      ∧ (Cuttable range w f → ∃ map, s.finish r zoom range w f = .ok map ∧ map.zoom = zoom) := by
  obtain ⟨cut, hcutOut⟩ := cutOut_isOk u range w f
  obtain ⟨northWest, hnorthWest⟩ := corner_isOk u range.xMin range.yMin zoom
  obtain ⟨southEast, hsouthEast⟩ := corner_isOk u (range.xMax + 1) (range.yMax + 1) zoom
  have hfinish : s.finish r zoom range w f
      = if cut.width = 0 ∨ cut.height = 0 then .error (.foreign "ValueError" "box can't be empty")
        else if mostPixels < cut.width * cut.height then
          .error (.windowTooLarge (cut.width * cut.height))
        else .ok
          ⟨s.resize cut r.width.toNat r.height.toNat, zoom, s.template, northWest, southEast⟩ := by
    unfold finish
    rw [if_neg (by simpa using hf), hcutOut, hnorthWest, hsouthEast]
    dsimp only [liftM, monadLift, MonadLift.monadLift, Outcome.ofFault, Except.mapError, bind,
      Except.bind]
    split
    · rfl
    · split <;> rfl
  rw [hfinish]
  refine ⟨fun e he => ?_, fun hcut => ?_⟩
  · split at he
    · cases he
      exact nofun
    · split at he
      · cases he
        exact nofun
      · cases he
  · obtain ⟨hfilled, hsize⟩ := hcut cut hcutOut
    rw [if_neg hfilled, if_neg (Nat.not_lt.mpr hsize)]
    exact ⟨_, rfl, rfl⟩

end

-- ============================================================== one pass

/-- A pass that fetches: its zoom, the tiles of the range under its window, and what
came back for them. -/
structure Pass (α : Type) where
  zoom : Nat
  range : TileRange
  window : Window α
  fetched : Fetched

variable {α : Type} [Scalar α] [Elementary α]

/-- The tiles and the window of a request at a zoom. -/
def framed (r : MapRequest α) (zoom : Nat) : Outcome (TileRange × Window α) :=
  let factor := Elementary.powerOfTwo (r.zoom - Scalar.ofInt zoom)
  liftM (Tile.around r.center zoom (Scalar.ofInt r.width / factor) (Scalar.ofInt r.height / factor))

/-- A pass of a download. Unless the zoom is the lowest, a pass that needs too many
tiles is not made. -/
structure Pass.Made (s : TileServer) (r : MapRequest α) (p : Pass α) : Prop where
  framed : framed r p.zoom = .ok (p.range, p.window)
  inWorld : p.range.InWorld p.zoom
  few : p.range.size ≤ mostTiles ∨ p.zoom = 1
  fetched : (s.fetch p.zoom r.style p.range).outcome = .ok p.fetched
  answers : p.fetched.answers = p.range.tiles.length

def Pass.addresses (s : TileServer) (r : MapRequest α) (p : Pass α) : List (Outcome String) :=
  p.range.tiles.map (s.addressOf p.zoom r.style)

section

variable {s : TileServer} {r : MapRequest α}

/-- A pass whose frame is known, up to the lines that it prints. -/
theorem pass_eq (u : Unlimited α) {zoom : Nat} {range : TileRange} {w : Window α}
    (hframed : framed r zoom = .ok (range, w)) :
    ∃ need tooMany : String, ∃ notFound downloaded : Fetched → String,
      s.pass r zoom = do
        Work.note (.line need)
        if mostTiles < range.size ∧ leastZoom < zoom then
          Work.note (.line tooMany)
          return none
        else
          let f ← s.fetch zoom r.style range
          if range.size < 2 * f.missing ∧ coveredZoom < zoom then
            Work.note (.line (notFound f))
            return none
          else
            Work.note (.line (downloaded f))
            return some (← s.finish r zoom range w f) := by
  have haround := Outcome.lift_eq_ok.mp hframed
  unfold pass
  rw [Work.lift_bind (u.powerOfTwo _), Work.lift_bind (u.quotient_power _ _),
    Work.lift_bind (u.quotient_power _ _), Work.lift_bind haround]
  exact ⟨_, _, _, _, rfl⟩

/-- A pass is not made, because it would need too many tiles, or it fetches them. Then
it is the last one, unless it found too few above the zooms that are covered. -/
theorem pass_step (u : Unlimited α) (hfills : s.Fillable r.style) {zoom : Nat} (hzoom : 1 ≤ zoom) :
    (1 < zoom ∧ (s.pass r zoom).requests = [] ∧ (s.pass r zoom).outcome = .ok none)
      ∨ ∃ p : Pass α, p.zoom = zoom ∧ p.Made s r
        ∧ (s.pass r zoom).requests.map .ok = p.addresses s r
        ∧ ((coveredZoom < zoom ∧ (s.pass r zoom).outcome = .ok none)
          ∨ (s.pass r zoom).outcome
            = (s.finish r zoom p.range p.window p.fetched).map some) := by
  obtain ⟨range, w, haround, hworld⟩ := Tile.around_inWorld u r.center zoom
    (Scalar.ofInt r.width / Elementary.powerOfTwo (r.zoom - Scalar.ofInt zoom))
    (Scalar.ofInt r.height / Elementary.powerOfTwo (r.zoom - Scalar.ofInt zoom))
  have hframed : framed r zoom = .ok (range, w) := Outcome.lift_eq_ok.mpr haround
  obtain ⟨need, tooMany, notFound, downloaded, hpass⟩ := pass_eq (s := s) u hframed
  rw [hpass, Work.requests_line, Work.outcome_note]
  by_cases hmany : mostTiles < range.size ∧ leastZoom < zoom
  · -- given up before anything is asked for
    rw [if_pos hmany]
    exact Or.inl ⟨Int.ofNat_lt.mp hmany.2, rfl, rfl⟩
  · obtain ⟨f, hfetch, hrequests, hanswers⟩ := fetch_run hfills range
    have hfew : range.size ≤ mostTiles ∨ zoom = 1 := by
      unfold leastZoom at hmany
      omega
    rw [if_neg hmany, Work.requests_bind_ok hfetch, Work.outcome_bind_ok hfetch, List.map_append,
      hrequests]
    refine Or.inr ⟨⟨zoom, range, w, f⟩, rfl, ⟨hframed, hworld, hfew, hfetch, hanswers⟩, ?_⟩
    by_cases hmissing : range.size < 2 * f.missing ∧ coveredZoom < zoom
    · rw [if_pos hmissing]
      exact ⟨List.append_nil _, Or.inl ⟨hmissing.2, rfl⟩⟩
    · rw [if_neg hmissing, Work.requests_line, Work.outcome_note]
      dsimp only
      cases s.finish r zoom range w f with
      | error e => exact ⟨List.append_nil _, Or.inr rfl⟩
      | ok map => exact ⟨List.append_nil _, Or.inr rfl⟩

-- ============================================================ all passes

/-- The way down from a zoom: the passes that were made and given up, and the one that
the download ended with. Between them zooms are passed over that need too many tiles. -/
inductive Descent (s : TileServer) (r : MapRequest α) : Nat → List (Pass α) → Pass α → Prop
  | last {p : Pass α} : p.Made s r → 1 ≤ p.zoom → Descent s r p.zoom [] p
  | again {p last : Pass α} {zoom : Nat} {earlier : List (Pass α)} : p.Made s r →
      p.zoom = zoom + 1 → coveredZoom < p.zoom → Descent s r zoom earlier last →
      Descent s r (zoom + 1) (p :: earlier) last
  | lower {last : Pass α} {zoom : Nat} {earlier : List (Pass α)} :
      Descent s r zoom earlier last → Descent s r (zoom + 1) earlier last

namespace Descent

variable {zoom : Nat} {earlier : List (Pass α)} {last : Pass α}

theorem made (h : Descent s r zoom earlier last) :
    ∀ p ∈ earlier ++ [last], p.Made s r ∧ 1 ≤ p.zoom ∧ p.zoom ≤ zoom := by
  induction h with
  | last hmade hzoom => exact List.forall_mem_singleton.mpr ⟨hmade, hzoom, le_rfl⟩
  | again hmade hzoom _ _ ih =>
      refine List.forall_mem_cons.mpr ⟨⟨hmade, by omega, hzoom.le⟩, fun q hq => ?_⟩
      obtain ⟨hq, hleast, hmost⟩ := ih q hq
      exact ⟨hq, hleast, hmost.trans (Nat.le_succ _)⟩
  | lower _ ih =>
      intro q hq
      obtain ⟨hq, hleast, hmost⟩ := ih q hq
      exact ⟨hq, hleast, hmost.trans (Nat.le_succ _)⟩

theorem decreasing (h : Descent s r zoom earlier last) :
    (earlier ++ [last]).Pairwise fun p q => q.zoom < p.zoom := by
  induction h with
  | last => exact List.pairwise_singleton _ _
  | again _ hzoom _ hrest ih =>
      refine List.pairwise_cons.mpr ⟨fun q hq => ?_, ih⟩
      have := (hrest.made q hq).2.2
      omega
  | lower _ ih => exact ih

/-- A pass is only given up above the covered zooms, so there is one for each of them
at most, and the last. -/
theorem length_le (h : Descent s r zoom earlier last) :
    (earlier ++ [last]).length ≤ zoom - coveredZoom + 1 := by
  induction h with
  | last => exact Nat.le_add_left _ _
  | again _ hzoom hcovered _ ih =>
      rw [List.cons_append, List.length_cons]
      omega
  | lower _ ih => omega

end Descent

/-- The passes from a zoom downwards are made one after the other, and the download
ends with what the last one found. -/
theorem passes_run (u : Unlimited α) (hfills : s.Fillable r.style) {zoom : Nat} (hzoom : 1 ≤ zoom) :
    ∃ earlier last, Descent s r zoom earlier last
      ∧ (s.passes r zoom).requests.map .ok = (earlier ++ [last]).flatMap (·.addresses s r)
      ∧ (s.passes r zoom).outcome
        = s.finish r last.zoom last.range last.window last.fetched := by
  induction zoom with
  | zero => exact absurd hzoom (Nat.not_succ_le_zero 0)
  | succ zoom ih =>
      unfold passes
      rcases pass_step u hfills hzoom with
        ⟨hlower, hrequests, hnone⟩ | ⟨p, hp, hmade, hrequests, ⟨hcovered, hnone⟩ | hlast⟩
      · -- too many tiles: nothing is asked for at this zoom
        obtain ⟨earlier, last, hdescent, hrest, houtcome⟩ := ih (Nat.le_of_lt_succ hlower)
        rw [Work.requests_bind_ok hnone, Work.outcome_bind_ok hnone, hrequests]
        exact ⟨earlier, last, .lower hdescent, hrest, houtcome⟩
      · -- too few found: one pass, then those below
        obtain ⟨earlier, last, hdescent, hrest, houtcome⟩ :=
          ih (by unfold coveredZoom at hcovered; omega)
        rw [Work.requests_bind_ok hnone, Work.outcome_bind_ok hnone, List.map_append, hrequests]
        refine ⟨p :: earlier, last, .again hmade hp (hp ▸ hcovered) hdescent, ?_, houtcome⟩
        exact congrArg (p.addresses s r ++ ·) hrest
      · -- the last pass, with a map or without
        refine ⟨[], p, hp ▸ .last hmade (hp ▸ hzoom), ?_⟩
        rw [List.nil_append, List.flatMap_singleton, ← hrequests, hp]
        cases hfinish : s.finish r (zoom + 1) p.range p.window p.fetched with
        | error e =>
            have herror : (s.pass r (zoom + 1)).outcome = .error e := by rw [hlast, hfinish]; rfl
            rw [Work.requests_bind_error herror, Work.outcome_bind_error herror]
            exact ⟨rfl, rfl⟩
        | ok map =>
            have hok : (s.pass r (zoom + 1)).outcome = .ok (some map) := by rw [hlast, hfinish]; rfl
            rw [Work.requests_bind_ok hok, Work.outcome_bind_ok hok]
            exact ⟨congrArg (List.map Except.ok) (List.append_nil _), rfl⟩

-- ============================================================== downloads

/-- A download starts with a pass at a zoom of the server. -/
theorem download_eq (u : Unlimited α) (hwidth : 1 ≤ r.width) (hheight : 1 ≤ r.height) :
    ∃ zoom, 1 ≤ zoom ∧ zoom ≤ 17 ∧ s.download r = s.passes r zoom := by
  obtain ⟨n, hn⟩ := u.floor r.zoom
  have hfirst : firstZoom r.zoom = .ok (max leastZoom (min mostZoom n)).toNat :=
    Outcome.bind_eq_ok.mpr ⟨n, hn, rfl⟩
  refine ⟨(max leastZoom (min mostZoom n)).toNat, ?_, ?_, ?_⟩
  · unfold leastZoom
    omega
  · unfold leastZoom mostZoom
    omega
  · unfold download
    rw [if_neg (by omega), Work.lift_bind hfirst]

/-- Every download ends after some passes and stays within the limits of the server.
All requests are for tiles of the passes, row by row: each pass lies within the
world at its zoom, asks for no tile twice and for 400 at most, and counts each as
downloaded, failed or not found. The zooms of the passes go down, so there are six
passes at most. The last one decides: without an image the download fails, and
otherwise its zoom is that of the map, if the window can be cut out of the image. -/
theorem download_within_limits (u : Unlimited α) (s : TileServer) (r : MapRequest α)
    (hwidth : 1 ≤ r.width) (hheight : 1 ≤ r.height) (hfills : s.Fillable r.style) :
    ∃ (earlier : List (Pass α)) (last : Pass α),
      (s.download r).requests.map .ok = (earlier ++ [last]).flatMap (·.addresses s r)
        ∧ (∀ p ∈ earlier ++ [last], p.Made s r
          ∧ (1 ≤ p.zoom ∧ p.zoom ≤ 17)
          ∧ (∀ t ∈ p.range.tiles, (0 ≤ t.x ∧ t.x < 2 ^ p.zoom) ∧ 0 ≤ t.y ∧ t.y < 2 ^ p.zoom)
          ∧ p.range.tiles.Nodup ∧ p.range.tiles.length ≤ 400
          ∧ p.fetched.images.length + p.fetched.failed + p.fetched.missing = p.range.tiles.length)
        ∧ (earlier ++ [last]).Pairwise (fun p q => q.zoom < p.zoom)
        ∧ (earlier ++ [last]).length ≤ 6
        ∧ ((∃ e, (s.download r).outcome = .error e ∧ e.family = .basemap)
          ↔ last.fetched.images = [])
        ∧ (last.fetched.images ≠ [] → Cuttable last.range last.window last.fetched →
          ∃ map, (s.download r).outcome = .ok map ∧ map.zoom = last.zoom) := by
  obtain ⟨zoom, hleast, hmost, hdownload⟩ := download_eq (s := s) u hwidth hheight
  obtain ⟨earlier, last, hdescent, hrequests, houtcome⟩ := passes_run u hfills hleast
  rw [hdownload, houtcome]
  refine ⟨earlier, last, hrequests, fun p hp => ?_, hdescent.decreasing, ?_, ?_,
    fun himages hcut => (finish_cons u s r last.zoom himages).2 hcut⟩
  · obtain ⟨hmade, hp⟩ := hdescent.made p hp
    exact ⟨hmade, ⟨hp.1, hp.2.trans hmost⟩, fun t ht => hmade.inWorld.mem ht,
      p.range.nodup_tiles, hmade.inWorld.length_le (by decide) hmade.few, hmade.answers⟩
  · exact hdescent.length_le.trans (by unfold coveredZoom; omega)
  · constructor
    · rintro ⟨e, he, hfamily⟩
      by_contra himages
      exact (finish_cons u s r last.zoom himages).1 e he hfamily
    · intro himages
      exact ⟨_, finish_nil s r last.zoom last.range last.window himages, rfl⟩

end

open scoped Coarse in
/-- A server without tiles is asked for four at each of the zooms 14, 13 and 12. Whatever
the passes are, the last one is empty-handed. -/
theorem download_within_limits_without_tiles :
    let s : TileServer := ⟨.str Address.standard, fun _ => .status 404, fun i _ _ => i⟩
    let r : MapRequest Rat :=
      { center := ⟨0, 0⟩, zoom := 29 / 2, width := 300, height := 200, style := .str "" }
    (s.download r).requests.length = 12
      ∧ ∃ (earlier : List (Pass Rat)) (last : Pass Rat),
        (s.download r).requests.map .ok = (earlier ++ [last]).flatMap (·.addresses s r)
          ∧ (earlier ++ [last]).length ≤ 6 ∧ last.fetched.images = []
          ∧ last.fetched.failed + last.fetched.missing = last.range.tiles.length := by
  intro s r
  obtain ⟨earlier, last, hrequests, hpasses, -, hlength, hfailure, -⟩ :=
    download_within_limits Coarse.unlimited s r (by decide) (by decide)
      (fillable_standard _ _ _)
  have hfailed : (match (s.download r).outcome with
      | .ok _ => none
      | .error e => some e.family) = some .basemap := by
    decide +kernel
  have himages : last.fetched.images = [] := by
    refine hfailure.mp ?_
    split at hfailed
    case h_1 => cases hfailed
    case h_2 e he => exact ⟨e, he, Option.some.inj hfailed⟩
  obtain ⟨-, -, -, -, -, hcounts⟩ :=
    hpasses last (List.mem_append_right _ (List.mem_singleton.mpr rfl))
  rw [himages, List.length_nil, Nat.zero_add] at hcounts
  exact ⟨by decide +kernel, earlier, last, hrequests, hlength, himages, hcounts⟩

end TileServer

end MapSheets
