import MapSheets.Cell.Basic
import MapSheets.Proofs.Geodesy.Zone

/-
What filling a cell leaves. A field that a cell lacks is derived from a
corner where there is one, and every other field stays: `Filled` says so of
a whole cell, and `filled_eq_ok_iff` ties it to the run of the four steps. A
cell made from the text of its identifier is a filled one (`filled_of_make`).
Over the rationals every derivation has a result, so every cell can be
filled (`exists_filled_rat`).
-/

namespace MapSheets.Cell

variable {α : Type} {c c' : Cell α}

-- ======================================================= running the steps

section
variable {step : Cell α → Outcome (Cell α)} {rest : List (Cell α → Outcome (Cell α))}

theorem runSteps_cons_of_ok (h : step c = .ok c') :
    c.runSteps (step :: rest) = c'.runSteps rest := by
  rw [runSteps, h]

theorem runSteps_cons_of_error {f : Failure} (h : step c = .error f) :
    c.runSteps (step :: rest) = (c, some f) := by
  rw [runSteps, h]

end

/-- The run of some steps that all succeed, read as one sequence. -/
theorem runSteps_eq_none_iff (steps : List (Cell α → Outcome (Cell α))) :
    ∀ c, c.runSteps steps = (c', none) ↔ steps.foldlM (fun c step => step c) c = .ok c' := by
  induction steps with
  | nil =>
      intro c
      simp [runSteps, pure, Except.pure]
  | cons step steps ih =>
      intro c
      rw [List.foldlM_cons]
      cases hstep : step c with
      | error f =>
          rw [runSteps_cons_of_error hstep, Outcome.error_bind]
          constructor
          · intro h; cases h
          · intro h; cases h
      | ok d => rw [runSteps_cons_of_ok hstep, Outcome.ok_bind, ih d]

section
variable [Scalar α] [NumberText α] [Elementary α]

/-- What a filled cell has of the cell that was filled. -/
structure Filled (c c' : Cell α) : Prop where
  gridZone : supplied GridZone.ofPoint c.northEast c.gridZone = .ok c'.gridZone
  northEastDms : supplied (dmsOf keptPlaces) c.northEast c.northEastDms = .ok c'.northEastDms
  southWestDms : supplied (dmsOf keptPlaces) c.southWest c.southWestDms = .ok c'.southWestDms
  seconds : supplied secondsAt c.southWest c.seconds = .ok c'.seconds
  /-- All else stays as it is. -/
  rest : c' = { c with
    gridZone := c'.gridZone, northEastDms := c'.northEastDms
    southWestDms := c'.southWestDms, seconds := c'.seconds }

/-- A cell is filled if every step succeeds. -/
theorem filled_eq_ok_iff_fill : c.filled = .ok c' ↔ c.fill = (c', none) := by
  unfold filled
  cases c.fill with
  | mk d f => cases f <;> simp

/-- Filling is known by what it leaves. -/
theorem filled_eq_ok_iff : c.filled = .ok c' ↔ Filled c c' := by
  rw [filled_eq_ok_iff_fill]
  unfold fill
  rw [runSteps_eq_none_iff]
  simp only [List.foldlM_cons, List.foldlM_nil, Outcome.bind_eq_ok, fillZone, fillNorthEastDms,
    fillSouthWestDms, fillSeconds]
  constructor
  · rintro ⟨_, ⟨g, hg, hc₁⟩, _, ⟨n, hn, hc₂⟩, _, ⟨w, hw, hc₃⟩, _, ⟨s, hs, hc₄⟩, hc'⟩
    cases hc₁; cases hc₂; cases hc₃; cases hc₄; cases hc'
    exact ⟨hg, hn, hw, hs, rfl⟩
  · intro h
    refine ⟨_, ⟨_, h.gridZone, rfl⟩, _, ⟨_, h.northEastDms, rfl⟩, _, ⟨_, h.southWestDms, rfl⟩,
      _, ⟨_, h.seconds, rfl⟩, ?_⟩
    rw [h.rest]
    rfl

namespace Filled

theorem southWest (h : Filled c c') : c'.southWest = c.southWest := by rw [h.rest]

theorem northEast (h : Filled c c') : c'.northEast = c.northEast := by rw [h.rest]

theorem mdgid (h : Filled c c') : c'.mdgid = c.mdgid := by rw [h.rest]

end Filled

-- ========================================================= making a cell

section
variable {bare : Cell α} {id : String} {southWest northEast : LatLng String}

omit [Scalar α] [NumberText α] [Elementary α] in
/-- Printed corners that came along touch nothing but the printed corners. -/
theorem withDms_rest (c : Cell α) (southWest northEast : LatLng String) :
    c.withDms southWest northEast = { c with
      southWestDms := (c.withDms southWest northEast).southWestDms
      northEastDms := (c.withDms southWest northEast).northEastDms } := by
  unfold withDms
  split <;> rfl

/-- A cell that was made is a filled one, under the identifier that was read. -/
theorem filled_of_make (h : bare.make id southWest northEast = .ok c) :
    ∃ m, Mdgid.parse id = .ok m
      ∧ Filled ({ bare with mdgid := m }.withDms southWest northEast) c := by
  obtain ⟨m, hm, h⟩ := Outcome.bind_eq_ok.mp h
  exact ⟨m, hm, filled_eq_ok_iff.mp h⟩

/-- A cell that was made keeps its corners. -/
theorem corners_of_make (h : bare.make id southWest northEast = .ok c) :
    c.southWest = bare.southWest ∧ c.northEast = bare.northEast := by
  obtain ⟨m, -, h⟩ := filled_of_make h
  rw [h.southWest, h.northEast, withDms_rest]
  exact ⟨rfl, rfl⟩

/-- Zone and side of a cell that was made are those it had, or else those of
its north-east corner. -/
theorem gridZone_of_make (h : bare.make id southWest northEast = .ok c) :
    supplied GridZone.ofPoint bare.northEast bare.gridZone = .ok c.gridZone := by
  obtain ⟨m, -, h⟩ := filled_of_make h
  have hzone := h.gridZone
  rw [withDms_rest] at hzone
  exact hzone

end

end

-- ========================================================= derivations

/-- A derivation that always has a result supplies every field. -/
theorem exists_supplied {β γ : Type} {derive : γ → Outcome β}
    (hderive : ∀ p, ∃ b, derive p = .ok b) (corner : Option γ) (old : Option β) :
    ∃ new, supplied derive corner old = .ok new := by
  cases old with
  | some b => exact ⟨some b, rfl⟩
  | none =>
      cases corner with
      | none => exact ⟨none, rfl⟩
      | some p =>
          obtain ⟨b, hb⟩ := hderive p
          refine ⟨some b, ?_⟩
          show (some <$> derive p) = _
          rw [hb]
          rfl

section
variable {α : Type} [Scalar α] (hfloor : ∀ x : α, ∃ n, Scalar.floor? x = .ok n)
include hfloor

/-- A value has degrees, minutes and seconds where every value has a floor. -/
theorem dms_isOk (positive negative : String) (x : α) :
    ∃ d, Dms.ofDecimal positive negative x = .ok d := by
  have hsplit : ∃ d, Dms.split x = .ok d :=
    Outcome.bind_isOk (Scalar.truncate?_isOk hfloor x) fun _ =>
      Outcome.bind_isOk (Scalar.truncate?_isOk hfloor _) fun _ => ⟨_, rfl⟩
  exact Outcome.bind_isOk hsplit fun _ => ⟨_, rfl⟩

/-- A corner can be printed where every value has a floor. -/
theorem dmsOf_isOk [NumberText α] (places : Nat) (p : LatLng α) : ∃ d, dmsOf places p = .ok d :=
  Outcome.bind_isOk (Outcome.lift_isOk (dms_isOk hfloor _ _ p.lat)) fun _ =>
    Outcome.bind_isOk (Outcome.lift_isOk (dms_isOk hfloor _ _ p.lng)) fun _ => ⟨_, rfl⟩

end

-- =================================================== over the rationals

/-- Every exact corner can be printed. -/
theorem dmsOf_rat_isOk [NumberText Rat] (places : Nat) (p : LatLng Rat) :
    ∃ d, dmsOf places p = .ok d := dmsOf_isOk (fun x => ⟨_, Scalar.floor?_rat x⟩) places p

/-- The zone and the side of an exact point, by the number of its zone. -/
theorem gridZone_eq_named {p : LatLng Rat} {n : Int} (hn : Zone.numberAt p.lat p.lng = .ok n) :
    GridZone.ofPoint p = .ok ⟨Zone.named n, Hemisphere.ofLat p.lat⟩ := by
  unfold GridZone.ofPoint
  rw [Zone.ofPoint_eq_named hn]
  rfl

/-- Every exact point has a zone and a side of the equator. -/
theorem gridZone_rat_isOk (p : LatLng Rat) : ∃ g, GridZone.ofPoint p = .ok g := by
  obtain ⟨n, hn⟩ := Zone.numberAt_rat_isOk p.lat p.lng
  exact ⟨_, gridZone_eq_named hn⟩

/-- Every exact corner has arc lengths, since no exact angle is infinite. -/
theorem secondsAt_rat_isOk [Elementary Rat] (p : LatLng Rat) : ∃ s, secondsAt p = .ok s :=
  ⟨_, rfl⟩

/-- Every exact cell can be filled. -/
theorem exists_filled_rat [NumberText Rat] [Elementary Rat] (c : Cell Rat) :
    ∃ c', c.filled = .ok c' := by
  obtain ⟨g, hg⟩ := exists_supplied gridZone_rat_isOk c.northEast c.gridZone
  obtain ⟨n, hn⟩ := exists_supplied (dmsOf_rat_isOk keptPlaces) c.northEast c.northEastDms
  obtain ⟨w, hw⟩ := exists_supplied (dmsOf_rat_isOk keptPlaces) c.southWest c.southWestDms
  obtain ⟨s, hs⟩ := exists_supplied secondsAt_rat_isOk c.southWest c.seconds
  refine ⟨{ c with gridZone := g, northEastDms := n, southWestDms := w, seconds := s }, ?_⟩
  exact filled_eq_ok_iff.mpr ⟨hg, hn, hw, hs, rfl⟩

end MapSheets.Cell
