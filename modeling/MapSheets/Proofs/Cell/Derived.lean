import MapSheets.Proofs.Cell.Refilling

/-
What follows from the corners of a cell. A cell is `Derived` from two corners
if it has them, the zone of the one and the arc lengths at the other, and if
there is nothing left to fill; its printed corners are `DmsDerived` if they are
those of the same two corners. Filling a cell that has its corners and nothing
else (`Bare`) leaves both (`derived_of_filled`). Making a cell may keep printed
corners that came with it, all four texts or none (`derived_of_make`).
-/

namespace MapSheets.Cell

variable {α : Type} {c c' : Cell α} {sw ne : LatLng α}

/-- A cell with two corners and nothing that follows from them. -/
structure Bare (c : Cell α) (sw ne : LatLng α) : Prop where
  southWest : c.southWest = some sw
  northEast : c.northEast = some ne
  seconds : c.seconds = none
  southWestDms : c.southWestDms = none
  northEastDms : c.northEastDms = none
  gridZone : c.gridZone = none

variable [Scalar α] [NumberText α] [Elementary α]

/-- Zone and arc lengths of a cell are those of its corners, and filling it
leaves it as it is. -/
structure Derived (c : Cell α) (sw ne : LatLng α) : Prop where
  southWest : c.southWest = some sw
  northEast : c.northEast = some ne
  seconds : ∃ s, secondsAt sw = .ok s ∧ c.seconds = some s
  gridZone : ∃ g, GridZone.ofPoint ne = .ok g ∧ c.gridZone = some g
  settled : c.fill = (c, none)

/-- The printed corners of a cell are computed from its corners. -/
structure DmsDerived (c : Cell α) (sw ne : LatLng α) : Prop where
  southWest : ∃ p, dmsOf keptPlaces sw = .ok p ∧ c.southWestDms = some p
  northEast : ∃ p, dmsOf keptPlaces ne = .ok p ∧ c.northEastDms = some p

-- ======================================================== supplied fields

section
variable {β γ : Type} {derive : γ → Outcome β} {p : γ} {old new : Option β}

omit [Scalar α] [NumberText α] [Elementary α]

theorem supplied_none (h : supplied derive (some p) none = .ok new) :
    ∃ b, derive p = .ok b ∧ new = some b := by
  rw [show supplied derive (some p) none = some <$> derive p from rfl] at h
  cases hb : derive p with
  | error f =>
      rw [hb] at h
      cases h
  | ok b =>
      rw [hb] at h
      cases h
      exact ⟨b, rfl, rfl⟩

end

-- ========================================================== filled cells

/-- A filled cell needs no second filling. -/
theorem Filled.settled (h : Filled c c') : c'.fill = (c', none) := by
  have hagain := fill_again c
  rwa [filled_eq_ok_iff_fill.mp (filled_eq_ok_iff.mpr h)] at hagain

/-- Zone and arc lengths that a cell lacks follow from its corners. -/
theorem Filled.derived (h : Filled c c') (hsw : c.southWest = some sw)
    (hne : c.northEast = some ne) (hseconds : c.seconds = none) (hzone : c.gridZone = none) :
    c'.Derived sw ne := by
  constructor
  case southWest => rw [h.southWest, hsw]
  case northEast => rw [h.northEast, hne]
  case seconds =>
    have hs := h.seconds
    rw [hsw, hseconds] at hs
    exact supplied_none hs
  case gridZone =>
    have hg := h.gridZone
    rw [hne, hzone] at hg
    exact supplied_none hg
  case settled => exact h.settled

/-- Printed corners that a cell lacks follow from its corners. -/
theorem Filled.dmsDerived (h : Filled c c') (hsw : c.southWest = some sw)
    (hne : c.northEast = some ne) (hsouth : c.southWestDms = none)
    (hnorth : c.northEastDms = none) : c'.DmsDerived sw ne := by
  constructor
  case southWest =>
    have hs := h.southWestDms
    rw [hsw, hsouth] at hs
    exact supplied_none hs
  case northEast =>
    have hn := h.northEastDms
    rw [hne, hnorth] at hn
    exact supplied_none hn

/-- Everything that follows from the corners of a bare cell is computed from
them when the cell is filled. -/
theorem derived_of_filled (hc : c.Bare sw ne) (h : c.filled = .ok c') :
    c'.Derived sw ne ∧ c'.DmsDerived sw ne :=
  have hfilled := filled_eq_ok_iff.mp h
  ⟨hfilled.derived hc.southWest hc.northEast hc.seconds hc.gridZone,
    hfilled.dmsDerived hc.southWest hc.northEast hc.southWestDms hc.northEastDms⟩

/-- What is derived does not hang on the identifier. -/
theorem Derived.withMdgid (h : c.Derived sw ne) (m : Mdgid) :
    ({ c with mdgid := m } : Cell α).Derived sw ne := by
  have hfilled := filled_eq_ok_iff.mp (filled_eq_ok_iff_fill.mpr h.settled)
  refine ⟨h.southWest, h.northEast, h.seconds, h.gridZone, ?_⟩
  exact filled_eq_ok_iff_fill.mp (filled_eq_ok_iff.mpr
    ⟨hfilled.gridZone, hfilled.northEastDms, hfilled.southWestDms, hfilled.seconds, rfl⟩)

-- ============================================================ made cells

/-- Printed corners came along in full: no text of the four is empty. -/
def DmsGiven (southWest northEast : LatLng String) : Prop :=
  (southWest.lat ≠ "" ∧ southWest.lng ≠ "") ∧ northEast.lat ≠ "" ∧ northEast.lng ≠ ""

omit [Scalar α] [NumberText α] [Elementary α] in
theorem withDms_given {p q : LatLng String} (h : DmsGiven p q) (c : Cell α) :
    c.withDms p q = { c with southWestDms := some p, northEastDms := some q } := by
  unfold withDms
  rw [if_pos]
  simpa [DmsGiven, and_assoc] using h

omit [Scalar α] [NumberText α] [Elementary α] in
theorem withDms_not_given {p q : LatLng String} (h : ¬DmsGiven p q) (c : Cell α) :
    c.withDms p q = c := by
  unfold withDms
  rw [if_neg]
  simpa [DmsGiven, and_assoc] using h

/-- A cell that is made from its corners keeps printed corners that came along
in full, and has all of them computed where one text is missing. -/
theorem derived_of_make {bare : Cell α} {id : String} {p q : LatLng String}
    (hbare : bare.Bare sw ne) (h : bare.make id p q = .ok c) :
    c.Derived sw ne
      ∧ (DmsGiven p q → c.southWestDms = some p ∧ c.northEastDms = some q)
      ∧ (¬DmsGiven p q → c.DmsDerived sw ne) := by
  obtain ⟨m, -, hfilled⟩ := filled_of_make h
  by_cases hgiven : DmsGiven p q
  · rw [withDms_given hgiven] at hfilled
    refine ⟨hfilled.derived hbare.southWest hbare.northEast hbare.seconds hbare.gridZone,
      fun _ => ?_, absurd hgiven⟩
    exact ⟨(Except.ok.inj hfilled.southWestDms).symm, (Except.ok.inj hfilled.northEastDms).symm⟩
  · rw [withDms_not_given hgiven] at hfilled
    exact ⟨hfilled.derived hbare.southWest hbare.northEast hbare.seconds hbare.gridZone,
      fun hyes => absurd hyes hgiven,
      fun _ => hfilled.dmsDerived hbare.southWest hbare.northEast hbare.southWestDms
        hbare.northEastDms⟩

end MapSheets.Cell
