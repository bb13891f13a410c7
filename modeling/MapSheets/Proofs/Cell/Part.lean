import MapSheets.Cell.Parts
import MapSheets.Proofs.Cell.Derived

/-
One part of a cell. A part is a filled cell under the identifier of its parent
and its own number; there is none beyond the last, and numbers below one mean
the first. Over the rationals every part whose bounds are known can be made.
-/

namespace MapSheets.Cell

section

variable {α : Type} [Scalar α] [NumberText α] [Elementary α] {parent c : Cell α}
  {mode : PartMode} {n : Int}

/-- There is no part beyond the last. -/
theorem part_of_last_lt (hn : Parts.last < n) : parent.part mode n = .error (.partOutOfRange n) := by
  unfold part
  rw [if_pos hn]
  rfl

/-- A part is filled from its bounds alone, under the identifier of its parent
and its own number. -/
theorem exists_bare_of_part (h : parent.part mode n = .ok c) :
    ∃ p q b, ∃ bare : Cell α, parent.dividedCorners = .ok (p, q)
      ∧ Parts.bounds mode p q (max n 1) = .ok b ∧ bare.Bare ⟨b.south, b.west⟩ ⟨b.north, b.east⟩
      ∧ bare.mdgid = ⟨parent.mdgid.id, max n 1⟩ ∧ bare.filled = .ok c := by
  unfold part at h
  split at h
  case isTrue => cases h
  case isFalse =>
    obtain ⟨⟨p, q⟩, hcorners, h⟩ := Outcome.bind_eq_ok.mp h
    obtain ⟨b, hb, h⟩ := Outcome.bind_eq_ok.mp h
    exact ⟨p, q, b, _, hcorners, hb, ⟨rfl, rfl, rfl, rfl, rfl, rfl⟩, rfl, h⟩

/-- The number of a part stands in its identifier, and the part of that number
is the same one. -/
theorem of_part (h : parent.part mode n = .ok c) :
    c.mdgid = ⟨parent.mdgid.id, max n 1⟩ ∧ max n 1 ≤ Parts.last
      ∧ parent.part mode (max n 1) = .ok c := by
  have hlast : ¬Parts.last < n := by
    intro hlast
    rw [part_of_last_lt hlast] at h
    cases h
  have hmax : ¬Parts.last < max n 1 := by
    unfold Parts.last at hlast ⊢
    omega
  have hsame : parent.part mode (max n 1) = parent.part mode n := by
    unfold part
    rw [if_neg hlast, if_neg hmax, max_assoc, max_self]
  refine ⟨?_, not_lt.mp hmax, hsame.trans h⟩
  obtain ⟨_, _, _, _, -, -, -, hmdgid, hfilled⟩ := exists_bare_of_part h
  rw [← hmdgid]
  exact (filled_eq_ok_iff.mp hfilled).mdgid

end

variable [NumberText Rat] [Elementary Rat] {parent : Cell Rat} {sw ne : LatLng Rat}

/-- A part whose bounds are known can be made, and has these bounds. -/
theorem exists_part (hsw : parent.southWest = some sw) (hne : parent.northEast = some ne)
    {mode : PartMode} {n : Int} (hn : 1 ≤ n ∧ n ≤ 100) {b : PartBounds Rat}
    (hb : Parts.bounds mode sw ne n = .ok b) :
    ∃ c, parent.part mode n = .ok c ∧ c.mdgid = ⟨parent.mdgid.id, n⟩
      ∧ c.southWest = some ⟨b.south, b.west⟩ ∧ c.northEast = some ⟨b.north, b.east⟩ := by
  obtain ⟨c, hc⟩ := exists_filled_rat { parent with
    mdgid := ⟨parent.mdgid.id, n⟩
    southWest := some ⟨b.south, b.west⟩
    northEast := some ⟨b.north, b.east⟩
    seconds := none
    southWestDms := none
    northEastDms := none
    gridZone := none }
  have hfilled := filled_eq_ok_iff.mp hc
  refine ⟨c, ?_, hfilled.mdgid, hfilled.southWest, hfilled.northEast⟩
  unfold part dividedCorners
  rw [if_neg (by unfold Parts.last; omega), show max n 1 = n by omega, hsw, hne]
  show (do let b ← Parts.bounds mode sw ne n; _) = _
  rw [hb]
  exact hc

end MapSheets.Cell
