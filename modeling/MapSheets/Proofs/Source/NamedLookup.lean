import MapSheets.Proofs.Cell.Identifier
import MapSheets.Proofs.Cell.Part
import MapSheets.Proofs.Geodesy.Coarse
import MapSheets.Proofs.Source.Stored
import MapSheets.Source.Provider
import Mathlib.Data.List.Nodup

/-
Lookups by the printed identifier. In a table whose features have identifiers
of their own (`CellTable.Keyed`) a lookup by identifier and a lookup by point
come to the same feature, and a feature always describes the same cell.

A part of a cell prints its number behind the identifier, so its printed form
leads back to it, whatever the identifier looks like
(`Provider.cellNamed_printed_part`). A whole cell prints its identifier alone.
An identifier that reads like one with a part is then taken apart, and the
lookup goes on to the cell of what stands before the mark, if there is one; a
table leads back to its cells exactly where no such identifier is stored
(`CellTable.cellNamed_printed_iff`).
-/

namespace MapSheets

variable {α : Type} [Scalar α] [NumberText α]

namespace Feature

variable {f : Feature α}

/-- The identifier that a feature prints. -/
def identifier (f : Feature α) : String := ((f.row.entry idColumn).shown).getD ""

end Feature

namespace CellTable

variable {t : CellTable α} {f : Feature α}

-- ========================================================== identifiers

/-- Every feature of a table has an identifier of its own and is found by it, and
the text of its column is that identifier. -/
structure Keyed (t : CellTable α) : Prop where
  present : ∀ f ∈ t.features, t.key f = some f.identifier
  printed : ∀ f ∈ t.features, f.row.textAt Feature.idColumn = .ok f.identifier
  apart : (t.features.map Feature.identifier).Nodup

/-- Texts in the column of the identifiers are identifiers, if no two are the same. -/
theorem keyed_of_texts
    (htexts : ∀ f ∈ t.features, ∃ s, f.row.entry Feature.idColumn = .text s)
    (hapart : (t.features.map Feature.identifier).Nodup) : t.Keyed := by
  refine ⟨fun f hf => ?_, fun f hf => ?_, hapart⟩
  · obtain ⟨s, hs⟩ := htexts f hf
    unfold key Feature.identifier
    rw [hs]
    rfl
  · obtain ⟨s, hs⟩ := htexts f hf
    unfold Feature.identifier Row.textAt Row.text?
    rw [hs]
    rfl

namespace Keyed

/-- The search for an identifier finds the feature that has it. -/
theorem find?_eq_some_iff (ht : t.Keyed) {id : String} :
    (t.features.find? fun f => t.key f == some id) = some f
      ↔ f ∈ t.features ∧ f.identifier = id := by
  constructor
  · intro h
    have hmem := List.mem_of_find?_eq_some h
    have hid := List.find?_some h
    rw [ht.present f hmem, beq_iff_eq, Option.some.injEq] at hid
    exact ⟨hmem, hid⟩
  · rintro ⟨hmem, rfl⟩
    cases hfound : t.features.find? fun g => t.key g == some f.identifier with
    | none =>
        have hnot := List.find?_eq_none.mp hfound f hmem
        rw [ht.present f hmem, beq_self_eq_true] at hnot
        exact absurd rfl hnot
    | some g =>
        have hg := List.mem_of_find?_eq_some hfound
        have hid := List.find?_some hfound
        rw [ht.present g hg, beq_iff_eq, Option.some.injEq] at hid
        rw [List.inj_on_of_nodup_map ht.apart hg hmem hid]

/-- The column of the identifiers is there, since an identifier has an entry. -/
theorem hasColumn (ht : t.Keyed) (hf : f ∈ t.features) :
    (t.features.any fun f => (f.row.lookup Feature.idColumn).isSome) = true := by
  refine List.any_eq_true.mpr ⟨f, hf, ?_⟩
  have hpresent := ht.present f hf
  unfold key Row.entry at hpresent
  cases hentry : f.row.lookup Feature.idColumn with
  | some e => rfl
  | none =>
      rw [hentry] at hpresent
      cases hpresent

end Keyed

-- ============================================================== lookups

variable [NumberReading α] [Elementary α] {m : Mdgid} {c : Cell α}

/-- A lookup by identifier answers with the cell of the feature that has it. -/
theorem cellNamed_eq_cell (ht : t.Keyed) (hf : f ∈ t.features) (hid : f.identifier = m.id) :
    t.cellNamed m = f.cell := by
  unfold cellNamed
  rw [ht.hasColumn hf, ht.find?_eq_some_iff.mpr ⟨hf, hid⟩]
  rfl

theorem cellNamed_absent (ht : t.Keyed) (hf : f ∈ t.features)
    (habsent : ∀ g ∈ t.features, g.identifier ≠ m.id) :
    t.cellNamed m = .error (.noCellNamed m.id) := by
  have hnone : (t.features.find? fun g => t.key g == some m.id) = none := by
    cases hfound : t.features.find? fun g => t.key g == some m.id with
    | none => rfl
    | some g =>
        obtain ⟨hg, hid⟩ := ht.find?_eq_some_iff.mp hfound
        exact absurd hid (habsent g hg)
  unfold cellNamed
  rw [ht.hasColumn hf, hnone]
  rfl

theorem exists_of_cellNamed (h : t.cellNamed m = .ok c) :
    ∃ f ∈ t.features, f.cell = .ok c ∧ t.key f = some m.id := by
  unfold cellNamed at h
  dsimp only at h
  split at h
  case isTrue => cases h
  case isFalse =>
    split at h
    case h_1 => cases h
    case h_2 f hf =>
      have hid := List.find?_some hf
      rw [beq_iff_eq] at hid
      exact ⟨f, List.mem_of_find?_eq_some hf, h, hid⟩

-- ========================================================= whole cells

/-- A lookup by what stands before the mark comes to the cell that is stored
under it, or to none; it is not the cell whose identifier was taken apart. -/
theorem cellNamed_before {before digits : List Char} {n : Int} (ht : t.Keyed)
    (hf : f ∈ t.features) (hcell : f.cell = .ok c)
    (hparted : Mdgid.Parted f.identifier.toList before digits) :
    t.cellNamed ⟨String.ofList before, n⟩ ≠ .ok c := by
  intro h
  obtain ⟨g, hg, hgcell, hid⟩ := exists_of_cellNamed h
  rw [ht.present g hg, Option.some.injEq] at hid
  have hsame := Feature.mdgid_of_cell hgcell (ht.printed g hg)
  rw [Feature.mdgid_of_cell hcell (ht.printed f hf), hid] at hsame
  have hid : f.identifier = String.ofList before := congrArg Mdgid.id hsame
  have hlength := congrArg List.length (congrArg String.toList hid)
  rw [String.toList_ofList] at hlength
  rcases hparted.marked with hmark | ⟨-, hmark⟩ <;>
  · rw [hmark, List.length_append, List.length_cons] at hlength
    omega

variable [Exact α] [Survey α]

theorem exists_of_cellAt {p : LatLng α} {srid : Int} (h : t.cellAt p srid = .ok c) :
    ∃ f ∈ t.features, f.cell = .ok c := by
  unfold cellAt at h
  obtain ⟨⟨x, y⟩, -, h⟩ := Outcome.bind_eq_ok.mp h
  dsimp only at h
  split at h
  case h_1 => cases h
  case h_2 f _ hmeeting =>
    have hf : f ∈ t.meeting ⟨x, x, y, y⟩ := hmeeting ▸ List.mem_cons_self
    exact ⟨f, (List.mem_filter.mp (List.mem_filter.mp hf).1).1, h⟩

/-- The printed identifier of a cell that a table answers with at a point
leads back to it exactly where it does not read like one with a part.
Otherwise the lookup goes on to the cell that is stored under what stands
before the mark, or to none. -/
theorem cellNamed_printed_iff {t : CellTable α} (ht : t.Keyed)
    (hblank : ∀ f ∈ t.features, Text.trimmed f.identifier.toList = f.identifier.toList)
    {p : LatLng α} {srid : Int} {c : Cell α} (hc : t.cellAt p srid = .ok c) :
    ((do t.cellNamed (← Mdgid.parse c.mdgid.text)) = .ok c
        ↔ ¬∃ before digits, Mdgid.Parted c.mdgid.id.toList before digits)
      ∧ ∀ before digits, Mdgid.Parted c.mdgid.id.toList before digits →
          digits.length ≤ Text.mostDigits →
          (∀ g ∈ t.features, g.identifier = String.ofList before →
              (do t.cellNamed (← Mdgid.parse c.mdgid.text)) = g.cell)
            ∧ ((∀ g ∈ t.features, g.identifier ≠ String.ofList before) →
              (do t.cellNamed (← Mdgid.parse c.mdgid.text))
                = .error (.noCellNamed (String.ofList before))) := by
  obtain ⟨f, hf, hcell⟩ := exists_of_cellAt hc
  have hmdgid := Feature.mdgid_of_cell hcell (ht.printed f hf)
  rw [hmdgid]
  show ((do t.cellNamed (← Mdgid.parse f.identifier)) = .ok c
      ↔ ¬∃ before digits, Mdgid.Parted f.identifier.toList before digits) ∧ _
  have hread : ∀ before digits, Mdgid.Parted f.identifier.toList before digits →
      Mdgid.parse f.identifier
        = (do return ⟨String.ofList before, ← Mdgid.partNumber digits⟩) := by
    intro before digits hparted
    rw [← hblank f hf] at hparted
    exact Mdgid.parse_of_parted hparted
  constructor
  · constructor
    · rintro h ⟨before, digits, hparted⟩
      rw [hread before digits hparted] at h
      obtain ⟨m, hm, h⟩ := Outcome.bind_eq_ok.mp h
      obtain ⟨n, -, hm⟩ := Outcome.bind_eq_ok.mp hm
      cases hm
      exact cellNamed_before ht hf hcell hparted h
    · intro hnot
      rw [← hblank f hf] at hnot
      rw [Mdgid.parse_of_not_parted hnot, hblank f hf, String.ofList_toList]
      exact (cellNamed_eq_cell ht hf rfl).trans hcell
  · intro before digits hparted hshort
    have hnumber : Mdgid.partNumber digits = .ok _ := if_neg (not_lt.mpr hshort)
    show (∀ g ∈ t.features, _ → (do t.cellNamed (← Mdgid.parse f.identifier)) = _)
      ∧ (_ → (do t.cellNamed (← Mdgid.parse f.identifier)) = _)
    rw [hread before digits hparted, hnumber]
    exact ⟨fun g hg hid => cellNamed_eq_cell ht hg hid, fun habsent =>
      cellNamed_absent ht hf habsent⟩

end CellTable

section
open scoped Coarse

/-- Of two sheets side by side the western one is stored under a text that reads
like a part of the eastern one, and its printed identifier leads there. -/
theorem CellTable.cellNamed_printed_hyphenated :
    ∃ (t : CellTable Rat) (p : LatLng Rat) (c : Cell Rat), t.Keyed
      ∧ (∀ f ∈ t.features, Text.trimmed f.identifier.toList = f.identifier.toList)
      ∧ t.cellAt p 4326 = .ok c ∧ c.mdgid = .whole "NK-32-12"
      ∧ (do t.cellNamed (← Mdgid.parse c.mdgid.text)) ≠ .ok c
      ∧ ∃ g ∈ t.features, g.identifier = "NK-32"
        ∧ (do t.cellNamed (← Mdgid.parse c.mdgid.text)) = g.cell := by
  let t : CellTable Rat := ⟨[Coarse.featureOver "NK-32-12" ⟨5, 11 / 2, 57, 229 / 4⟩,
    Coarse.featureOver "NK-32" ⟨11 / 2, 6, 57, 229 / 4⟩], .fiftyThousand⟩
  have ht : t.Keyed := by
    refine keyed_of_texts ?_ (by decide +kernel)
    intro f hf
    rcases List.mem_pair.mp hf with rfl | rfl
    · exact ⟨_, rfl⟩
    · exact ⟨_, rfl⟩
  have hblank : ∀ f ∈ t.features,
      Text.trimmed f.identifier.toList = f.identifier.toList := by
    intro f hf
    rcases List.mem_pair.mp hf with rfl | rfl
    · decide +kernel
    · decide +kernel
  have hfound : (t.cellAt ⟨571 / 10, 51 / 10⟩ 4326).toOption.map (·.mdgid)
      = some (.whole "NK-32-12") := by
    decide +kernel
  obtain ⟨c, hc, hmdgid⟩ := Outcome.ok_of_toOption hfound
  have hparted : Mdgid.Parted c.mdgid.id.toList "NK-32".toList "12".toList := by
    rw [hmdgid]
    have hdigits : Mdgid.isNumber "12".toList = true := by decide
    obtain ⟨hnonempty, honly⟩ := Mdgid.isNumber_iff.mp hdigits
    exact ⟨hnonempty, honly, Or.inr ⟨by decide, by decide⟩⟩
  obtain ⟨hback, hnext⟩ := cellNamed_printed_iff ht hblank hc
  refine ⟨t, _, c, ht, hblank, hc, hmdgid, fun h => hback.mp h ⟨_, _, hparted⟩, ?_⟩
  have hother : Coarse.featureOver "NK-32" ⟨11 / 2, 6, 57, 229 / 4⟩ ∈ t.features :=
    List.mem_cons_of_mem _ List.mem_cons_self
  exact ⟨_, hother, rfl, (hnext _ _ hparted (by decide)).1 _ hother rfl⟩

end

-- ================================================================ parts

namespace Provider

variable [NumberReading α] [Elementary α] [Exact α] [Survey α] {t : CellTable α} {mode : PartMode}
  {c : Cell α}

/-- A lookup among the parts of a table answers with a part of one of its cells. -/
theorem exists_parent (hc : (∃ p srid, (parts mode (.table t)).cellAt p srid = .ok c)
      ∨ ∃ m, (parts mode (.table t)).cellNamed m = .ok c) :
    ∃ f ∈ t.features, ∃ parent n, f.cell = .ok parent ∧ parent.part mode n = .ok c := by
  rcases hc with ⟨p, srid, h⟩ | ⟨m, h⟩
  · rw [cellAt] at h
    obtain ⟨parent, hparent, h⟩ := Outcome.bind_eq_ok.mp h
    obtain ⟨⟨_, _⟩, -, h⟩ := Outcome.bind_eq_ok.mp h
    obtain ⟨⟨_, _⟩, -, h⟩ := Outcome.bind_eq_ok.mp h
    obtain ⟨n, -, h⟩ := Outcome.bind_eq_ok.mp h
    obtain ⟨f, hf, hcell⟩ := CellTable.exists_of_cellAt hparent
    exact ⟨f, hf, parent, n, hcell, h⟩
  · rw [cellNamed] at h
    split at h
    case isTrue => cases h
    case isFalse =>
      obtain ⟨parent, hparent, h⟩ := Outcome.bind_eq_ok.mp h
      obtain ⟨f, hf, hcell, -⟩ := CellTable.exists_of_cellNamed hparent
      exact ⟨f, hf, parent, m.part, hcell, h⟩

/-- A part that a lookup answers with is numbered from one to a hundred, and
its printed identifier leads back to it. -/
theorem cellNamed_printed_part (mode : PartMode) {t : CellTable α} (ht : t.Keyed)
    (hfirst : ∀ f ∈ t.features, ∀ ch ∈ f.identifier.toList.head?, Text.isBlank ch = false)
    {c : Cell α} (hc : (∃ p srid, (parts mode (.table t)).cellAt p srid = .ok c)
      ∨ ∃ m, (parts mode (.table t)).cellNamed m = .ok c) :
    (1 ≤ c.mdgid.part ∧ c.mdgid.part ≤ 100)
      ∧ (do (parts mode (.table t)).cellNamed (← Mdgid.parse c.mdgid.text)) = .ok c := by
  obtain ⟨f, hf, parent, n, hcell, hpart⟩ := exists_parent hc
  obtain ⟨hmdgid, hlast, hagain⟩ := Cell.of_part hpart
  rw [Feature.mdgid_of_cell hcell (ht.printed f hf)] at hmdgid
  have hrange : 1 ≤ max n 1 ∧ max n 1 ≤ 100 := ⟨le_max_right _ _, hlast⟩
  have hnumber : (max n 1) = ((max n 1).toNat : Int) := by omega
  have hshort : (toString (max n 1).toNat).length ≤ 3 :=
    Decimal.length_toString_le (by decide) (by omega)
  have hparse : Mdgid.parse c.mdgid.text = .ok c.mdgid := by
    rw [hmdgid]
    exact Mdgid.parse_text_of_part (hfirst f hf) hnumber (by omega) (hshort.trans (by decide))
  refine ⟨?_, ?_⟩
  · rw [hmdgid]
    exact hrange
  · rw [hparse]
    show (parts mode (.table t)).cellNamed c.mdgid = _
    rw [cellNamed, hmdgid, if_neg (not_lt.mpr hlast)]
    show (do let parent ← t.cellNamed (.whole f.identifier); parent.part mode (max n 1)) = _
    rw [CellTable.cellNamed_eq_cell ht hf rfl, hcell]
    exact hagain

section
open scoped Coarse

/-- A part of a sheet whose own identifier has a colon, a hyphen and digits at
its end is found again by what is printed on it. -/
theorem cellNamed_printed_part_marked :
    ∃ (t : CellTable Rat) (p : LatLng Rat) (c : Cell Rat), t.Keyed
      ∧ (∀ f ∈ t.features, ∀ ch ∈ f.identifier.toList.head?, Text.isBlank ch = false)
      ∧ (parts .eastAligned (.table t)).cellAt p 4326 = .ok c
      ∧ c.mdgid = ⟨"A:5-12", 20⟩ ∧ (1 ≤ c.mdgid.part ∧ c.mdgid.part ≤ 100)
      ∧ (do (parts .eastAligned (.table t)).cellNamed (← Mdgid.parse c.mdgid.text)) = .ok c := by
  let t : CellTable Rat :=
    ⟨[Coarse.featureOver "A:5-12" ⟨5, 11 / 2, 57, 229 / 4⟩], .fiftyThousand⟩
  have ht : t.Keyed := by
    refine CellTable.keyed_of_texts ?_ (List.nodup_singleton _)
    intro f hf
    rw [List.mem_singleton.mp hf]
    exact ⟨_, rfl⟩
  have hfirst : ∀ f ∈ t.features,
      ∀ ch ∈ f.identifier.toList.head?, Text.isBlank ch = false := by
    intro f hf ch hch
    rw [List.mem_singleton.mp hf] at hch
    have hhead : "A:5-12".toList.head? = some 'A' := by decide +kernel
    cases hhead.symm.trans hch
    decide
  have hfound : ((parts .eastAligned (.table t)).cellAt ⟨5722 / 100, 549 / 100⟩ 4326).toOption.map
      (·.mdgid) = some ⟨"A:5-12", 20⟩ := by
    decide +kernel
  obtain ⟨c, hc, hmdgid⟩ := Outcome.ok_of_toOption hfound
  exact ⟨t, _, c, ht, hfirst, hc, hmdgid,
    cellNamed_printed_part .eastAligned ht hfirst (Or.inl ⟨_, _, hc⟩)⟩

end

end Provider

end MapSheets
