import MapSheets.Proofs.Grating.RowNumbering
import MapSheets.Proofs.Number.Numeral

/-
Labels of a grating. A row is named by letters, one or several, and no two rows
by the same (`rowLetters_injective`); a column is named by the digits of its
number. No letter is a digit, so a label that puts the one before the other
without a mark between them is still taken apart in one way only, and names one
cell (`cellLabel_inj`).
-/

namespace MapSheets.Grating

-- ================================================================= letters

theorem isDigit_letter {c : Char} (hc : c ∈ letters) : c.isDigit = false := by
  have hall : letters.all (fun c => !c.isDigit) = true := by decide +kernel
  simpa only [Bool.not_eq_true'] using List.all_eq_true.mp hall c hc

theorem isDigit_rowLetters (row : Nat) : ∀ c ∈ rowLetters row, c.isDigit = false := fun c hc =>
  isDigit_letter ((isWord_rowLetters row).mem_letters c hc)

-- ================================================================== labels

variable {α : Type} {g : Grating α} {row row' col col' : Int}

/-- A grating has a row. -/
def HasRow (g : Grating α) (row : Int) : Prop := 0 ≤ row ∧ row < g.rows

/-- A grating has a column. -/
def HasCol (g : Grating α) (col : Int) : Prop := 0 ≤ col ∧ col < g.cols

/-- The place of a row among the labels. -/
def place (g : Grating α) (row : Int) : Int := if g.flipYLabel then row else g.rows - row - 1

theorem HasRow.place_nonneg (h : g.HasRow row) : 0 ≤ g.place row := by
  unfold HasRow at h
  unfold place
  split <;> omega

theorem HasRow.rowLabel_eq (h : g.HasRow row) :
    g.rowLabel row = String.ofList (rowLetters (g.place row).toNat) := by
  unfold HasRow at h
  unfold rowLabel
  rw [if_neg (by omega)]
  rfl

theorem HasCol.colLabel_eq (h : g.HasCol col) : g.colLabel col = toString (col.toNat + 1) := by
  unfold HasCol at h
  unfold colLabel
  rw [if_neg (by omega)]
  obtain ⟨n, rfl⟩ := Int.eq_ofNat_of_zero_le h.1
  rfl

/-- The label of a column writes its number, counted from one. -/
theorem HasCol.writes_colLabel (h : g.HasCol col) :
    Decimal.Writes (g.colLabel col) (col.toNat + 1) := by
  rw [h.colLabel_eq]
  exact Decimal.writes_toString _

theorem rowLabel_inj (h : g.HasRow row) (h' : g.HasRow row') :
    g.rowLabel row = g.rowLabel row' ↔ row = row' := by
  constructor
  · intro heq
    rw [h.rowLabel_eq, h'.rowLabel_eq, String.ofList_inj] at heq
    have hplaces := rowLetters_injective heq
    have hplace := h.place_nonneg
    have hplace' := h'.place_nonneg
    have hsame : g.place row = g.place row' := by omega
    unfold place at hsame
    split at hsame <;> omega
  · exact fun heq => heq ▸ rfl

/-- The first label is that of the row in the first place. -/
theorem HasRow.rowLabel_eq_first_iff (h : g.HasRow row) : g.rowLabel row = "A" ↔ g.place row = 0 := by
  have hfirst : "A" = String.ofList (rowLetters 0) := by
    rw [rowLetters_short (by decide)]
    decide
  have hplace := h.place_nonneg
  rw [h.rowLabel_eq, hfirst, String.ofList_inj, rowLetters_injective.eq_iff]
  omega

theorem HasRow.isDigit_rowLabel (h : g.HasRow row) :
    ∀ c ∈ (g.rowLabel row).toList, c.isDigit = false := by
  rw [h.rowLabel_eq, String.toList_ofList]
  exact isDigit_rowLetters _

/-- A text of letters before digits is taken apart in one way only. -/
theorem append_inj_of_isDigit {s s' d d' : String} (hs : ∀ c ∈ s.toList, c.isDigit = false)
    (hs' : ∀ c ∈ s'.toList, c.isDigit = false) (hd : ∀ c ∈ d.toList, c.isDigit = true)
    (hd' : ∀ c ∈ d'.toList, c.isDigit = true) (h : s ++ d = s' ++ d') : s = s' ∧ d = d' := by
  have hletters : ∀ {s d : String}, (∀ c ∈ s.toList, c.isDigit = false) →
      (∀ c ∈ d.toList, c.isDigit = true) → (s ++ d).toList.filter (!·.isDigit) = s.toList := by
    intro s d hs hd
    rw [String.toList_append, List.filter_append, List.filter_eq_self.mpr (by simpa using hs),
      List.filter_eq_nil_iff.mpr (by simpa using hd), List.append_nil]
  have hsame : s = s' := by
    rw [← String.toList_inj, ← hletters hs hd, h, hletters hs' hd']
  refine ⟨hsame, ?_⟩
  rw [hsame] at h
  exact (String.append_right_inj s').mp h

/-- The label of a cell names its row and its column. -/
theorem cellLabel_inj (hrow : g.HasRow row) (hcol : g.HasCol col) (hrow' : g.HasRow row')
    (hcol' : g.HasCol col') :
    g.cellLabel row col = g.cellLabel row' col' ↔ row = row' ∧ col = col' := by
  constructor
  · intro h
    obtain ⟨hletters, hdigits⟩ := append_inj_of_isDigit (hrow.isDigit_rowLabel)
      (hrow'.isDigit_rowLabel) hcol.writes_colLabel.digits hcol'.writes_colLabel.digits h
    refine ⟨(rowLabel_inj hrow hrow').mp hletters, ?_⟩
    have hnumber := hcol.writes_colLabel.value
    rw [hdigits, hcol'.writes_colLabel.value] at hnumber
    have hfirst := hcol.1
    have hfirst' := hcol'.1
    omega
  · intro ⟨hr, hc⟩
    rw [hr, hc]

end MapSheets.Grating
