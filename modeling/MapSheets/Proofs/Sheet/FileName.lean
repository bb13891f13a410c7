import MapSheets.Proofs.Cell.Identifier
import MapSheets.Proofs.Geodesy.Coarse
import MapSheets.Sheet.Context

/-
The names of files. A name is made of a sheet and a reference number by writing
one low line for every run of characters that may not stand in it. A character
that may stand there ends such a run, so a text can be cut at it before or after
(`fileName_append_cons`). The low line behind the sheet and the hyphen before a
part are characters of that kind: what is between them is written on its own,
and the digits behind the last hyphen are those of the part. So two cells share
a file only if they are of one part and their identifiers are written alike
(`fileStem_eq_iff`).
-/

namespace MapSheets

namespace Sheet

-- =============================================================== characters

section
variable {c : Char} {cs : List Char}

theorem fileName_cons (hc : isNameChar c = true) : fileName (c :: cs) = c :: fileName cs := by
  rw [fileName.eq_def]
  exact if_pos hc

theorem fileName_singleton (hc : ¬ isNameChar c = true) : fileName [c] = ['_'] := by
  rw [fileName, if_neg hc]

theorem fileName_cons_cons (hc : ¬ isNameChar c = true) {d : Char} :
    fileName (c :: d :: cs)
      = if isNameChar d then '_' :: fileName (d :: cs) else fileName (d :: cs) := by
  rw [fileName, if_neg hc]

/-- A text is written piece by piece around a character that may stand in names. -/
theorem fileName_append_cons (hc : isNameChar c = true) :
    ∀ before, fileName (before ++ c :: cs) = fileName before ++ c :: fileName cs := by
  intro before
  induction before with
  | nil => exact fileName_cons hc
  | cons b before ih =>
      show fileName (b :: (before ++ c :: cs)) = _
      by_cases hb : isNameChar b = true
      · rw [fileName_cons hb, fileName_cons hb, ih]
        rfl
      · -- a run of other characters goes on or ends, as it does without the rest
        cases before with
        | nil =>
            show fileName (b :: c :: cs) = _
            rw [fileName_cons_cons hb, if_pos hc, fileName_cons hc, fileName_singleton hb]
            rfl
        | cons d before =>
            show fileName (b :: d :: (before ++ c :: cs)) = _
            rw [fileName_cons_cons hb, fileName_cons_cons hb]
            by_cases hd : isNameChar d = true
            · rw [if_pos hd, if_pos hd]
              exact congrArg ('_' :: ·) ih
            · rw [if_neg hd, if_neg hd]
              exact ih

/-- A text of characters that may stand in names is written as it is. -/
theorem fileName_eq_self (h : ∀ d ∈ cs, isNameChar d = true) : fileName cs = cs := by
  induction cs with
  | nil => rfl
  | cons d rest ih =>
      obtain ⟨hd, hrest⟩ := List.forall_mem_cons.mp h
      rw [fileName_cons hd, ih hrest]

end

theorem isNameChar_of_isDigit {d : Char} (hd : d.isDigit = true) : isNameChar d = true := by
  simp [isNameChar, Char.isAlphanum, hd]

-- =================================================================== cells

variable {α β : Type} {s : Sheet α} {c d : Cell β}

/-- A cell without a name of its own for its file. -/
def Unnamed (c : Cell β) : Prop := (c.metadata.lookup "filename").getD "" = ""

/-- The characters that an identifier is written in. -/
def writtenId (m : Mdgid) : List Char := fileName m.id.toList

/-- The file of a cell is named by the sheet and by the reference number, each
written on its own. -/
theorem fileStem_toList (hc : Unnamed c) :
    (s.fileStem c).toList
      = fileName s.name.toList ++ '_' :: fileName c.referenceNumber.toList := by
  have hname : (if (c.metadata.lookup "filename").getD "" = "" then c.referenceNumber
      else (c.metadata.lookup "filename").getD "") = c.referenceNumber := if_pos hc
  unfold fileStem
  dsimp only
  rw [hname, String.toList_ofList, String.toList_append, String.toList_append,
    List.append_assoc]
  exact fileName_append_cons (by decide) _

/-- The reference number of a whole cell is its identifier. -/
theorem written_whole (h : c.mdgid.part = 0) :
    fileName c.referenceNumber.toList = writtenId c.mdgid := by
  unfold Cell.referenceNumber Mdgid.joined
  rw [if_neg (by omega)]
  rfl

/-- The reference number of a part ends in the digits of its number. -/
theorem written_part (h : 0 < c.mdgid.part) :
    fileName c.referenceNumber.toList
      = writtenId c.mdgid ++ '-' :: (toString c.mdgid.part.toNat).toList := by
  obtain ⟨n, hn⟩ := Int.eq_ofNat_of_zero_le h.le
  have hdigits := (Decimal.writes_toString n).digits
  unfold Cell.referenceNumber Mdgid.joined
  rw [if_pos h, hn, String.toList_append, String.toList_append, List.append_assoc]
  refine (fileName_append_cons (by decide) _).trans ?_
  exact congrArg (writtenId c.mdgid ++ '-' :: ·)
    (fileName_eq_self fun d hd => isNameChar_of_isDigit (hdigits d hd))

theorem toString_toList_inj {m n : Nat} : (toString m).toList = (toString n).toList ↔ m = n := by
  constructor
  · intro h
    have hvalue := (Decimal.writes_toString m).value
    rwa [h, (Decimal.writes_toString n).value, eq_comm] at hvalue
  · intro h
    rw [h]

/-- The parts of two cells that are in question together: both cells are whole, or
both are parts. -/
def Alike (c d : Cell β) : Prop :=
  (c.mdgid.part = 0 ∧ d.mdgid.part = 0)
    ∨ (1 ≤ c.mdgid.part ∧ c.mdgid.part ≤ 100) ∧ (1 ≤ d.mdgid.part ∧ d.mdgid.part ≤ 100)

theorem written_reference_eq_iff (h : Alike c d) :
    fileName c.referenceNumber.toList = fileName d.referenceNumber.toList
      ↔ c.mdgid.part = d.mdgid.part ∧ writtenId c.mdgid = writtenId d.mdgid := by
  rcases h with ⟨hc, hd⟩ | ⟨⟨hc, -⟩, ⟨hd, -⟩⟩
  · rw [written_whole hc, written_whole hd, hc, hd]
    exact (and_iff_right rfl).symm
  · rw [written_part hc, written_part hd]
    constructor
    · intro heq
      -- digits have no hyphen, so both are cut at the same one
      have hcut : ∀ n : Nat, '-' ∉ (toString n).toList := fun n =>
        (Mdgid.not_mem_digits (Decimal.writes_toString n).digits).2
      have hsplit := congrArg (Mdgid.splitLast '-') heq
      rw [Mdgid.splitLast_append (hcut _), Mdgid.splitLast_append (hcut _), Option.some.injEq,
        Prod.mk.injEq, toString_toList_inj] at hsplit
      obtain ⟨hid, hpart⟩ := hsplit
      exact ⟨by omega, hid⟩
    · rintro ⟨hpart, hid⟩
      rw [hpart, hid]

/-- Two cells of one kind that have no names of their own for their files share a
file if and only if they are of one part and their identifiers are written alike.
Identifiers of characters that may stand in names are written as they are, so
such cells have different files unless they have the same identifier. -/
theorem fileStem_eq_iff (hc : Unnamed c) (hd : Unnamed d) (hparts : Alike c d) :
    (s.fileStem c = s.fileStem d
        ↔ c.mdgid.part = d.mdgid.part ∧ writtenId c.mdgid = writtenId d.mdgid)
      ∧ ((∀ ch ∈ c.mdgid.id.toList, isNameChar ch = true)
        → (∀ ch ∈ d.mdgid.id.toList, isNameChar ch = true)
        → c.mdgid ≠ d.mdgid → s.fileStem c ≠ s.fileStem d) := by
  have hstems : s.fileStem c = s.fileStem d
      ↔ c.mdgid.part = d.mdgid.part ∧ writtenId c.mdgid = writtenId d.mdgid := by
    rw [← written_reference_eq_iff hparts, ← String.toList_inj, fileStem_toList hc,
      fileStem_toList hd, List.append_cancel_left_eq, List.cons.injEq]
    exact and_iff_right rfl
  refine ⟨hstems, fun hcs hds hne hsame => hne ?_⟩
  obtain ⟨hpart, hid⟩ := hstems.mp hsame
  have hid : c.mdgid.id.toList = d.mdgid.id.toList := by
    rwa [writtenId, writtenId, fileName_eq_self hcs, fileName_eq_self hds] at hid
  calc c.mdgid = ⟨c.mdgid.id, c.mdgid.part⟩ := rfl
    _ = ⟨d.mdgid.id, d.mdgid.part⟩ := by rw [String.toList_inj.mp hid, hpart]
    _ = d.mdgid := rfl

/-- Two parts of one cell have files of their own. -/
theorem fileStem_eq_iff_parts :
    ∃ c d : Cell Float, c.mdgid = ⟨"NK-32", 1⟩ ∧ d.mdgid = ⟨"NK-32", 11⟩
      ∧ Unnamed c ∧ Unnamed d ∧ Alike c d
      ∧ ∀ s : Sheet Float, s.fileStem c ≠ s.fileStem d := by
  have hplain : ∀ m, Unnamed ({ mdgid := m } : Cell Float) := by
    intro m
    unfold Unnamed
    rfl
  have halike : Alike ({ mdgid := ⟨"NK-32", 1⟩ } : Cell Float) { mdgid := ⟨"NK-32", 11⟩ } :=
    Or.inr (by decide)
  have hchars : ∀ ch ∈ "NK-32".toList, isNameChar ch = true := by simp [isNameChar]
  refine ⟨_, _, rfl, rfl, hplain _, hplain _, halike, fun s => ?_⟩
  exact (fileStem_eq_iff (hplain _) (hplain _) halike).2 hchars hchars (by decide)

section
open scoped Coarse

/-- A table of two sheets whose identifiers are written alike. -/
def twins : CellTable Rat where
  features := [Coarse.featureOver "A B" ⟨5, 11 / 2, 57, 229 / 4⟩,
    Coarse.featureOver "A_B" ⟨11 / 2, 6, 57, 229 / 4⟩]
  size := .fiftyThousand

/-- Two cells of one table, with different identifiers, that share a file. -/
theorem fileStem_twins :
    ∃ c d : Cell Rat, (Provider.table twins).cellNamed (.whole "A B") = .ok c
      ∧ (Provider.table twins).cellNamed (.whole "A_B") = .ok d
      ∧ c.mdgid = ⟨"A B", 0⟩ ∧ d.mdgid = ⟨"A_B", 0⟩ ∧ Unnamed c ∧ Unnamed d
      ∧ ({ name := "50k" } : Sheet Rat).fileStem c = "50k_A_B"
      ∧ ({ name := "50k" } : Sheet Rat).fileStem d = "50k_A_B" := by
  have hc : ((Provider.table twins).cellNamed (.whole "A B")).toOption.map
      (fun c => (c.mdgid, (c.metadata.lookup "filename").getD "",
        ({ name := "50k" } : Sheet Rat).fileStem c)) = some (⟨"A B", 0⟩, "", "50k_A_B") := by
    decide +kernel
  have hd : ((Provider.table twins).cellNamed (.whole "A_B")).toOption.map
      (fun c => (c.mdgid, (c.metadata.lookup "filename").getD "",
        ({ name := "50k" } : Sheet Rat).fileStem c)) = some (⟨"A_B", 0⟩, "", "50k_A_B") := by
    decide +kernel
  obtain ⟨c, hc, hcell⟩ := Outcome.ok_of_toOption hc
  obtain ⟨d, hd, hother⟩ := Outcome.ok_of_toOption hd
  simp only [Prod.mk.injEq] at hcell hother
  exact ⟨c, d, hc, hd, hcell.1, hother.1, hcell.2.1, hother.2.1, hcell.2.2, hother.2.2⟩

end

end Sheet

end MapSheets
