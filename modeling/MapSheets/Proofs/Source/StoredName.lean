import MapSheets.Proofs.Geodesy.Coarse
import MapSheets.Proofs.Number.Places
import MapSheets.Proofs.Source.Describing
import MapSheets.Proofs.Source.Scan
import MapSheets.Proofs.Source.Stored
import MapSheets.Source.Table

/-
What a lookup by identifier asks for and what it answers with. The column of
the identifiers is told twice: as the text that a feature is found by
(`CellTable.key`), and as the text that its cell is printed with
(`Row.textAt`). A lookup answers with the cell of the first feature that is
found by the text, and reports that there is none exactly where no feature is.
The cell is printed with the same text unless the entry is a moment that its
column shortens (`Moment.PrintsAmong`), a list of nothing but a gap, or a gap
(`CellTable.named_prints_iff`).

A gap is found by no text. Where the column is told by a program that finds a
gap by some text, the same holds, and the answer for that text is printed
with none; so the lookup is taken with any such text, or with none
(`CellTable.namedWith`).
-/

namespace MapSheets

-- ================================================================= moments

namespace Moment

variable {column : List Moment} {m : Moment}

/-- A moment alone is printed as it is among those of a column: its clock is of
known distance, or its year has four digits or more, not all are dates alone and none
has a part of a second. -/
def PrintsAmong (column : List Moment) (m : Moment) : Prop :=
  m.ahead.isSome = true
    ∨ 1000 ≤ m.year ∧ column.all isDateAlone = false ∧ ∀ d ∈ column, d.micro = 0

/-- Two dates agree in their years and in the rest; a padded year is as it stands
from a thousand on. -/
theorem year_append_inj {y : Int} {s t : String} :
    Decimal.padded 4 y.toNat ++ ("-" ++ s) = toString y ++ ("-" ++ t) ↔ 1000 ≤ y ∧ s = t := by
  have hwrites := Decimal.writes_padded 4 y.toNat
  have hmark : '-'.isDigit = false := by decide
  rw [← String.toList_inj]
  simp only [String.toList_append]
  show _ ++ '-' :: s.toList = _ ++ '-' :: t.toList ↔ _
  cases y with
  | negSucc n =>
      -- the sign stands where the other has a digit
      have hsign : (toString (Int.negSucc n)).toList = '-' :: (toString (n + 1)).toList :=
        String.toList_append
      rw [hsign]
      exact iff_of_false (hwrites.append_ne_cons hmark _ _) fun h => by omega
  | ofNat n =>
      have hpadded : Decimal.padded 4 n = toString n ↔ 1000 ≤ n :=
        Decimal.padded_eq_toString_iff (by decide)
      refine (hwrites.append_mark_inj (Decimal.writes_toString n) hmark).trans ?_
      show Decimal.padded 4 n = toString n ∧ _ ↔ 1000 ≤ (n : Int) ∧ _
      rw [hpadded, String.toList_inj, Nat.ofNat_le_cast]

theorem mark_append_ne_empty {mark s : String} (h : mark ≠ "") : mark ++ s ≠ "" :=
  fun hs => h (String.append_eq_empty_iff.mp hs).1

/-- The part of a second is written alike only where there is none. -/
theorem fraction_eq_iff (hm : m ∈ column) :
    ((if m.micro = 0 then "" else "." ++ Decimal.padded 6 m.micro)
        = if column.all (·.micro = 0) then "" else "." ++ Decimal.padded 3 (m.micro / 1000))
      ↔ ∀ d ∈ column, d.micro = 0 := by
  by_cases hall : ∀ d ∈ column, d.micro = 0
  · have hnone : column.all (·.micro = 0) = true := by simpa using hall
    rw [if_pos (hall m hm), if_pos hnone]
    exact iff_of_true rfl hall
  · have hsome : ¬column.all (·.micro = 0) = true := by simpa using hall
    rw [if_neg hsome]
    refine iff_of_false (fun h => ?_) hall
    by_cases hzero : m.micro = 0
    · rw [if_pos hzero] at h
      exact mark_append_ne_empty (by decide) h.symm
    · rw [if_neg hzero, String.append_right_inj] at h
      -- the digits would write the parts and their thousandths
      have hleft := (Decimal.writes_padded 6 m.micro).value
      rw [h, (Decimal.writes_padded 3 (m.micro / 1000)).value] at hleft
      omega

theorem textWith_eq_textAmong_iff (hm : m ∈ column) :
    m.textWith " " = m.textAmong column ↔ m.PrintsAmong column := by
  unfold PrintsAmong textAmong
  cases hahead : m.ahead with
  | some minutes => simp
  | none =>
      unfold textWith dateText
      rw [hahead]
      by_cases hdates : column.all isDateAlone = true
      · simp only [hdates, Option.isSome_none, Bool.false_eq_true, ↓reduceIte, String.append_assoc,
          year_append_inj, String.append_right_inj, reduceCtorEq, false_and, and_false, or_self,
          iff_false, not_and]
        intro _ h
        -- the time of day stands behind the date
        have htime := (String.append_right_inj _).mp (h.trans String.append_empty.symm)
        exact mark_append_ne_empty (by decide) htime
      · rw [Bool.not_eq_true] at hdates
        simp only [hdates, Option.isSome_none, Bool.false_eq_true, ↓reduceIte, String.append_assoc,
          year_append_inj, String.append_right_inj, Option.map_none, Option.getD_none,
          String.append_empty, fraction_eq_iff hm, false_or, true_and]

end Moment

-- ================================================================= entries

variable {α : Type} [Scalar α] [NumberText α]

/-- The text of a column is empty where the entry counts as missing, and what the
entry shows otherwise. -/
theorem Row.of_textAt {r : Row α} {name id : String} (h : r.textAt name = .ok id) :
    ∃ gone, (r.entry name).isMissing = .ok gone
      ∧ id = if gone then "" else (r.entry name).shown.getD "" := by
  obtain ⟨text, htext, h⟩ := Outcome.bind_eq_ok.mp h
  obtain ⟨gone, hgone, htext⟩ := Outcome.bind_eq_ok.mp htext
  refine ⟨gone, hgone, ?_⟩
  cases h
  cases gone with
  | true =>
      cases htext
      rfl
  | false =>
      cases htext
      rfl

namespace Entry

variable {e : Entry α}

/-- An entry that counts as missing shows nothing, or is a list of nothing but a gap. -/
theorem shown_of_missing (h : e.isMissing = .ok true) :
    e.shown = none ∨ e = .compound (.arr [.null]) := by
  unfold isMissing at h
  split at h
  case h_1 => exact Or.inl rfl
  case h_2 x =>
      have hx : Scalar.isUndefined x = true := Except.ok.inj h
      exact Or.inl (if_pos hx)
  case h_3 => exact Or.inr rfl
  all_goals cases h

/-- An entry that is there shows a text. -/
theorem shown_of_there (h : e.isMissing = .ok false) :
    (∃ s, e.shown = some s) ∧ e ≠ .compound (.arr [.null]) := by
  refine ⟨?_, fun hgap => ?_⟩
  · cases e with
    | missing => cases h
    | number x =>
        have hx : Scalar.isUndefined x = false := Except.ok.inj h
        exact ⟨NumberText.shortest x, if_neg (Bool.eq_false_iff.mp hx)⟩
    | _ => exact ⟨_, rfl⟩
  · rw [hgap] at h
    cases h

theorem idText_of_not_moment {column : List (Entry α)} (h : ∀ m, e ≠ .moment m) :
    e.idText column = e.shown := by
  cases e with
  | moment m => exact absurd rfl (h m)
  | _ => rfl

/-- An entry is printed with the text that it is found by, if it has one, unless
it is a list of nothing but a gap or a moment that its column shortens. -/
theorem prints_iff {column : List (Entry α)} (he : e ∈ column) {gone : Bool}
    (hgone : e.isMissing = .ok gone) {gap : Option String} {key : String}
    (hkey : (e.idText column <|> gap) = some key) :
    (if gone then "" else e.shown.getD "") = key
      ↔ (e.idText column = none → key = "") ∧ e ≠ .compound (.arr [.null])
        ∧ ∀ m, e = .moment m → m.PrintsAmong (column.filterMap moment?) := by
  by_cases hmoment : ∃ m, e = .moment m
  · obtain ⟨m, rfl⟩ := hmoment
    have hm : m ∈ column.filterMap moment? := List.mem_filterMap.mpr ⟨_, he, rfl⟩
    have hiff := Moment.textWith_eq_textAmong_iff hm
    cases hgone
    cases hkey
    show m.textWith " " = _ ↔ _
    rw [hiff]
    simp [idText]
  · have hnot : ∀ m, e ≠ .moment m := fun m hm => hmoment ⟨m, hm⟩
    rw [idText_of_not_moment hnot] at hkey ⊢
    cases gone with
    | true =>
        rcases shown_of_missing hgone with hnone | rfl
        · refine ⟨fun h => ⟨fun _ => h.symm, fun hlist => ?_, fun m hm => absurd hm (hnot m)⟩,
            fun h => (h.1 hnone).symm⟩
          rw [hlist] at hnone
          cases hnone
        · have hshown : (Json.arr [.null]).display ≠ "" := by decide
          cases hkey
          exact iff_of_false hshown.symm fun h => h.2.1 rfl
    | false =>
        obtain ⟨⟨s, hs⟩, hlist⟩ := shown_of_there hgone
        rw [hs] at hkey ⊢
        cases hkey
        simp [hlist, hnot]

end Entry

-- ================================================================= lookups

namespace CellTable

variable {t : CellTable α} {f : Feature α}

/-- The identifier that a feature is found by, where a gap is found by some text
or by none. -/
def keyWith (gap : Option String) (t : CellTable α) (f : Feature α) : Option String :=
  t.key f <|> gap

/-- The moments in the column of the identifiers. -/
def idMoments (t : CellTable α) : List Moment :=
  (column t.features Feature.idColumn).filterMap Entry.moment?

variable [NumberReading α] [Elementary α]

/-- The lookup by identifier, where a gap is found by some text or by none. -/
def namedWith (gap : Option String) (t : CellTable α) (m : Mdgid) : Outcome (Cell α) := do
  if !t.features.any (fun f => (f.row.lookup Feature.idColumn).isSome) then
    throw (.keyAbsent (Text.quoted Feature.idColumn))
  match t.features.find? fun f => t.keyWith gap f == some m.id with
  | none => throw (.noCellNamed m.id)
  | some f => f.cell

/-- A gap is found by no text. -/
theorem namedWith_none (t : CellTable α) (m : Mdgid) : t.namedWith none m = t.cellNamed m := by
  have hkey : t.keyWith none = t.key := funext fun f => by
    unfold keyWith
    cases t.key f with
    | none => rfl
    | some id => rfl
  unfold namedWith cellNamed
  exact hkey ▸ rfl

variable {gap : Option String} {m : Mdgid} {c : Cell α}

theorem namedWith_of_first
    (hcolumn : ∃ f ∈ t.features, (f.row.lookup Feature.idColumn).isSome = true)
    (hfirst : FirstWith (fun f => t.keyWith gap f = some m.id) t.features f) :
    t.namedWith gap m = f.cell := by
  have hfind : (t.features.find? fun f => t.keyWith gap f == some m.id) = some f := by
    obtain ⟨before, after, hsplit, hf, hbefore⟩ := hfirst
    rw [List.find?_eq_some_iff_append]
    refine ⟨by simpa using hf, before, after, hsplit, fun g hg => ?_⟩
    simpa using hbefore g hg
  unfold namedWith
  rw [List.any_eq_true.mpr hcolumn, hfind]
  rfl

theorem namedWith_of_none
    (hcolumn : ∃ f ∈ t.features, (f.row.lookup Feature.idColumn).isSome = true)
    (hnone : ∀ f ∈ t.features, t.keyWith gap f ≠ some m.id) :
    t.namedWith gap m = .error (.noCellNamed m.id) := by
  have hfind : (t.features.find? fun f => t.keyWith gap f == some m.id) = none :=
    List.find?_eq_none.mpr fun f hf => by simpa using hnone f hf
  unfold namedWith
  rw [List.any_eq_true.mpr hcolumn, hfind]
  rfl

/-- The identifier of the cell of a feature against the text that it is found by. -/
theorem mdgid_of_key (hf : f ∈ t.features) (hcell : f.cell = .ok c) {key : String}
    (hkey : t.keyWith gap f = some key) :
    c.mdgid.id = key
      ↔ (t.key f = none → key = "") ∧ f.row.entry Feature.idColumn ≠ .compound (.arr [.null])
        ∧ ∀ d, f.row.entry Feature.idColumn = .moment d → d.PrintsAmong t.idMoments := by
  obtain ⟨_, _, _, _, id, _, _, -, -, hid, -, -, rfl⟩ := Feature.exists_make_of_cell hcell
  obtain ⟨gone, hgone, rfl⟩ := Row.of_textAt hid
  exact Entry.prints_iff (List.mem_map_of_mem hf) hgone hkey

/-- A lookup by identifier reports that there is none exactly where no feature is
found by the text, and answers otherwise with the cell of the first that is. The
cell is printed with the same text exactly where the entry is none of these: a
gap that is found by a text, a list of nothing but a gap, a moment that its
column shortens. -/
theorem named_prints_iff {t : CellTable α}
    (hcolumn : ∃ f ∈ t.features, (f.row.lookup Feature.idColumn).isSome = true)
    (gap : Option String) (m : Mdgid) :
    t.namedWith none m = t.cellNamed m
      ∧ ((∃ e, t.namedWith gap m = .error e ∧ e.family = .notFound)
        ↔ ∀ f ∈ t.features, t.keyWith gap f ≠ some m.id)
      ∧ ∀ c, t.namedWith gap m = .ok c →
          ∃ f, FirstWith (fun f => t.keyWith gap f = some m.id) t.features f ∧ f.cell = .ok c
            ∧ (c.mdgid.id = m.id
              ↔ (t.key f = none → m.id = "")
                ∧ f.row.entry Feature.idColumn ≠ .compound (.arr [.null])
                ∧ ∀ d, f.row.entry Feature.idColumn = .moment d → d.PrintsAmong t.idMoments) := by
  refine ⟨t.namedWith_none m, ?_, fun c hc => ?_⟩
  · exact notFound_iff (fun f hf => namedWith_of_first hcolumn hf)
      (fun hnone => ⟨_, namedWith_of_none hcolumn hnone, rfl⟩) fun f => f.cell_describes
  · by_cases hsome : ∃ f ∈ t.features, t.keyWith gap f = some m.id
    · obtain ⟨f, hfirst⟩ := exists_firstWith hsome
      rw [namedWith_of_first hcolumn hfirst] at hc
      exact ⟨f, hfirst, hc, mdgid_of_key hfirst.mem hc hfirst.holds⟩
    · have hnone : ∀ f ∈ t.features, t.keyWith gap f ≠ some m.id :=
        fun f hf hkey => hsome ⟨f, hf, hkey⟩
      rw [namedWith_of_none hcolumn hnone] at hc
      cases hc

end CellTable

section
open scoped Coarse

/-- The column of the identifiers holds a day, and a gap in front of it. The day
is found by its date, and printed with its midnight. -/
theorem CellTable.named_prints_midnight :
    ∃ (t : CellTable Rat) (c : Cell Rat),
      (∃ f ∈ t.features, (f.row.lookup Feature.idColumn).isSome = true)
        ∧ t.cellNamed (.whole "2021-03-02") = .ok c ∧ c.mdgid.id = "2021-03-02 00:00:00"
        ∧ c.mdgid.id ≠ (Mdgid.whole "2021-03-02").id
        ∧ ∃ f, FirstWith (fun f => t.keyWith none f = some "2021-03-02") t.features f
          ∧ f.cell = .ok c := by
  let shape : Shape Rat := .ofPolygon (.ofBounds ⟨5, 21 / 4, 57, 229 / 4⟩)
  let day : Moment := { year := 2021, month := 3, day := 2 }
  let t : CellTable Rat := ⟨[⟨some shape, [(Feature.idColumn, .missing)]⟩,
    ⟨some shape, [(Feature.idColumn, .moment day)]⟩], .fiftyThousand⟩
  have hcolumn : ∃ f ∈ t.features, (f.row.lookup Feature.idColumn).isSome = true :=
    ⟨_, List.mem_cons_self, rfl⟩
  have hfound : (t.cellNamed (.whole "2021-03-02")).toOption.map (·.mdgid.id)
      = some "2021-03-02 00:00:00" := by
    decide +kernel
  obtain ⟨c, hc, hid⟩ := Outcome.ok_of_toOption hfound
  obtain ⟨hsame, -, hanswer⟩ := named_prints_iff hcolumn none (.whole "2021-03-02")
  obtain ⟨f, hfirst, hcell, -⟩ := hanswer c (hsame.trans hc)
  refine ⟨t, c, hcolumn, hc, hid, ?_, f, hfirst, hcell⟩
  rw [hid]
  decide

end

end MapSheets
