import MapSheets.Number.Power
import MapSheets.Proofs.Cell.Identifier
import Mathlib.Data.List.DropRight

/-
Identifiers read back from print. Reading trims a text, cuts it at its last
mark and takes the digits there for a part (`parse_eq_ok_iff`); printing puts
a part behind a colon and leaves part zero out. So what comes back hangs on
the sign of the part:

- a part above zero is kept whatever the identifier looks like, if only no
  blank stands in front of it and the digits are few enough to be read
  (`parse_text_of_pos`);
- without a part the identifier stands alone, and it is kept if reading finds
  nothing to trim and nothing to cut (`parse_text_of_zero`);
- a part below zero is lost, since no text is read as one.

Reading removes the blanks and the numbers that it finds, but it looks once.
A part that is written as zero leaves the identifier bare, and what stands
before that zero may be trimmed or cut again (`reread_iff`).
-/

namespace MapSheets

namespace Text

-- =============================================================== the ends

/-- A blank stands in front. -/
def BeginsBlank (cs : List Char) : Prop := ∃ c ∈ cs.head?, isBlank c = true

/-- A blank stands at the end. -/
def EndsBlank (cs : List Char) : Prop := ∃ c ∈ cs.getLast?, isBlank c = true

theorem not_beginsBlank_iff {cs : List Char} :
    ¬BeginsBlank cs ↔ ∀ c ∈ cs.head?, isBlank c = false := by
  simp [BeginsBlank]

theorem not_endsBlank_iff {cs : List Char} :
    ¬EndsBlank cs ↔ ∀ c ∈ cs.getLast?, isBlank c = false := by
  simp [EndsBlank]

theorem BeginsBlank.append {cs rest : List Char} (h : BeginsBlank cs) :
    BeginsBlank (cs ++ rest) := by
  obtain ⟨c, hc, hblank⟩ := h
  exact ⟨c, by simp [Option.mem_def.mp hc], hblank⟩

theorem trimmed_infix (cs : List Char) : trimmed cs <:+: cs :=
  (List.rdropWhile_prefix isBlank _).isInfix.trans (List.dropWhile_suffix isBlank).isInfix

theorem not_beginsBlank_trimmed (cs : List Char) : ¬BeginsBlank (trimmed cs) := by
  intro h
  obtain ⟨rest, hrest⟩ := List.rdropWhile_prefix isBlank (cs.dropWhile isBlank)
  have hfront : BeginsBlank (cs.dropWhile isBlank) := hrest ▸ h.append
  obtain ⟨c, hc, hblank⟩ := hfront
  have hnot := List.head?_dropWhile_not isBlank cs
  rw [Option.mem_def.mp hc] at hnot
  exact Bool.false_ne_true (hnot.symm.trans hblank)

theorem not_endsBlank_trimmed (cs : List Char) : ¬EndsBlank (trimmed cs) := by
  rintro ⟨c, hc, hblank⟩
  obtain ⟨hne, hlast⟩ := List.mem_getLast?_eq_getLast hc
  have hnot := List.rdropWhile_last_not isBlank (cs.dropWhile isBlank) hne
  exact hnot (hlast ▸ hblank)

theorem trimmed_eq_self_iff {cs : List Char} :
    trimmed cs = cs ↔ ¬BeginsBlank cs ∧ ¬EndsBlank cs := by
  constructor
  · intro h
    rw [← h]
    exact ⟨not_beginsBlank_trimmed cs, not_endsBlank_trimmed cs⟩
  · rintro ⟨hfirst, hlast⟩
    exact trimmed_eq_self (not_beginsBlank_iff.mp hfirst) (not_endsBlank_iff.mp hlast)

end Text

namespace Mdgid

-- ============================================================ the suffix

/-- What stands behind the last colon of a text, or behind its last hyphen if
it has no colon. -/
def suffix? (cs : List Char) : Option (List Char) :=
  if ':' ∈ cs then some (cs.rtakeWhile (· != ':'))
  else if '-' ∈ cs then some (cs.rtakeWhile (· != '-'))
  else none

/-- The suffix of a text is a number, in digits from zero to nine. -/
def Splittable (cs : List Char) : Prop :=
  ∃ suffix ∈ suffix? cs, suffix ≠ [] ∧ ∀ d ∈ suffix, d.isDigit = true

theorem rtakeWhile_mark {mark : Char} {after : List Char} (hafter : mark ∉ after)
    (before : List Char) : (before ++ mark :: after).rtakeWhile (· != mark) = after := by
  have hall : ∀ c ∈ after.reverse, (c != mark) = true := by
    intro c hc
    rw [bne_iff_ne]
    rintro rfl
    exact hafter (List.mem_reverse.mp hc)
  unfold List.rtakeWhile
  rw [List.reverse_append, List.reverse_cons, List.append_assoc,
    List.takeWhile_append_of_pos hall]
  simp

theorem exists_last_mark {mark : Char} {cs : List Char} (h : mark ∈ cs) :
    ∃ before after, cs = before ++ mark :: after ∧ mark ∉ after := by
  cases hcut : splitLast mark cs with
  | none => exact absurd h (splitLast_eq_none_iff.mp hcut)
  | some parts => exact ⟨parts.1, parts.2, of_splitLast hcut⟩

/-- A text whose suffix is a number is one that is put together around it. -/
theorem splittable_iff {cs : List Char} :
    Splittable cs ↔ ∃ before digits, Parted cs before digits := by
  unfold Splittable suffix?
  constructor
  · rintro ⟨suffix, hsuffix, hne, hdigits⟩
    by_cases hcolon : ':' ∈ cs
    · obtain ⟨before, after, hcs, hafter⟩ := exists_last_mark hcolon
      rw [if_pos hcolon, hcs, rtakeWhile_mark hafter, Option.mem_some_iff] at hsuffix
      exact ⟨before, suffix, hne, hdigits, Or.inl (hsuffix ▸ hcs)⟩
    · rw [if_neg hcolon] at hsuffix
      by_cases hhyphen : '-' ∈ cs
      · obtain ⟨before, after, hcs, hafter⟩ := exists_last_mark hhyphen
        rw [if_pos hhyphen, hcs, rtakeWhile_mark hafter, Option.mem_some_iff] at hsuffix
        refine ⟨before, suffix, hne, hdigits, Or.inr ⟨fun h => hcolon ?_, hsuffix ▸ hcs⟩⟩
        rw [hcs]
        exact List.mem_append_left _ h
      · rw [if_neg hhyphen] at hsuffix
        cases hsuffix
  · rintro ⟨before, digits, hne, hdigits, hmark⟩
    obtain ⟨hcolon, hhyphen⟩ := not_mem_digits hdigits
    refine ⟨digits, ?_, hne, hdigits⟩
    rcases hmark with hcs | ⟨hbefore, hcs⟩
    · have hmem : ':' ∈ cs := by simp [hcs]
      rw [if_pos hmem, hcs, rtakeWhile_mark hcolon]
      rfl
    · have hnot : ':' ∉ cs := by simp [hcs, hbefore, hcolon]
      have hmem : '-' ∈ cs := by simp [hcs]
      rw [if_neg hnot, if_pos hmem, hcs, rtakeWhile_mark hhyphen]
      rfl

theorem Parted.length_lt {cs before digits : List Char} (h : Parted cs before digits) :
    before.length < cs.length := by
  rcases h.marked with hcs | ⟨-, hcs⟩
  · simp [hcs]
  · simp [hcs]

/-- What stands before the mark begins as the whole text does. -/
theorem Parted.beginsBlank {cs before digits : List Char} (h : Parted cs before digits)
    (hblank : Text.BeginsBlank before) : Text.BeginsBlank cs := by
  rcases h.marked with hcs | ⟨-, hcs⟩
  · exact hcs ▸ hblank.append
  · exact hcs ▸ hblank.append

-- ============================================================ what is read

/-- What a text is read as: around a number behind its last mark an identifier
with a part, if the digits are few enough, and otherwise a whole sheet. -/
theorem parse_eq_ok_iff {text : String} {m : Mdgid} :
    parse text = .ok m ↔
      (∃ before digits, Parted (Text.trimmed text.toList) before digits
        ∧ digits.length ≤ Text.mostDigits
        ∧ m = ⟨String.ofList before, (Nat.ofDigitChars 10 digits 0 : Nat)⟩)
      ∨ ¬Splittable (Text.trimmed text.toList)
        ∧ m = whole (String.ofList (Text.trimmed text.toList)) := by
  rw [splittable_iff]
  by_cases hsplit : ∃ before digits, Parted (Text.trimmed text.toList) before digits
  · obtain ⟨before, digits, hparted⟩ := hsplit
    rw [parse_of_parted hparted]
    unfold partNumber
    rw [numeral_digits]
    constructor
    · intro h
      obtain ⟨n, hn, hm⟩ := Outcome.bind_eq_ok.mp h
      split at hn
      case isTrue => cases hn
      case isFalse hshort =>
        cases hn
        cases hm
        exact Or.inl ⟨before, digits, hparted, not_lt.mp hshort, rfl⟩
    · rintro (⟨before', digits', hparted', hshort, rfl⟩ | ⟨hnot, -⟩)
      · have hsame := (splitPart?_of_parted hparted).symm.trans (splitPart?_of_parted hparted')
        cases hsame
        rw [if_neg (not_lt.mpr hshort)]
        rfl
      · exact absurd ⟨before, digits, hparted⟩ hnot
  · rw [parse_of_not_parted hsplit]
    constructor
    · intro h
      cases h
      exact Or.inr ⟨hsplit, rfl⟩
    · rintro (⟨before, digits, hparted, -⟩ | ⟨-, rfl⟩)
      · exact absurd ⟨before, digits, hparted⟩ hsplit
      · rfl

/-- An identifier that was read has no blank in front. -/
theorem not_beginsBlank_of_parse {text : String} {m : Mdgid} (h : parse text = .ok m) :
    ¬Text.BeginsBlank m.id.toList := by
  rcases parse_eq_ok_iff.mp h with ⟨before, digits, hparted, -, rfl⟩ | ⟨-, rfl⟩
  · intro hblank
    rw [String.toList_ofList] at hblank
    exact Text.not_beginsBlank_trimmed _ (hparted.beginsBlank hblank)
  · show ¬Text.BeginsBlank (String.ofList (Text.trimmed text.toList)).toList
    rw [String.toList_ofList]
    exact Text.not_beginsBlank_trimmed _

/-- A part that was read is a count of as many digits as can be read. -/
theorem part_range_of_parse {text : String} {m : Mdgid} (h : parse text = .ok m) :
    0 ≤ m.part ∧ m.part < tenTo Text.mostDigits := by
  rcases parse_eq_ok_iff.mp h with ⟨before, digits, hparted, hshort, rfl⟩ | ⟨-, rfl⟩
  · have hlt : Nat.ofDigitChars 10 digits 0 < tenTo Text.mostDigits :=
      (Decimal.ofDigitChars_lt hparted.onlyDigits).trans_le (Decimal.tenTo_le_tenTo hshort)
    exact ⟨Int.natCast_nonneg _, Int.ofNat_lt.mpr hlt⟩
  · exact ⟨le_refl _, Int.ofNat_lt.mpr (tenTo_pos _)⟩

-- =========================================================== read from print

theorem text_of_nonpos {m : Mdgid} (hpart : m.part ≤ 0) : m.text = m.id :=
  if_neg (not_lt.mpr hpart)

/-- A part above zero comes back, unless a blank in front is trimmed or its
digits are too many to be read. -/
theorem parse_text_of_pos {m : Mdgid} (hpart : 0 < m.part) :
    parse m.text = .ok m ↔ ¬Text.BeginsBlank m.id.toList ∧ m.part < tenTo Text.mostDigits := by
  constructor
  · intro h
    exact ⟨not_beginsBlank_of_parse h, (part_range_of_parse h).2⟩
  · rintro ⟨hfirst, hbound⟩
    obtain ⟨n, hn⟩ := Int.eq_ofNat_of_zero_le hpart.le
    rw [hn] at hpart hbound
    have hdigits : n < 10 ^ Text.mostDigits := by
      rw [← Decimal.tenTo_eq_pow]
      exact Int.ofNat_lt.mp hbound
    have hshort : (toString n).length ≤ Text.mostDigits :=
      Decimal.length_toString_le (by decide) hdigits
    exact parse_text_of_part (Text.not_beginsBlank_iff.mp hfirst) hn (Int.ofNat_lt.mp hpart) hshort

/-- Without a part an identifier comes back if there is nothing to trim and
nothing to cut. -/
theorem parse_text_of_zero {m : Mdgid} (hpart : m.part = 0) :
    parse m.text = .ok m ↔ ¬Text.BeginsBlank m.id.toList ∧ ¬Text.EndsBlank m.id.toList
      ∧ ¬Splittable m.id.toList := by
  have hwhole : m = whole m.id := by
    rw [whole, ← hpart]
  rw [text_of_nonpos hpart.le, parse_eq_ok_iff]
  constructor
  · rintro (⟨before, digits, hparted, -, hm⟩ | ⟨hnot, hm⟩)
    · -- a cut takes characters away, and so does trimming
      have hcut := hparted.length_lt
      have htrim := (Text.trimmed_infix m.id.toList).length_le
      have hid : m.id.toList = before := by
        rw [hm, String.toList_ofList]
      rw [hid] at hcut htrim
      omega
    · have hid : m.id.toList = Text.trimmed m.id.toList := by
        conv_lhs => rw [hm, whole, String.toList_ofList]
      rw [← hid] at hnot
      obtain ⟨hfirst, hlast⟩ := Text.trimmed_eq_self_iff.mp hid.symm
      exact ⟨hfirst, hlast, hnot⟩
  · rintro ⟨hfirst, hlast, hnot⟩
    rw [Text.trimmed_eq_self_iff.mpr ⟨hfirst, hlast⟩, String.ofList_toList]
    exact Or.inr ⟨hnot, hwhole⟩

/-- The printed form shows all that reading needs: a part above zero behind an
identifier without a blank in front, or an identifier alone that has a blank
at neither end and no number for a suffix. -/
def Legible (m : Mdgid) : Prop :=
  0 < m.part ∧ ¬Text.BeginsBlank m.id.toList
    ∨ m.part = 0 ∧ (¬Text.BeginsBlank m.id.toList ∧ ¬Text.EndsBlank m.id.toList)
      ∧ ¬Splittable m.id.toList

/-- An identifier is read back from its printed form exactly where that form is
legible and the number of the part has no more digits than are read. -/
theorem parse_text_iff_legible (m : Mdgid) :
    parse m.text = .ok m ↔ m.Legible ∧ m.part < tenTo Text.mostDigits := by
  unfold Legible
  rcases lt_trichotomy m.part 0 with hneg | hzero | hpos
  · constructor
    · intro h
      exact absurd (part_range_of_parse h).1 (not_le.mpr hneg)
    · rintro ⟨⟨hpos, -⟩ | ⟨hzero, -⟩, -⟩
      · omega
      · omega
  · rw [parse_text_of_zero hzero]
    constructor
    · rintro ⟨hfirst, hlast, hnot⟩
      refine ⟨Or.inr ⟨hzero, ⟨hfirst, hlast⟩, hnot⟩, ?_⟩
      rw [hzero]
      exact Int.ofNat_lt.mpr (tenTo_pos _)
    · rintro ⟨⟨hpos, -⟩ | ⟨-, ⟨hfirst, hlast⟩, hnot⟩, -⟩
      · exact absurd hzero hpos.ne'
      · exact ⟨hfirst, hlast, hnot⟩
  · rw [parse_text_of_pos hpos]
    constructor
    · rintro ⟨hfirst, hshort⟩
      exact ⟨Or.inl ⟨hpos, hfirst⟩, hshort⟩
    · rintro ⟨⟨-, hfirst⟩ | ⟨hzero, -⟩, hshort⟩
      · exact ⟨hfirst, hshort⟩
      · exact absurd hzero hpos.ne'

/-- A part of one digit too many is legible, and is not read. -/
theorem parse_text_too_long :
    ¬(parse (Mdgid.text ⟨"A", tenTo Text.mostDigits⟩) = .ok ⟨"A", tenTo Text.mostDigits⟩
      ↔ Legible ⟨"A", tenTo Text.mostDigits⟩) := by
  intro h
  have hpos : (0 : Int) < tenTo Text.mostDigits := Int.ofNat_lt.mpr (tenTo_pos _)
  have hfirst : ¬Text.BeginsBlank "A".toList := by
    rintro ⟨c, hc, hblank⟩
    have hhead : "A".toList.head? = some 'A' := by decide
    cases hhead.symm.trans hc
    exact absurd hblank (by decide)
  have hlegible : Legible ⟨"A", tenTo Text.mostDigits⟩ := Or.inl ⟨hpos, hfirst⟩
  exact absurd (part_range_of_parse (h.mpr hlegible)).2 (lt_irrefl _)

-- ============================================================== read again

/-- What a text is read as is read from its own printed form as the same,
exactly where a part that is written as zero leaves an identifier behind that
has no blank at its end and no number for a suffix. -/
theorem reread_iff (text : String) :
    (∃ m, parse text = .ok m ∧ parse m.text = .ok m) ↔
      ∀ before digits, Parted (Text.trimmed text.toList) before digits →
        digits.length ≤ Text.mostDigits
          ∧ ((∀ d ∈ digits, d = '0') → ¬Text.EndsBlank before ∧ ¬Splittable before) := by
  constructor
  · rintro ⟨m, hread, hagain⟩ before digits hparted
    rcases parse_eq_ok_iff.mp hread with ⟨before', digits', hparted', hshort, rfl⟩ | ⟨hnot, -⟩
    · cases (splitPart?_of_parted hparted).symm.trans (splitPart?_of_parted hparted')
      refine ⟨hshort, fun hzeros => ?_⟩
      have hzero := (Decimal.ofDigitChars_eq_zero_iff hparted.onlyDigits).mpr hzeros
      have hkept := ((parse_text_of_zero (Int.ofNat_eq_zero.mpr hzero)).mp hagain).2
      rw [String.toList_ofList] at hkept
      exact hkept
    · exact absurd (splittable_iff.mpr ⟨before, digits, hparted⟩) hnot
  · intro hkept
    by_cases hsplit : Splittable (Text.trimmed text.toList)
    · obtain ⟨before, digits, hparted⟩ := splittable_iff.mp hsplit
      obtain ⟨hshort, hzeros⟩ := hkept before digits hparted
      have hread := parse_eq_ok_iff.mpr (Or.inl ⟨before, digits, hparted, hshort, rfl⟩)
      refine ⟨_, hread, ?_⟩
      have hfirst := not_beginsBlank_of_parse hread
      rcases Nat.eq_zero_or_pos (Nat.ofDigitChars 10 digits 0) with hzero | hpos
      · have hend := hzeros ((Decimal.ofDigitChars_eq_zero_iff hparted.onlyDigits).mp hzero)
        refine (parse_text_of_zero (Int.ofNat_eq_zero.mpr hzero)).mpr ⟨hfirst, ?_⟩
        rw [String.toList_ofList]
        exact hend
      · exact (parse_text_of_pos (Int.ofNat_lt.mpr hpos)).mpr
          ⟨hfirst, (part_range_of_parse hread).2⟩
    · have hread := parse_eq_ok_iff.mpr (Or.inr ⟨hsplit, rfl⟩)
      refine ⟨_, hread, (parse_text_of_zero rfl).mpr ⟨not_beginsBlank_of_parse hread, ?_⟩⟩
      show ¬Text.EndsBlank (String.ofList _).toList ∧ ¬Splittable (String.ofList _).toList
      rw [String.toList_ofList]
      exact ⟨Text.not_endsBlank_trimmed _, hsplit⟩

-- part zero is not printed, and what stands before it is read as a part
example : parse "A-1-0" = .ok ⟨"A-1", 0⟩ ∧ parse (text ⟨"A-1", 0⟩) = .ok ⟨"A", 1⟩ := by
  decide +kernel

end Mdgid

end MapSheets
