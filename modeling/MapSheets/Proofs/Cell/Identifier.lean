import MapSheets.Cell.Mdgid
import MapSheets.Proofs.Number.Numeral
import MapSheets.Proofs.Outcome
import Mathlib.Data.List.Basic

/-
How identifiers are read. A text is cut at its last mark, and a colon goes
before a hyphen. `Parted` says so without the search: the text is put together
of what stands before the mark, the mark, and digits. A parted text is read as
an identifier with a part (`parse_of_parted`), any other is read whole
(`parse_of_not_parted`).

The printed form puts a colon and digits behind the identifier, so it is
parted there whatever marks the identifier holds itself, and an identifier
with a part is read back as it was (`parse_text_of_part`). An identifier
without a part is printed as it stands. It has no colon of its own to keep its
marks apart from that of a part, so it comes back only if it is not parted.
-/

namespace MapSheets

namespace Text

-- ============================================================= trimming

theorem dropWhile_isBlank {cs : List Char} (hfirst : ∀ c ∈ cs.head?, isBlank c = false) :
    cs.dropWhile isBlank = cs := by
  cases cs with
  | nil => rfl
  | cons c rest =>
      rw [List.dropWhile_cons_of_neg]
      rw [hfirst c rfl]
      exact Bool.false_ne_true

/-- A text without a blank at either end is left as it is. -/
theorem trimmed_eq_self {cs : List Char} (hfirst : ∀ c ∈ cs.head?, isBlank c = false)
    (hlast : ∀ c ∈ cs.getLast?, isBlank c = false) : trimmed cs = cs := by
  have hback : ∀ c ∈ cs.reverse.head?, isBlank c = false := by
    rw [List.head?_reverse]
    exact hlast
  unfold trimmed stripped
  rw [dropWhile_isBlank hfirst, dropWhile_isBlank hback, List.reverse_reverse]

theorem isBlank_of_isDigit {c : Char} (h : c.isDigit = true) : isBlank c = false := by
  have hrange := Decimal.digit_range h
  unfold isBlank blankRanges
  simp only [List.any_cons, List.any_nil, Bool.or_eq_false_iff, Bool.and_eq_false_iff,
    decide_eq_false_iff_not]
  grind

end Text

namespace Mdgid

-- ============================================================ the marks

theorem splitLast_eq_none_iff {mark : Char} {cs : List Char} :
    splitLast mark cs = none ↔ mark ∉ cs := by
  induction cs with
  | nil => simp [splitLast]
  | cons c rest ih =>
      unfold splitLast
      cases hrest : splitLast mark rest with
      | some parts =>
          have hmem : mark ∈ rest := by
            by_contra hmem
            rw [ih.mpr hmem] at hrest
            cases hrest
          simp [hmem]
      | none =>
          have hmem := ih.mp hrest
          by_cases hc : c = mark
          · simp [hc]
          · simp [hc, hmem, Ne.symm hc]

theorem splitLast_append {mark : Char} {after : List Char} (hafter : mark ∉ after) :
    ∀ before, splitLast mark (before ++ mark :: after) = some (before, after) := by
  intro before
  induction before with
  | nil =>
      show splitLast mark (mark :: after) = _
      unfold splitLast
      rw [splitLast_eq_none_iff.mpr hafter]
      exact if_pos rfl
  | cons c before ih =>
      show splitLast mark (c :: (before ++ mark :: after)) = _
      unfold splitLast
      rw [ih]

theorem of_splitLast {mark : Char} {cs before after : List Char}
    (h : splitLast mark cs = some (before, after)) :
    cs = before ++ mark :: after ∧ mark ∉ after := by
  induction cs generalizing before with
  | nil => cases h
  | cons c rest ih =>
      unfold splitLast at h
      cases hrest : splitLast mark rest with
      | some parts =>
          obtain ⟨front, back⟩ := parts
          rw [hrest] at h
          cases h
          obtain ⟨hcs, hafter⟩ := ih hrest
          rw [hcs]
          exact ⟨rfl, hafter⟩
      | none =>
          rw [hrest] at h
          dsimp only at h
          split at h
          case isTrue hc =>
            cases h
            rw [hc]
            exact ⟨rfl, splitLast_eq_none_iff.mp hrest⟩
          case isFalse => cases h

/-- A text that is put together of what stands before a mark, the mark, and
digits. A hyphen is the mark only where no colon stands before it. -/
structure Parted (cs before digits : List Char) : Prop where
  nonempty : digits ≠ []
  onlyDigits : ∀ d ∈ digits, d.isDigit = true
  marked : cs = before ++ ':' :: digits ∨ ':' ∉ before ∧ cs = before ++ '-' :: digits

theorem isNumber_iff {cs : List Char} :
    isNumber cs = true ↔ cs ≠ [] ∧ ∀ d ∈ cs, d.isDigit = true := by
  unfold isNumber
  rw [Bool.and_eq_true, Bool.not_eq_true', List.isEmpty_eq_false_iff, List.all_eq_true]

theorem not_mem_digits {digits : List Char} (hdigits : ∀ d ∈ digits, d.isDigit = true) :
    ':' ∉ digits ∧ '-' ∉ digits :=
  ⟨fun h => absurd (hdigits _ h) (by decide), fun h => absurd (hdigits _ h) (by decide)⟩

theorem splitPart?_of_parted {cs before digits : List Char} (h : Parted cs before digits) :
    splitPart? cs = some (before, digits) := by
  obtain ⟨hcolon, hhyphen⟩ := not_mem_digits h.onlyDigits
  have hcut : (splitLast ':' cs <|> splitLast '-' cs) = some (before, digits) := by
    rcases h.marked with hcs | ⟨hbefore, hcs⟩
    · rw [hcs, splitLast_append hcolon]
      rfl
    · have hnone : ':' ∉ cs := by
        rw [hcs]
        simp [hbefore, hcolon]
      rw [splitLast_eq_none_iff.mpr hnone, hcs, splitLast_append hhyphen]
      rfl
  unfold splitPart?
  rw [hcut]
  exact if_pos (isNumber_iff.mpr ⟨h.nonempty, h.onlyDigits⟩)

theorem parted_of_splitPart? {cs before digits : List Char}
    (h : splitPart? cs = some (before, digits)) : Parted cs before digits := by
  unfold splitPart? at h
  obtain ⟨⟨front, back⟩, hcut, h⟩ := Option.bind_eq_some_iff.mp h
  dsimp only at h
  split at h
  case isFalse => cases h
  case isTrue hnumber =>
    cases h
    obtain ⟨hne, hdigits⟩ := isNumber_iff.mp hnumber
    refine ⟨hne, hdigits, ?_⟩
    cases hcolon : splitLast ':' cs with
    | some parts =>
        rw [hcolon] at hcut
        cases hcut
        exact Or.inl (of_splitLast hcolon).1
    | none =>
        rw [hcolon] at hcut
        have hcs := (of_splitLast (show splitLast '-' cs = _ from hcut)).1
        refine Or.inr ⟨fun hmem => ?_, hcs⟩
        refine splitLast_eq_none_iff.mp hcolon ?_
        rw [hcs]
        exact List.mem_append_left _ hmem

-- ============================================================== reading

theorem numeral_digits (digits : List Char) :
    Text.numeral (digits.map fun c => c.toNat - 48) = Nat.ofDigitChars 10 digits 0 := by
  unfold Text.numeral
  rw [List.foldl_map]
  rfl

theorem partNumber_toString {n : Nat} (hshort : (toString n).length ≤ Text.mostDigits) :
    partNumber (toString n).toList = .ok n := by
  unfold partNumber
  rw [if_neg (by rw [String.length_toList]; omega), numeral_digits,
    (Decimal.writes_toString n).value]

theorem parse_of_parted {text : String} {before digits : List Char}
    (h : Parted (Text.trimmed text.toList) before digits) :
    parse text = (do return ⟨String.ofList before, ← partNumber digits⟩) := by
  unfold parse
  dsimp only
  rw [splitPart?_of_parted h]

theorem parse_of_not_parted {text : String}
    (h : ¬∃ before digits, Parted (Text.trimmed text.toList) before digits) :
    parse text = .ok (whole (String.ofList (Text.trimmed text.toList))) := by
  have hnone : splitPart? (Text.trimmed text.toList) = none := by
    cases hsplit : splitPart? (Text.trimmed text.toList) with
    | none => rfl
    | some parts => exact absurd ⟨_, _, parted_of_splitPart? hsplit⟩ h
  unfold parse
  dsimp only
  rw [hnone]

theorem text_toList {m : Mdgid} {n : Nat} (hpart : m.part = n) (hn : 0 < n) :
    m.text.toList = m.id.toList ++ ':' :: (toString n).toList := by
  unfold text joined
  rw [hpart, if_pos (by omega), String.toList_append, String.toList_append, List.append_assoc]
  rfl

/-- An identifier with a part is read back from its printed form, also if it
holds marks itself or ends in digits. -/
theorem parse_text_of_part {m : Mdgid} (hfirst : ∀ c ∈ m.id.toList.head?, Text.isBlank c = false)
    {n : Nat} (hpart : m.part = n) (hn : 0 < n) (hshort : (toString n).length ≤ Text.mostDigits) :
    parse m.text = .ok m := by
  have hwrites := Decimal.writes_toString n
  have htext := text_toList hpart hn
  have hparted : Parted m.text.toList m.id.toList (toString n).toList :=
    ⟨hwrites.nonempty, hwrites.digits, Or.inl htext⟩
  have hplain : Text.trimmed m.text.toList = m.text.toList := by
    rw [htext]
    refine Text.trimmed_eq_self ?_ fun c hc => ?_
    · cases hid : m.id.toList with
      | nil =>
          intro c hc
          cases hc
          decide
      | cons d rest =>
          rw [hid] at hfirst
          exact hfirst
    · rw [List.append_cons, List.getLast?_append_of_ne_nil _ hwrites.nonempty] at hc
      exact Text.isBlank_of_isDigit (hwrites.digits c (List.mem_of_getLast? hc))
  rw [parse_of_parted (hplain.symm ▸ hparted), partNumber_toString hshort, String.ofList_toList]
  show Except.ok _ = _
  rw [← hpart]

end Mdgid

end MapSheets
