import MapSheets.Grating.Basic
import Mathlib.Data.List.Induction
import Mathlib.Data.List.Shortlex
import Mathlib.Order.RelIso.Basic

/-
The letters of rows as a numbering. The letters of a row are those of the group in front
of it and one more (`rowLetters_group`), and every row from the twenty-first on has such a
group; so what holds of the single letters and is handed on from a group to its rows
holds of all rows (`row_induction`).

The numbering leaves out no word: a word is taken apart from its last letter, as a label
is. It follows the order in which shorter words stand in front of longer ones and words
of one length in the order of their letters (`rowOrder`), and so it gives no word twice.
Where the group changes, the words in front decide; within a group the last letters do.
-/

namespace MapSheets.Grating

-- ================================================================= letters

theorem length_letters : letters.length = 21 := rfl

/-- The letters stand in the order of the alphabet. -/
theorem letters_sorted : letters.Pairwise (· < ·) := by decide +kernel

theorem letterAt_eq {d : Nat} (hd : d < letters.length) : letterAt d = letters[d] := by
  unfold letterAt
  rw [Nat.mod_eq_of_lt hd, List.getElem?_eq_getElem hd]
  rfl

theorem letterAt_mem {d : Nat} (hd : d < letters.length) : letterAt d ∈ letters := by
  rw [letterAt_eq hd]
  exact List.getElem_mem hd

theorem letterAt_lt {d e : Nat} (he : e < letters.length) (h : d < e) :
    letterAt d < letterAt e := by
  rw [letterAt_eq (h.trans he), letterAt_eq he]
  exact List.pairwise_iff_getElem.mp letters_sorted _ _ _ _ h

/-- Every letter is at a place. -/
theorem exists_letterAt {c : Char} (hc : c ∈ letters) : ∃ d < letters.length, letterAt d = c := by
  obtain ⟨d, hd, rfl⟩ := List.mem_iff_getElem.mp hc
  exact ⟨d, hd, letterAt_eq hd⟩

-- ================================================================== groups

theorem rowLetters_short {row : Nat} (h : row < letters.length) :
    rowLetters row = [letterAt row] := by
  rw [rowLetters, if_pos h]

/-- The rows of a group have its letters and one more. -/
theorem rowLetters_group (g : Nat) {d : Nat} (hd : d < letters.length) :
    rowLetters (letters.length * (g + 1) + d) = rowLetters g ++ [letterAt d] := by
  have hpos : 0 < letters.length := Nat.zero_lt_of_lt hd
  have hlong : letters.length ≤ letters.length * (g + 1) + d :=
    (Nat.le_mul_of_pos_right _ g.succ_pos).trans (Nat.le_add_right _ _)
  have hgroup : (letters.length * (g + 1) + d) / letters.length - 1 = g := by
    rw [Nat.mul_add_div hpos, Nat.div_eq_of_lt hd, Nat.add_zero, Nat.add_sub_cancel]
  have hlast : letterAt (letters.length * (g + 1) + d) = letterAt d := by
    unfold letterAt
    rw [Nat.mul_add_mod]
  rw [rowLetters, if_neg (not_lt.mpr hlong), hgroup, hlast]

/-- A row past the last letter is in a group. -/
theorem exists_group {row : Nat} (h : letters.length ≤ row) :
    ∃ g d, d < letters.length ∧ row = letters.length * (g + 1) + d := by
  have hpos : 0 < letters.length := by decide
  have hround : 1 ≤ row / letters.length := (Nat.one_le_div_iff hpos).mpr h
  refine ⟨row / letters.length - 1, row % letters.length, Nat.mod_lt _ hpos, ?_⟩
  rw [Nat.sub_add_cancel hround, Nat.div_add_mod]

/-- Rows are in the order of their groups, within a group in that of their last letters. -/
theorem group_lt_group_iff {g g' d e : Nat} (hd : d < letters.length) (he : e < letters.length) :
    letters.length * (g + 1) + d < letters.length * (g' + 1) + e ↔ g < g' ∨ g = g' ∧ d < e := by
  rw [length_letters] at hd he ⊢
  omega

/-- What is true of the rows with one letter, and of the rows of a group if it is of the
group, is true of all rows. -/
theorem row_induction {P : Nat → Prop} (short : ∀ d < letters.length, P d)
    (long : ∀ g, ∀ d < letters.length, P g → P (letters.length * (g + 1) + d)) (row : Nat) :
    P row := by
  induction row using Nat.strong_induction_on with
  | _ row ih =>
      rcases lt_or_ge row letters.length with h | h
      · exact short row h
      · obtain ⟨g, d, hd, rfl⟩ := exists_group h
        have hearlier : g < letters.length * (g + 1) + d := by
          rw [length_letters]
          omega
        exact long g d hd (ih g hearlier)

-- =================================================================== words

/-- One letter of rows or several. -/
structure IsWord (w : List Char) : Prop where
  ne_nil : w ≠ []
  mem_letters : ∀ c ∈ w, c ∈ letters

theorem isWord_letter {d : Nat} (hd : d < letters.length) : IsWord [letterAt d] where
  ne_nil := List.cons_ne_nil _ _
  mem_letters := List.forall_mem_singleton.mpr (letterAt_mem hd)

theorem IsWord.append {v w : List Char} (hv : IsWord v) (hw : IsWord w) : IsWord (v ++ w) where
  ne_nil := List.append_ne_nil_of_left_ne_nil hv.ne_nil _
  mem_letters := List.forall_mem_append.mpr ⟨hv.mem_letters, hw.mem_letters⟩

theorem isWord_rowLetters (row : Nat) : IsWord (rowLetters row) := by
  induction row using row_induction with
  | short d hd =>
      rw [rowLetters_short hd]
      exact isWord_letter hd
  | long g d hd ih =>
      rw [rowLetters_group g hd]
      exact ih.append (isWord_letter hd)

/-- Every word is the label of a row: a single letter, or a letter behind the word of a
group. -/
theorem IsWord.exists_row {w : List Char} (h : IsWord w) : ∃ row, rowLetters row = w := by
  induction w using List.reverseRecOn with
  | nil => exact absurd rfl h.ne_nil
  | append_singleton front c ih =>
      obtain ⟨hfront, hlast⟩ := List.forall_mem_append.mp h.mem_letters
      obtain ⟨d, hd, rfl⟩ := exists_letterAt (List.forall_mem_singleton.mp hlast)
      by_cases hone : front = []
      · rw [hone]
        exact ⟨d, rowLetters_short hd⟩
      · obtain ⟨g, rfl⟩ := ih ⟨hone, hfront⟩
        exact ⟨_, rowLetters_group g hd⟩

-- =================================================================== order

/-- Words in order stay in order whatever letter comes behind each. -/
theorem shortlex_append_letter {v w : List Char} (h : List.Shortlex (· < ·) v w) (a b : Char) :
    List.Shortlex (· < ·) (v ++ [a]) (w ++ [b]) := by
  rcases List.shortlex_def.mp h with hshorter | ⟨hlength, hlex⟩
  · refine .of_length_lt ?_
    rw [List.length_append, List.length_append]
    exact Nat.add_lt_add_right hshorter 1
  · refine .of_lex ?_ ?_
    · rw [List.length_append, List.length_append, hlength]
      rfl
    · -- words of one length differ at a letter, so what comes behind does not count
      clear h
      induction hlex with
      | nil => cases hlength
      | cons _ ih => exact .cons (ih (Nat.succ.inj hlength))
      | rel hletter => exact .rel hletter

/-- A later row has a later word. -/
theorem shortlex_rowLetters {m n : Nat} (h : m < n) :
    List.Shortlex (· < ·) (rowLetters m) (rowLetters n) := by
  induction m using row_induction generalizing n with
  | short d hd =>
      rcases lt_or_ge n letters.length with hn | hn
      · rw [rowLetters_short hd, rowLetters_short hn, List.shortlex_singleton_iff]
        exact letterAt_lt hn h
      · obtain ⟨g, e, he, rfl⟩ := exists_group hn
        have hgroup := List.length_pos_of_ne_nil (isWord_rowLetters g).ne_nil
        refine .of_length_lt ?_
        rw [rowLetters_short hd, rowLetters_group g he, List.length_append, List.length_singleton,
          List.length_singleton]
        exact Nat.lt_add_of_pos_left hgroup
  | long g d hd ih =>
      have hn : letters.length ≤ n := by
        rw [length_letters] at h ⊢
        omega
      obtain ⟨g', e, he, rfl⟩ := exists_group hn
      rw [rowLetters_group g hd, rowLetters_group g' he]
      rcases (group_lt_group_iff hd he).mp h with hgroups | ⟨rfl, hletters⟩
      · exact shortlex_append_letter (ih hgroups) _ _
      · refine List.Shortlex.append_left ?_ _
        rw [List.shortlex_singleton_iff]
        exact letterAt_lt he hletters

/-- The rows in their order as words in theirs. -/
def rowOrder :
    ((· < ·) : Nat → Nat → Prop) ↪r (List.Shortlex (· < ·) : List Char → List Char → Prop) :=
  RelEmbedding.ofMonotone rowLetters fun _ _ => shortlex_rowLetters

/-- No two rows have the same letters. -/
theorem rowLetters_injective : Function.Injective rowLetters := rowOrder.injective

/-- The labels of rows are the words over the twenty-one letters, each the label of one
row, in the order of their lengths and, among words of one length, of their letters. -/
theorem rowLetters_numbering :
    (letters.length = 21 ∧ letters.Pairwise (· < ·))
      ∧ (∀ n, IsWord (rowLetters n))
      ∧ (∀ w, IsWord w → ∃! n, rowLetters n = w)
      ∧ ∀ m n, m < n ↔ (rowLetters m).length < (rowLetters n).length
          ∨ (rowLetters m).length = (rowLetters n).length ∧ rowLetters m < rowLetters n := by
  refine ⟨⟨length_letters, letters_sorted⟩, isWord_rowLetters, fun w hw => ?_, fun m n => ?_⟩
  · obtain ⟨n, hn⟩ := hw.exists_row
    exact ⟨n, hn, fun m hm => rowLetters_injective (hm.trans hn.symm)⟩
  · rw [← rowOrder.map_rel_iff]
    exact List.shortlex_def

/-- At a change of length: the last word of two letters is the label of one row, and the
first word of three that of the row after it. -/
theorem rowLetters_numbering_three :
    IsWord ['Z', 'Z'] ∧ (∃! n, rowLetters n = ['Z', 'Z'])
      ∧ rowLetters 461 = ['Z', 'Z'] ∧ rowLetters 462 = ['A', 'A', 'A'] := by
  have hletter : IsWord [letterAt 20] := isWord_letter (by decide)
  have hword : IsWord ['Z', 'Z'] := hletter.append hletter
  have hlast : rowLetters 461 = ['Z', 'Z'] := by
    rw [show 461 = letters.length * (20 + 1) + 20 from rfl, rowLetters_group 20 (by decide),
      rowLetters_short (by decide)]
    decide +kernel
  have hnext : rowLetters 462 = ['A', 'A', 'A'] := by
    rw [show 462 = letters.length * (21 + 1) + 0 from rfl, rowLetters_group 21 (by decide),
      show 21 = letters.length * (0 + 1) + 0 from rfl, rowLetters_group 0 (by decide),
      rowLetters_short (by decide)]
    decide +kernel
  obtain ⟨-, -, hunique, -⟩ := rowLetters_numbering
  exact ⟨hword, hunique _ hword, hlast, hnext⟩

end MapSheets.Grating
