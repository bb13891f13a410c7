import MapSheets.Number.Decimal
import Mathlib.Tactic.NormNum

/-
Numbers as digits. A text writes a number if it is of digits only and they
have that value (`Writes`). The digits of two texts one after the other write
the first number in the places that the second one leaves (`Writes.append`),
and zeros in front change nothing, so a text that is put together of pieces
is read piece by piece.
-/

namespace MapSheets.Decimal

/-- A text writes a number: it is of digits only, and they have that value. -/
structure Writes (text : String) (n : Nat) : Prop where
  nonempty : text.toList ≠ []
  digits : ∀ c ∈ text.toList, c.isDigit = true
  value : Nat.ofDigitChars 10 text.toList 0 = n

theorem writes_toString (n : Nat) : Writes (toString n) n := by
  have hlist : (toString n).toList = Nat.toDigits 10 n := Nat.toList_repr
  constructor
  case nonempty =>
    rw [hlist]
    exact Nat.toDigits_ne_nil
  case digits =>
    rw [hlist]
    exact fun _ hc => Nat.isDigit_of_mem_toDigits (by decide) le_rfl hc
  case value =>
    rw [hlist]
    exact Nat.ofDigitChars_toDigits (by decide) le_rfl

/-- The digits of one text after those of another: the first ones count what the
second ones have no room for. -/
theorem Writes.append {s t : String} {m n : Nat} (hs : Writes s m) (ht : Writes t n) :
    Writes (s ++ t) (10 ^ t.length * m + n) := by
  constructor
  case nonempty =>
    rw [String.toList_append]
    exact List.append_ne_nil_of_left_ne_nil hs.nonempty _
  case digits =>
    rw [String.toList_append]
    exact List.forall_mem_append.mpr ⟨hs.digits, ht.digits⟩
  case value =>
    rw [String.toList_append, Nat.ofDigitChars_append, hs.value,
      Nat.ofDigitChars_eq_ofDigitChars_zero, ht.value, String.length_toList]

/-- Zeros in front of a number do not change it. -/
theorem writes_padded (width n : Nat) : Writes (padded width n) n := by
  have hnumber := writes_toString n
  have hlist : (padded width n).toList
      = List.replicate (width - (toString n).length) '0' ++ (toString n).toList := by
    unfold padded zeros
    rw [String.toList_append, String.toList_ofList]
  constructor
  case nonempty =>
    rw [hlist]
    exact List.append_ne_nil_of_right_ne_nil _ hnumber.nonempty
  case digits =>
    rw [hlist]
    refine List.forall_mem_append.mpr ⟨fun c hc => ?_, hnumber.digits⟩
    rw [List.eq_of_mem_replicate hc]
    decide
  case value =>
    rw [hlist, Nat.ofDigitChars_append, Nat.ofDigitChars_replicate_zero, mul_zero, hnumber.value]

-- ======================================================= values of digits

theorem digit_range {c : Char} (h : c.isDigit = true) : 48 ≤ c.toNat ∧ c.toNat ≤ 57 := by
  rw [Char.isDigit, Bool.and_eq_true, decide_eq_true_eq, decide_eq_true_eq] at h
  exact h

theorem tenTo_eq_pow (k : Nat) : tenTo k = 10 ^ k := rfl

theorem tenTo_le_tenTo {j k : Nat} (h : j ≤ k) : tenTo j ≤ tenTo k :=
  Nat.pow_le_pow_right (by decide) h

/-- Digits write a number below the power of ten of their count. -/
theorem ofDigitChars_lt {digits : List Char} (h : ∀ d ∈ digits, d.isDigit = true) :
    Nat.ofDigitChars 10 digits 0 < tenTo digits.length := by
  induction digits with
  | nil => decide
  | cons d rest ih =>
      obtain ⟨hd, hrest⟩ := List.forall_mem_cons.mp h
      have hrange := digit_range hd
      have hfirst : d.toNat - '0'.toNat ≤ 9 := by
        show d.toNat - 48 ≤ 9
        omega
      have hmul := Nat.mul_le_mul_left (10 ^ rest.length) hfirst
      rw [Nat.ofDigitChars_cons, Nat.ofDigitChars_eq_ofDigitChars_zero, mul_zero, zero_add,
        List.length_cons, tenTo_succ, tenTo_eq_pow]
      have hlt := ih hrest
      rw [tenTo_eq_pow] at hlt
      omega

/-- Digits write zero only if they are all zeros. -/
theorem ofDigitChars_eq_zero_iff {digits : List Char} (h : ∀ d ∈ digits, d.isDigit = true) :
    Nat.ofDigitChars 10 digits 0 = 0 ↔ ∀ d ∈ digits, d = '0' := by
  induction digits with
  | nil => simp
  | cons d rest ih =>
      obtain ⟨hd, hrest⟩ := List.forall_mem_cons.mp h
      have hrange := digit_range hd
      have hzero : d.toNat - '0'.toNat = 0 ↔ d = '0' := by
        rw [← Char.toNat_inj]
        show d.toNat - 48 = 0 ↔ d.toNat = 48
        omega
      rw [Nat.ofDigitChars_cons, Nat.ofDigitChars_eq_ofDigitChars_zero, mul_zero, zero_add,
        Nat.add_eq_zero_iff, ih hrest, List.forall_mem_cons, ← hzero]
      simp

-- ============================================================== the width

theorem length_toString_le {width n : Nat} (hwidth : 0 < width) (hn : n < 10 ^ width) :
    (toString n).length ≤ width := by
  rw [← String.length_toList]
  show n.repr.toList.length ≤ width
  rw [Nat.toList_repr, Nat.length_toDigits_le_iff (by decide) hwidth]
  exact hn

/-- A number that fits a width is written in that width. -/
theorem length_padded {width n : Nat} (hwidth : 0 < width) (hn : n < 10 ^ width) :
    (padded width n).length = width := by
  have hlength := length_toString_le hwidth hn
  unfold padded zeros
  rw [String.length_append, String.length_ofList, List.length_replicate]
  omega

/-- A number has no zeros in front where it fills the width by itself. -/
theorem padded_eq_toString_iff {width n : Nat} (hwidth : 0 < width) :
    padded (width + 1) n = toString n ↔ 10 ^ width ≤ n := by
  have hlength : (toString n).length ≤ width ↔ n < 10 ^ width := by
    rw [← String.length_toList]
    show n.repr.toList.length ≤ width ↔ _
    rw [Nat.toList_repr]
    exact Nat.length_toDigits_le_iff (by decide) hwidth
  unfold padded zeros
  constructor
  · intro h
    have hsum := congrArg String.length h
    rw [String.length_append, String.length_ofList, List.length_replicate] at hsum
    exact not_lt.mp fun hn => by
      have hshort := hlength.mpr hn
      omega
  · intro hn
    have hlong : width < (toString n).length := not_le.mp fun h => absurd (hlength.mp h) (by omega)
    show String.ofList (List.replicate (width + 1 - (toString n).length) '0') ++ _ = _
    rw [Nat.sub_eq_zero_of_le hlong]
    exact String.empty_append

theorem isDigit_padded (width n : Nat) : ∀ c ∈ (padded width n).toList, c.isDigit = true :=
  (writes_padded width n).digits

/-- A number in all the places of a width; a width of nothing has none. -/
def fitted (width n : Nat) : String := if width = 0 then "" else padded width n

theorem length_fitted {width n : Nat} (hn : n < 10 ^ width) : (fitted width n).length = width := by
  unfold fitted
  by_cases hwidth : width = 0
  · rw [if_pos hwidth, hwidth]
    rfl
  · rw [if_neg hwidth]
    exact length_padded (Nat.pos_of_ne_zero hwidth) hn

theorem isDigit_fitted (width n : Nat) : ∀ c ∈ (fitted width n).toList, c.isDigit = true := by
  unfold fitted
  by_cases hwidth : width = 0
  · simp [hwidth]
  · rw [if_neg hwidth]
    exact isDigit_padded width n

/-- Behind a number the places of a width count what is below its power of ten. -/
theorem Writes.append_fitted {text : String} {m width n : Nat} (h : Writes text m)
    (hn : n < 10 ^ width) : Writes (text ++ fitted width n) (10 ^ width * m + n) := by
  by_cases hwidth : width = 0
  · subst hwidth
    have hzero : n = 0 := by omega
    have hsame : 10 ^ 0 * m + n = m := by omega
    rw [hsame, fitted, if_pos rfl, String.append_empty]
    exact h
  · have hall := h.append (writes_padded width n)
    rw [length_padded (Nat.pos_of_ne_zero hwidth) hn] at hall
    rw [fitted, if_neg hwidth]
    exact hall

/-- The number that digits write. -/
def natural? (digits : List Char) : Option Nat :=
  if !digits.isEmpty && digits.all Char.isDigit then some (Nat.ofDigitChars 10 digits 0) else none

/-- The whole number that a text writes in decimal, negative after a minus sign. -/
def written? (text : String) : Option Int :=
  match text.toList with
  | '-' :: digits => (natural? digits).map fun (n : Nat) => -(n : Int)
  | digits => (natural? digits).map fun (n : Nat) => (n : Int)

theorem Writes.natural?_eq {text : String} {n : Nat} (h : Writes text n) :
    natural? text.toList = some n := by
  have hdigits : (!text.toList.isEmpty && text.toList.all Char.isDigit) = true := by
    rw [Bool.and_eq_true, Bool.not_eq_true', List.isEmpty_eq_false_iff, List.all_eq_true]
    exact ⟨h.nonempty, h.digits⟩
  unfold natural?
  rw [if_pos hdigits, h.value]

theorem Writes.written?_eq {text : String} {n : Nat} (h : Writes text n) :
    written? text = some (n : Int) := by
  unfold written?
  split
  case h_1 digits hminus =>
    have hdigit := h.digits '-' (hminus ▸ List.mem_cons_self)
    exact absurd hdigit (by decide)
  case h_2 =>
    rw [h.natural?_eq]
    rfl

theorem Writes.written?_minus {text : String} {n : Nat} (h : Writes text n) :
    written? ("-" ++ text) = some (-(n : Int)) := by
  have hlist : ("-" ++ text).toList = '-' :: text.toList := by
    rw [String.toList_append]
    rfl
  unfold written?
  rw [hlist]
  show (natural? text.toList).map _ = _
  rw [h.natural?_eq]
  rfl

end MapSheets.Decimal
