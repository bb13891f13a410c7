import MapSheets.Number.Binary
import Mathlib.Data.Rat.Floor

/-
Sheets over the rationals. The laws of layout are stated for exact
quantities: the operations of `Scalar` are then those of the field of
rationals, and this file reads the ones that have another name there
(`magnitude` is the absolute value, `floor?` the floor) back as such.
Nothing fails over the rationals: every step to a whole number has a
result.
-/

namespace MapSheets.Scalar

-- ============================================================ constants

@[simp] theorem ofInt_rat (n : Int) : (ofInt n : Rat) = n := rfl

@[simp] theorem ratio_rat (p q : Int) : (ratio p q : Rat) = p / q := rfl

@[simp] theorem isFinite_rat (x : Rat) : isFinite x = true := rfl

-- ========================================================== comparisons

@[simp] theorem magnitude_rat (x : Rat) : magnitude x = |x| := by
  show (if x < 0 then -x else x) = |x|
  split
  case isTrue h => rw [abs_of_neg h]
  case isFalse h => rw [abs_of_nonneg (not_lt.mp h)]

@[simp] theorem isZero_rat (x : Rat) : isZero x = decide (x = 0) := by
  unfold isZero
  rw [← Bool.decide_and]
  exact decide_eq_decide.mpr le_antisymm_iff.symm

@[simp] theorem least_rat (a b : Rat) : least a b = min a b := by
  unfold least
  split
  case isTrue h => rw [min_eq_right h.le]
  case isFalse h => rw [min_eq_left (not_lt.mp h)]

@[simp] theorem greatest_rat (a b : Rat) : greatest a b = max a b := by
  unfold greatest
  split
  case isTrue h => rw [max_eq_right h.le]
  case isFalse h => rw [max_eq_left (not_lt.mp h)]

-- ============================================================ quotients

theorem quotient?_rat {y : Rat} (hy : y ≠ 0) (x : Rat) : quotient? x y = .ok (x / y) := by
  unfold quotient?
  rw [isZero_rat, decide_eq_false hy, if_neg Bool.false_ne_true]

theorem quotient?_rat_zero (x : Rat) : quotient? x (0 : Rat) = .error .divisionByZero := by
  unfold quotient?
  rw [isZero_rat, decide_eq_true rfl, if_pos rfl]

-- ===================================================== whole numbers

@[simp] theorem floor?_rat (x : Rat) : floor? x = .ok ⌊x⌋ := rfl

@[simp] theorem ceil?_rat (x : Rat) : ceil? x = .ok ⌈x⌉ := by
  show Except.ok (-⌊-x⌋) = _
  rw [Int.floor_neg, neg_neg]

/-- The whole part of a quantity that is not negative is its floor. -/
theorem truncate?_rat_of_nonneg {x : Rat} (hx : 0 ≤ x) : truncate? x = .ok ⌊x⌋ := by
  unfold truncate?
  rw [if_neg (not_lt.mpr hx), floor?_rat]

/-- The whole part of a quantity that is not positive is opposite to that of the
opposite quantity. -/
theorem truncate?_rat_of_nonpos {x : Rat} (hx : x ≤ 0) : truncate? x = .ok (-⌊-x⌋) := by
  rcases hx.lt_or_eq with hneg | rfl
  · unfold truncate?
    rw [if_pos hneg]
    rfl
  · rw [truncate?_rat_of_nonneg le_rfl, neg_zero, Int.floor_zero, neg_zero]

/-- A quantity has a whole part where every quantity has a floor. -/
theorem truncate?_isOk {α : Type} [Scalar α] (hfloor : ∀ x : α, ∃ n, floor? x = .ok n) (x : α) :
    ∃ n, truncate? x = .ok n := by
  unfold truncate?
  split
  · obtain ⟨n, hn⟩ := hfloor (-x)
    exact ⟨-n, by rw [hn]; rfl⟩
  · exact hfloor x

/-- Every rational has a whole part. -/
theorem truncate?_rat_isOk (x : Rat) : ∃ n, truncate? x = .ok n :=
  truncate?_isOk (fun x => ⟨_, floor?_rat x⟩) x

@[simp] theorem ofInt?_rat (n : Int) : (ofInt? n : Except Fault Rat) = .ok (n : Rat) := rfl

end MapSheets.Scalar
