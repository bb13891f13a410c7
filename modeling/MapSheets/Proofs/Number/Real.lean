import Mathlib.Analysis.SpecialFunctions.Arsinh
import Mathlib.Analysis.SpecialFunctions.Complex.Arg
import Mathlib.Analysis.SpecialFunctions.Log.Base
import Mathlib.Analysis.SpecialFunctions.Trigonometric.Arctan
import MapSheets.Proofs.Number.Unlimited

/-
Sheets over the real numbers. Angles, powers and logarithms have their exact values
here, so that laws in which they cancel can be stated without a word on rounding. The
elementary functions are those of analysis; like the rationals the real numbers are
unlimited, and no step to a whole number is refused.
-/

namespace MapSheets

noncomputable instance : Scalar ℝ where
  decideLT := fun _ _ => Classical.propDecidable _
  decideLE := fun _ _ => Classical.propDecidable _
  ofInt n := n
  ratio p q := p / q
  magnitude x := |x|
  isFinite _ := true
  floor? x := .ok ⌊x⌋

noncomputable instance : Elementary ℝ where
  pi := Real.pi
  sine := Real.sin
  cosine := Real.cos
  tangent := Real.tan
  arcTangent := Real.arctan
  arcTangent₂ y x := Complex.arg ⟨x, y⟩
  hyperbolicSine := Real.sinh
  areaHyperbolicSine := Real.arsinh
  squareRoot := Real.sqrt
  hypotenuse x y := Real.sqrt (x ^ 2 + y ^ 2)
  powerOfTwo x := 2 ^ x
  logarithm₂ x := Real.logb 2 x

namespace Scalar

-- ============================================================ constants

theorem ofNat_real (n : ℕ) [n.AtLeastTwo] :
    @OfNat.ofNat ℝ n (Scalar.instOfNat n) = OfNat.ofNat n := Int.cast_natCast n

theorem one_real : @OfNat.ofNat ℝ 1 (Scalar.instOfNat 1) = 1 := Int.cast_one

theorem zero_real : @OfNat.ofNat ℝ 0 (Scalar.instOfNat 0) = 0 := Int.cast_zero

-- ========================================================== comparisons

theorem least_real (a b : ℝ) : least a b = min a b := by
  unfold least
  split
  case isTrue h => rw [min_eq_right h.le]
  case isFalse h => rw [min_eq_left (not_lt.mp h)]

theorem greatest_real (a b : ℝ) : greatest a b = max a b := by
  unfold greatest
  split
  case isTrue h => rw [max_eq_right h.le]
  case isFalse h => rw [max_eq_left (not_lt.mp h)]

theorem least_le_greatest_real (a b : ℝ) : least a b ≤ greatest a b := by
  rw [least_real, greatest_real]
  exact min_le_max

theorem isZero_real {x : ℝ} : isZero x = true ↔ x = 0 := by
  unfold isZero
  rw [Bool.and_eq_true, decide_eq_true_eq, decide_eq_true_eq, zero_real]
  exact le_antisymm_iff.symm

theorem quotient?_real_iff {x y z : ℝ} : quotient? x y = .ok z ↔ y ≠ 0 ∧ z = x / y := by
  unfold quotient?
  by_cases hy : y = 0
  · rw [if_pos (isZero_real.mpr hy)]
    exact ⟨nofun, fun h => absurd hy h.1⟩
  · rw [if_neg (isZero_real.not.mpr hy), Except.ok.injEq]
    exact ⟨fun h => ⟨hy, h.symm⟩, fun h => h.2.symm⟩

theorem quotient?_real {y : ℝ} (hy : y ≠ 0) (x : ℝ) : quotient? x y = .ok (x / y) :=
  quotient?_real_iff.mpr ⟨hy, rfl⟩

-- ======================================================== whole numbers

/-- The whole part of a quantity, toward zero. -/
noncomputable def wholePart (x : ℝ) : ℤ := if x < 0 then ⌈x⌉ else ⌊x⌋

theorem truncate?_real (x : ℝ) : truncate? x = .ok (wholePart x) := by
  unfold truncate? wholePart
  rw [zero_real]
  split
  · show Except.ok (-⌊-x⌋) = _
    rw [Int.floor_neg, neg_neg]
  · rfl

theorem wholePart_of_nonneg {x : ℝ} (hx : 0 ≤ x) : wholePart x = ⌊x⌋ := if_neg (not_lt.mpr hx)

/-- Everything above minus one has a whole part that is not negative. -/
theorem wholePart_nonneg_iff {x : ℝ} : 0 ≤ wholePart x ↔ -1 < x := by
  unfold wholePart
  split
  case isTrue h => rw [Int.le_ceil_iff, Int.cast_zero, zero_sub]
  case isFalse h =>
    have hx : 0 ≤ x := not_lt.mp h
    exact ⟨fun _ => by linarith, fun _ => Int.floor_nonneg.mpr hx⟩

theorem wholePart_lt_iff {x : ℝ} {n : ℤ} (hn : 0 < n) : wholePart x < n ↔ x < n := by
  have hcast : (0 : ℝ) < n := Int.cast_pos.mpr hn
  unfold wholePart
  split
  case isTrue h =>
    have hceil : ⌈x⌉ ≤ 0 := Int.ceil_le.mpr (by simpa using h.le)
    exact ⟨fun _ => h.trans hcast, fun _ => hceil.trans_lt hn⟩
  case isFalse h => exact Int.floor_lt

end Scalar

theorem unlimited_real : Unlimited ℝ where
  isFinite _ := rfl
  floor x := ⟨⌊x⌋, rfl⟩
  power x := by
    rw [Bool.eq_false_iff]
    exact Scalar.isZero_real.not.mpr (Real.rpow_pos_of_pos two_pos x).ne'

namespace Elementary

-- =========================================================== elementary functions

open Real

variable {x y : ℝ}

theorem powerOfTwo?_real (x : ℝ) : powerOfTwo? x = .ok (2 ^ x) := unlimited_real.powerOfTwo x

theorem cosine?_real (x : ℝ) : cosine? x = .ok (cos x) := unlimited_real.bounded cosine x

theorem tangent?_real (x : ℝ) : tangent? x = .ok (tan x) := unlimited_real.bounded tangent x

theorem hyperbolicSine?_real (x : ℝ) : hyperbolicSine? x = .ok (sinh x) :=
  unlimited_real.ranged hyperbolicSine x

theorem logarithm₂?_real_iff : logarithm₂? x = .ok y ↔ 0 < x ∧ y = logb 2 x := by
  unfold logarithm₂?
  rw [Scalar.zero_real]
  by_cases hx : x ≤ 0
  · rw [if_pos hx]
    exact ⟨nofun, fun h => absurd h.1 hx.not_gt⟩
  · rw [if_neg hx, Except.ok.injEq]
    exact ⟨fun h => ⟨not_le.mp hx, h.symm⟩, fun h => h.2.symm⟩

/-- A latitude off the poles is less than a quarter of a turn. -/
theorem angle_mem_Ioo (h : |x| < 90) : x * (π / 180) ∈ Set.Ioo (-(π / 2)) (π / 2) := by
  obtain ⟨hsouth, hnorth⟩ := abs_lt.mp h
  constructor <;> nlinarith [pi_pos]

end Elementary

end MapSheets
