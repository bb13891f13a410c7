import Mathlib.Analysis.Real.Pi.Bounds
import Mathlib.Analysis.SpecialFunctions.Complex.Arctan
import Mathlib.Analysis.SpecificLimits.Normed
import MapSheets.Proofs.Geodesy.WebMercator

/-
The edge of the web map over the real numbers. The world is drawn as a square, so it ends
as high above the equator as it ends east of the middle, at the height `π`. The latitude
there is `edge`, and a latitude is drawn in the world if it is between the edges.

The latitude that points are pushed to is a decimal next to the edge. It lies beyond it
(`edge_lt`), by less than a thousand-millionth of a degree: no point between the edges is
moved, and one that is moved is drawn off the world still. That takes eleven places of the
edge. They come from the two ways to write it, `arctan (sinh π)` and `π / 2` less twice
`arctan (exp (-π))`: the second argument is small, and a few terms of the series do.
-/

namespace MapSheets

open Real

-- ==================================================================== series

/-- The terms of the series of the arc tangent, broken off after one that is taken away,
are not above it. -/
theorem sum_le_arctan {x : ℝ} (hnonneg : 0 ≤ x) (hone : x < 1) (k : ℕ) :
    ∑ i ∈ Finset.range (2 * k), (-1) ^ i * (x ^ (2 * i + 1) / ↑(2 * i + 1)) ≤ arctan x := by
  have hsum := (hasSum_arctan ((norm_of_nonneg hnonneg).trans_lt hone)).tendsto_sum_nat
  simp only [mul_div_assoc] at hsum
  refine Antitone.alternating_series_le_tendsto hsum (antitone_nat_of_succ_le fun n => ?_) k
  refine div_le_div₀ (pow_nonneg hnonneg _) ?_ (by positivity) ?_
  · exact pow_le_pow_of_le_one hnonneg hone.le (by omega)
  · exact_mod_cast (by omega : 2 * n + 1 ≤ 2 * (n + 1) + 1)

theorem arctan_sinh {x : ℝ} (hx : 0 < x) : arctan (sinh x) = π / 2 - 2 * arctan (exp (-x)) := by
  have hpos : 0 < exp (-x) := exp_pos _
  have hone : exp (-x) < 1 := exp_lt_one_iff.mpr (neg_lt_zero.mpr hx)
  have hsquare : 0 < 1 - exp (-x) ^ 2 := by nlinarith
  have hsinh : sinh x = (2 * exp (-x) / (1 - exp (-x) ^ 2))⁻¹ := by
    have hexp : exp x = (exp (-x))⁻¹ := by rw [exp_neg, inv_inv]
    rw [sinh_eq, hexp]
    field_simp
  rw [two_mul_arctan (by linarith) hone, hsinh, arctan_inv_of_pos (by positivity)]

theorem pi_lt_decimal : π < 3.14159265359 := pi_lt_d20.trans (by norm_num)

theorem lt_exp_neg_pi : 0.043213918263 < exp (-π) := by
  -- the remainder of the series is small for arguments up to one: a quarter of `π`, four times
  have hquarter : 0.455938127765 < exp (-(3.14159265359 / 4)) := by
    have habs : |(-(3.14159265359 / 4) : ℝ)| = 3.14159265359 / 4 := by
      rw [abs_neg, abs_of_pos (by norm_num)]
    have hseries := exp_bound (habs.trans_le (by norm_num)) (n := 14) (by norm_num)
    rw [habs] at hseries
    have hlow := (abs_le.mp hseries).1
    norm_num [Finset.sum_range_succ, Nat.factorial] at hlow ⊢
    linarith
  have hless : exp (-(3.14159265359 / 4)) < exp (-(π / 4)) :=
    exp_lt_exp.mpr (by linarith [pi_lt_decimal])
  calc
    (0.043213918263 : ℝ) < 0.455938127765 ^ 4 := by norm_num
    _ < exp (-(π / 4)) ^ 4 :=
      pow_lt_pow_left₀ (hquarter.trans hless) (by norm_num) (by norm_num)
    _ = exp (-π) := by
      rw [← exp_nat_mul]
      congr 1
      push_cast
      ring

namespace Mercator

-- ====================================================================== edge

/-- The latitude of the northern edge of the web map, 85.0511287798 degrees and a little
more. -/
noncomputable def edge : ℝ := latOf π

theorem edge_pos : 0 < edge :=
  mul_pos (arctan_pos.mpr (sinh_pos_iff.mpr pi_pos)) (by positivity)

/-- Latitudes are pushed to a place beyond the edge. -/
theorem edge_lt : edge < 85.05112878 := by
  have hseries := sum_le_arctan (x := 0.043213918263) (by norm_num) (by norm_num) 2
  norm_num [Finset.sum_range_succ] at hseries
  have harctan : 4.94887122 * π / 360 < arctan (exp (-π)) := by
    linarith [arctan_strictMono lt_exp_neg_pi, pi_lt_decimal]
  unfold edge latOf
  rw [arctan_sinh pi_pos, ← mul_div_assoc, div_lt_iff₀ pi_pos]
  linarith

theorem latOf_neg (u : ℝ) : latOf (-u) = -latOf u := by
  unfold latOf
  rw [sinh_neg, arctan_neg, neg_mul]

section

variable {lat u : ℝ}

/-- A latitude is drawn below a height if it is south of the latitude of the height. -/
theorem height_lt_iff (h : |lat| < 90) : height lat < u ↔ lat < latOf u := by
  rw [← latOf_strictMono.lt_iff_lt, latOf_height h]

theorem lt_height_iff (h : |lat| < 90) : u < height lat ↔ latOf u < lat := by
  rw [← latOf_strictMono.lt_iff_lt, latOf_height h]

/-- From the southern edge, which is off the world, to the northern one. -/
def BetweenEdges (lat : ℝ) : Prop := -edge < lat ∧ lat ≤ edge

theorem height_mem_iff (h : |lat| < 90) :
    (-π < height lat ∧ height lat ≤ π) ↔ BetweenEdges lat := by
  rw [lt_height_iff h, ← not_lt, lt_height_iff h, latOf_neg, not_lt]
  rfl

/-- Latitudes between the edges are not pushed. -/
theorem BetweenEdges.clampLat_eq (h : BetweenEdges lat) : clampLat lat = lat :=
  clampLat_of_reach (by linarith [edge_lt, h.1]) (h.2.trans edge_lt.le)

/-- And none is pushed there. -/
theorem betweenEdges_clampLat_iff : BetweenEdges (clampLat lat) ↔ BetweenEdges lat := by
  constructor
  · rintro ⟨hsouth, hnorth⟩
    rw [clampLat_real] at hsouth hnorth
    constructor
    · rcases lt_max_iff.mp hsouth with hpushed | hlat
      · linarith [edge_lt]
      · exact (lt_min_iff.mp hlat).2
    · rcases min_le_iff.mp (max_le_iff.mp hnorth).2 with hpushed | hlat
      · linarith [edge_lt]
      · exact hlat
  · intro h
    rwa [h.clampLat_eq]

end

end Mercator

end MapSheets
