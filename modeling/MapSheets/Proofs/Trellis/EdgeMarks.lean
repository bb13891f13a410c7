import MapSheets.Proofs.Trellis.Family
import Mathlib.Data.Set.Card

/-
The marks of an edge are the crossings of the grid. `Marks` reads the first and
the last mark by what lies beyond them; here they are the least multiple after
the start and the greatest one before the finish (`Marks.isLeast_first`,
`Marks.isGreatest_last`), each at most one step from its end. How many multiples
lie between is counted through the family that an edge makes with itself, since
its values are these multiples, each once (`Marks.ncard_crossings`). Where there
is a mark at all, the way to the first one, the steps between and the way from
the last one make up the edge (`between_crossings`).
-/

namespace MapSheets

namespace Edge

-- ======================================================== counted in steps

/-- The steps of a run that has a value lead from its first value to its last. -/
theorem stepsBetween_sub_one_mul {size first last : Int} (hdvd : size ∣ last - first)
    (hsteps : 0 < stepsBetween first last size) :
    (stepsBetween first last size - 1) * size = last - first := by
  by_cases h : first ≤ last
  · unfold stepsBetween
    rw [if_pos h, add_sub_cancel_right]
    exact Int.fdiv_mul_cancel hdvd
  · unfold stepsBetween at hsteps
    rw [if_neg h] at hsteps
    exact absurd hsteps (lt_irrefl 0)

-- =========================================================== the crossings

/-- The grid values that cross an edge: the multiples of a size strictly between
its ends. -/
def crossings (size : Int) (start finish : Rat) : Set Int :=
  {v | size ∣ v ∧ start < v ∧ (v : Rat) < finish}

namespace Marks

variable {e : Edge Rat} {size : Int}

/-- The first mark is the least multiple after the start. -/
theorem isLeast_first (h : e.Marks size) : IsLeast {v : Int | size ∣ v ∧ e.start < v} e.first := by
  constructor
  · exact ⟨h.first_dvd, (h.first_le_iff e.first h.first_dvd).mp le_rfl⟩
  · rintro v ⟨hv, hstart⟩
    exact (h.first_le_iff v hv).mpr hstart

/-- The last mark is the greatest multiple before the finish. -/
theorem isGreatest_last (h : e.Marks size) :
    IsGreatest {v : Int | size ∣ v ∧ (v : Rat) < e.finish} e.last := by
  constructor
  · exact ⟨h.last_dvd, (h.le_last_iff e.last h.last_dvd).mp le_rfl⟩
  · rintro v ⟨hv, hfinish⟩
    exact (h.le_last_iff v hv).mpr hfinish

/-- The first mark is at most one step away from the start. -/
theorem first_sub_le (h : e.Marks size) (hsize : 0 < size) : (e.first : Rat) - e.start ≤ size := by
  have hbefore : ¬e.start < (e.first - size : Int) := by
    intro hstart
    have := (h.first_le_iff _ (dvd_sub_self_right.mpr h.first_dvd)).mpr hstart
    omega
  push_cast at hbefore
  linarith

/-- The last mark is at most one step away from the finish. -/
theorem sub_last_le (h : e.Marks size) (hsize : 0 < size) : e.finish - e.last ≤ size := by
  have hbehind : ¬((e.last + size : Int) : Rat) < e.finish := by
    intro hfinish
    have := (h.le_last_iff _ (dvd_add_self_right.mpr h.last_dvd)).mpr hfinish
    omega
  push_cast at hbehind
  linarith

/-- The count of an edge is the number of its crossings. -/
theorem ncard_crossings {spacing : Spacing} (h : e.Marks spacing.size) (hsize : 0 < spacing.size) :
    (crossings spacing.size e.start e.finish).Finite
      ∧ ((crossings spacing.size e.start e.finish).ncard : Int) = e.steps := by
  -- an edge makes a family with itself, of the values that cross it
  have hvalues : crossings spacing.size e.start e.finish
      = (Family.between e e spacing).values.toFinset := by
    ext v
    rw [List.coe_toFinset, Set.mem_ofPred_eq, Family.mem_values_between hsize h h, min_self,
      max_self]
    rfl
  have hnodup : (Family.between e e spacing).values.Nodup :=
    (Family.values_pairwise hsize).imp fun hlt => hlt.ne
  have hsteps : (Family.between e e spacing).steps = e.steps := by
    rw [h.steps]
    show stepsBetween (min e.first e.first) (max e.last e.last) spacing.size = _
    rw [min_self, max_self]
  have hnonneg : 0 ≤ e.steps := by
    rw [h.steps]
    exact stepsBetween_nonneg hsize _ _
  rw [hvalues]
  refine ⟨Finset.finite_toSet _, ?_⟩
  rw [Set.ncard_coe_finset, List.toFinset_card_of_nodup hnodup, Family.length_values, hsteps]
  exact Int.toNat_of_nonneg hnonneg

/-- From end to end an edge with a mark is as long as the ways to its first mark
and from its last, and the steps between. -/
theorem sum_steps (h : e.Marks size) (hsteps : 0 < e.steps) :
    ((e.first : Rat) - e.start) + (e.steps - 1) * size + (e.finish - e.last)
      = e.finish - e.start := by
  rw [h.steps] at hsteps ⊢
  have hrun := stepsBetween_sub_one_mul (dvd_sub h.last_dvd h.first_dvd) hsteps
  have hrun : ((stepsBetween e.first e.last size : Rat) - 1) * size = e.last - e.first := by
    exact_mod_cast hrun
  rw [hrun]
  ring

end Marks

-- ============================================================== the result

/-- An edge that does not run forward is refused, for any spacing. -/
theorem ofLength_of_le [NumberText Rat] {start finish : Rat} (hbackward : finish ≤ start)
    (length : Rat) (spacing : Spacing) : ofLength start finish length spacing
      = .error (.edgeBackward (NumberText.shortest start) (NumberText.shortest finish)) := by
  have hdelta : ¬(0 < finish - start) := by
    rw [sub_pos]
    exact not_lt.mpr hbackward
  unfold ofLength
  rw [if_pos hdelta]
  rfl

/-- An edge that runs forward has its first mark at the least multiple of the
spacing after its start and its last mark at the greatest one before its finish;
its steps are the multiples between, and the ends are at most one step away from
the marks. An edge that does not run forward is refused. -/
theorem between_crossings [NumberText Rat] [Elementary Rat] {spacing : Spacing}
    (hsize : 1 ≤ spacing.size) (start finish across : Rat) :
    (start < finish → ∃ e, between start finish across spacing = .ok e
        ∧ IsLeast {v : Int | spacing.size ∣ v ∧ start < v} e.first
        ∧ IsGreatest {v : Int | spacing.size ∣ v ∧ (v : Rat) < finish} e.last
        ∧ (crossings spacing.size start finish).Finite
        ∧ ((crossings spacing.size start finish).ncard : Int) = e.steps
        ∧ e.startOffset = e.first - start ∧ 0 < e.startOffset ∧ e.startOffset ≤ spacing.size
        ∧ e.endOffset = finish - e.last ∧ 0 < e.endOffset ∧ e.endOffset ≤ spacing.size
        ∧ (0 < e.steps →
          e.startOffset + (e.steps - 1) * spacing.size + e.endOffset = finish - start))
      ∧ (finish ≤ start → between start finish across spacing
        = .error (.edgeBackward (NumberText.shortest start) (NumberText.shortest finish))) := by
  refine ⟨fun hforward => ?_, fun hbackward => ofLength_of_le hbackward _ spacing⟩
  have hmarks := exact_marks hsize start finish (Elementary.hypotenuse (finish - start) across)
  refine ⟨_, ofLength_eq_exact hsize hforward _, hmarks.isLeast_first, hmarks.isGreatest_last, ?_⟩
  obtain ⟨hfinite, hcount⟩ := hmarks.ncard_crossings hsize
  refine ⟨hfinite, hcount, rfl, ?_, hmarks.first_sub_le hsize, rfl, ?_, hmarks.sub_last_le hsize,
    hmarks.sum_steps⟩
  · exact sub_pos.mpr hmarks.isLeast_first.1.2
  · exact sub_pos.mpr hmarks.isGreatest_last.1.2

open scoped Coarse in
/-- An edge over the equator that ends on a multiple: three bars cross it, and the
last one is a whole step away from its finish. -/
theorem between_crossings_to_multiple :
    ∃ e : Edge Rat, between (-3001 / 2) 2000 7 .thousand = .ok e
      ∧ IsLeast {v : Int | (1000 : Int) ∣ v ∧ (-3001 / 2 : Rat) < v} e.first
      ∧ e.first = -1000 ∧ e.last = 1000 ∧ e.steps = 3
      ∧ e.startOffset + (e.steps - 1) * 1000 + e.endOffset = 7001 / 2 := by
  obtain ⟨e, he, hfirst, -, -, -, -, -, -, -, -, -, hsum⟩ :=
    (between_crossings (show 1 ≤ Spacing.thousand.size by decide) (-3001 / 2) 2000 7).1
      (by norm_num)
  have hvalues : (between (-3001 / 2 : Rat) 2000 7 .thousand).toOption.map
      (fun e => (e.first, e.last, e.steps)) = some (-1000, 1000, 3) := by
    decide +kernel
  obtain ⟨e', he', hvalues⟩ := Outcome.ok_of_toOption hvalues
  obtain rfl : e' = e := by
    rw [he] at he'
    injection he' with h
    exact h.symm
  simp only [Prod.mk.injEq] at hvalues
  obtain ⟨hfirst', hlast, hsteps⟩ := hvalues
  refine ⟨e', he, hfirst, hfirst', hlast, hsteps, ?_⟩
  have hsum := hsum (by omega)
  norm_num at hsum ⊢
  exact hsum

end Edge

end MapSheets
