import MapSheets.Proofs.Geodesy.Coarse
import MapSheets.Proofs.Trellis.Edge
import MapSheets.Trellis.Basic

/-
The values of a family of bars. A family runs from the lower one of the first
marks of its two edges to the higher one of their last marks. Its values are
the multiples of the spacing between, each once and in order
(`mem_values_iff`), and read through the marks of the edges these are the
multiples strictly between the outermost ends (`between_values`). This holds
for edges without any mark and for edges that do not overlap: what lies in the
gap of such edges is a value too.
-/

namespace MapSheets

namespace Family

variable {α : Type} {f : Family α}

/-- The values of the bars, in the order of their indexes. -/
def values (f : Family α) : List Int :=
  (List.range f.steps.toNat).map fun (i : Nat) => f.valueAt i

@[simp] theorem length_values (f : Family α) : f.values.length = f.steps.toNat := by
  simp [values]

/-- Values grow with the index. -/
theorem values_pairwise (hsize : 0 < f.spacing.size) : f.values.Pairwise (· < ·) := by
  unfold values
  rw [List.pairwise_map]
  refine List.pairwise_lt_range.imp fun {i j} hij => ?_
  have hij : (i : Int) * f.spacing.size < j * f.spacing.size :=
    mul_lt_mul_of_pos_right (by exact_mod_cast hij) hsize
  unfold valueAt
  omega

/-- A family that runs between two multiples of its spacing has every
multiple between them, and nothing else. -/
theorem mem_values_iff (hsize : 0 < f.spacing.size) (hfirst : f.spacing.size ∣ f.first) {last : Int}
    (hsteps : f.steps = Edge.stepsBetween f.first last f.spacing.size) (v : Int) :
    v ∈ f.values ↔ f.spacing.size ∣ v ∧ f.first ≤ v ∧ v ≤ last := by
  unfold values
  rw [List.mem_map]
  constructor
  · rintro ⟨i, hi, rfl⟩
    rw [List.mem_range, Int.lt_toNat, hsteps,
      Edge.lt_stepsBetween_iff hsize (Int.natCast_nonneg i)] at hi
    have hrun := mul_nonneg (Int.natCast_nonneg i) hsize.le
    unfold valueAt
    exact ⟨hfirst.add (Dvd.intro_left _ rfl), by omega, hi⟩
  · rintro ⟨hv, hlow, hhigh⟩
    obtain ⟨k, hk⟩ := dvd_sub hv hfirst
    have hnonneg : 0 ≤ k := by
      by_contra hneg
      have := mul_neg_of_pos_of_neg hsize (not_le.mp hneg)
      omega
    have hvalue : f.first + k * f.spacing.size = v := by
      rw [mul_comm, ← hk]
      omega
    have hcount : k < f.steps := by
      rw [hsteps, Edge.lt_stepsBetween_iff hsize hnonneg, hvalue]
      exact hhigh
    refine ⟨k.toNat, List.mem_range.mpr (by omega), ?_⟩
    unfold valueAt
    rw [Int.toNat_of_nonneg hnonneg, hvalue]

-- ======================================================== between two edges

/-- The first value of a family is a multiple after the start of either edge. -/
theorem first_le_iff {s e : Edge Rat} {spacing : Spacing} (hs : s.Marks spacing.size)
    (he : e.Marks spacing.size) {v : Int} (hv : spacing.size ∣ v) :
    (between s e spacing).first ≤ v ↔ min s.start e.start < v := by
  show min s.first e.first ≤ v ↔ _
  rw [min_le_iff, min_lt_iff, hs.first_le_iff v hv, he.first_le_iff v hv]

/-- The last value of a family is a multiple before the end of either edge. -/
theorem le_last_iff {s e : Edge Rat} {spacing : Spacing} (hs : s.Marks spacing.size)
    (he : e.Marks spacing.size) {v : Int} (hv : spacing.size ∣ v) :
    v ≤ max s.last e.last ↔ (v : Rat) < max s.finish e.finish := by
  rw [le_max_iff, lt_max_iff, hs.le_last_iff v hv, he.le_last_iff v hv]

/-- A family has the multiples of its spacing between the outermost ends of
its edges. -/
theorem mem_values_between {s e : Edge Rat} {spacing : Spacing} (hsize : 0 < spacing.size)
    (hs : s.Marks spacing.size) (he : e.Marks spacing.size) (v : Int) :
    v ∈ (between s e spacing).values
      ↔ spacing.size ∣ v ∧ min s.start e.start < v ∧ (v : Rat) < max s.finish e.finish := by
  have hfirst : spacing.size ∣ (between s e spacing).first := by
    show spacing.size ∣ min s.first e.first
    rcases min_choice s.first e.first with h | h
    · rw [h]
      exact hs.first_dvd
    · rw [h]
      exact he.first_dvd
  rw [mem_values_iff hsize hfirst rfl]
  refine and_congr_right fun hv => ?_
  rw [← first_le_iff hs he hv, ← le_last_iff hs he hv]

/-- A family counts at least as many bars as each of its edges has marks. -/
theorem steps_between {s e : Edge Rat} {spacing : Spacing} (hsize : 0 < spacing.size)
    (hs : s.Marks spacing.size) (he : e.Marks spacing.size) :
    max s.steps e.steps ≤ (between s e spacing).steps := by
  rw [hs.steps, he.steps]
  exact max_le
    (Edge.stepsBetween_mono hsize (min_le_left _ _) (le_max_left _ _))
    (Edge.stepsBetween_mono hsize (min_le_right _ _) (le_max_right _ _))

/-- Any two edges that run forward make a family whose values are, in order
and each once, the multiples of the spacing strictly between the outermost
ends of the edges. -/
theorem between_values [NumberText Rat] [Elementary Rat] {spacing : Spacing}
    (hsize : 1 ≤ spacing.size) {start₁ finish₁ start₂ finish₂ : Rat} (h₁ : start₁ < finish₁)
    (h₂ : start₂ < finish₂) (across₁ across₂ : Rat) :
    ∃ s e, Edge.between start₁ finish₁ across₁ spacing = .ok s
      ∧ Edge.between start₂ finish₂ across₂ spacing = .ok e
      ∧ (between s e spacing).values.length = (between s e spacing).steps
      ∧ (between s e spacing).values.Pairwise (· < ·)
      ∧ (∀ v, v ∈ (between s e spacing).values
          ↔ spacing.size ∣ v ∧ min start₁ start₂ < v ∧ (v : Rat) < max finish₁ finish₂)
      ∧ max s.steps e.steps ≤ (between s e spacing).steps := by
  have hs := Edge.exact_marks hsize start₁ finish₁
    (Elementary.hypotenuse (finish₁ - start₁) across₁)
  have he := Edge.exact_marks hsize start₂ finish₂
    (Elementary.hypotenuse (finish₂ - start₂) across₂)
  refine ⟨_, _, Edge.ofLength_eq_exact hsize h₁ _, Edge.ofLength_eq_exact hsize h₂ _, ?_,
    values_pairwise hsize, mem_values_between hsize hs he, steps_between hsize hs he⟩
  rw [length_values]
  exact Int.toNat_of_nonneg (Edge.stepsBetween_nonneg hsize _ _)

open scoped Coarse in
/-- Two edges that do not overlap, one of them over the equator: the values in
the gap are there, the one on the outermost end is not. -/
theorem between_values_over_gap :
    ∃ s e : Edge Rat,
      Edge.between (-3001 / 2) 1000 7 .thousand = .ok s
      ∧ Edge.between 2500 4000 (-7) .thousand = .ok e
      ∧ (between s e .thousand).values.Pairwise (· < ·)
      ∧ (-1000 ∈ (between s e .thousand).values ∧ 2000 ∈ (between s e .thousand).values)
      ∧ 4000 ∉ (between s e .thousand).values := by
  obtain ⟨s, e, hs, he, -, hincreasing, hvalues, -⟩ :=
    between_values (show 1 ≤ Spacing.thousand.size by decide)
      (show (-3001 / 2 : Rat) < 1000 by norm_num) (show (2500 : Rat) < 4000 by norm_num) 7 (-7)
  refine ⟨s, e, hs, he, hincreasing, ⟨?_, ?_⟩, ?_⟩
  · exact (hvalues _).mpr ⟨by decide, by norm_num, by norm_num⟩
  · exact (hvalues _).mpr ⟨by decide, by norm_num, by norm_num⟩
  · intro hmem
    obtain ⟨-, -, hend⟩ := (hvalues _).mp hmem
    norm_num at hend

end Family

namespace Trellis

variable {α : Type} [Scalar α]

/-- The northing bars stand at the values of their family. -/
theorem northingBars_value (t : Trellis α) :
    t.northingBars.map Bar.value = t.northing.values := by
  unfold northingBars Family.values
  rw [List.map_map]
  rfl

/-- The easting bars stand at the values of their family. -/
theorem eastingBars_value (t : Trellis α) : t.eastingBars.map Bar.value = t.easting.values := by
  unfold eastingBars Family.values
  rw [List.map_map]
  rfl

end Trellis

end MapSheets
