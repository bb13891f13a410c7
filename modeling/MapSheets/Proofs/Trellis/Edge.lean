import MapSheets.Proofs.Number.Rational
import MapSheets.Proofs.Outcome
import MapSheets.Trellis.Edge
import Mathlib.Tactic.Linarith

/-
The marks of an edge: the first multiple of the spacing after its start and
the last one before its end. Both are strict, so a multiple on an end of the
edge is not a mark. `Marks` says this by what lies between, since an edge may
have no multiple at all, and the last mark is then below the first; the marks
are found by rounding toward the floor, which holds on both sides of zero
(`le_below_iff`). `exact` is the whole edge in closed form.
-/

namespace MapSheets

/-- The meters below the spacing are the rest of a division to the floor. -/
theorem Spacing.trailing_of_split {s : Spacing} {n : Int} {p : SplitCoord}
    (h : s.split n = .ok p) : p.trailing = n.fmod s.size := by
  unfold split at h
  split at h
  case isTrue => cases h
  case isFalse =>
    cases h
    rfl

namespace Edge

-- ====================================================== multiples of a size

/-- The greatest multiple of a size up to a whole number. -/
def below (size n : Int) : Int := n - n.fmod size

theorem dvd_below (size n : Int) : size ∣ below size n :=
  Dvd.intro _ (Int.mul_fdiv_self n size)

/-- For a negative size the multiple is the next one not below the number. -/
theorem below_of_neg {size : Int} (hsize : size < 0) (n : Int) :
    n ≤ below size n ∧ below size n + size < n := by
  obtain ⟨-, hlow, hhigh⟩ :=
    (Int.fdiv_fmod_unique' hsize (a := n) (r := n.fmod size) (q := n.fdiv size)).mp ⟨rfl, rfl⟩
  unfold below
  omega

/-- No multiple lies between a whole number and the one below it. -/
theorem le_below_iff {size : Int} (hsize : 0 < size) {v : Int} (hv : size ∣ v) (n : Int) :
    v ≤ below size n ↔ v ≤ n := by
  obtain ⟨k, rfl⟩ := hv
  have hbelow : below size n = size * (n / size) := by
    unfold below
    rw [Int.fmod_eq_emod_of_nonneg n hsize.le]
    have := Int.mul_ediv_add_emod n size
    omega
  rw [hbelow, mul_le_mul_iff_right₀ hsize, Int.le_ediv_iff_mul_le hsize, mul_comm]

/-- Neighbouring multiples are one size apart. -/
theorem add_le_iff_of_dvd {size a b : Int} (hsize : 0 < size) (ha : size ∣ a) (hb : size ∣ b) :
    a + size ≤ b ↔ a < b := by
  obtain ⟨k, rfl⟩ := ha
  obtain ⟨m, rfl⟩ := hb
  rw [← mul_add_one, mul_le_mul_iff_right₀ hsize, mul_lt_mul_iff_right₀ hsize]
  exact Int.add_one_le_iff

-- ============================================================ counting marks

/-- The count of a run is the number of steps that fit below its last value. -/
theorem lt_stepsBetween_iff {size : Int} (hsize : 0 < size) {i : Int} (hi : 0 ≤ i)
    (first last : Int) : i < stepsBetween first last size ↔ first + i * size ≤ last := by
  unfold stepsBetween
  by_cases h : first ≤ last
  · rw [if_pos h, Int.fdiv_eq_ediv_of_nonneg _ hsize.le, Int.lt_add_one_iff,
      Int.le_ediv_iff_mul_le hsize]
    omega
  · rw [if_neg h]
    have hrun := mul_nonneg hi hsize.le
    constructor <;> intro _ <;> omega

theorem stepsBetween_nonneg {size : Int} (hsize : 0 < size) (first last : Int) :
    0 ≤ stepsBetween first last size := by
  unfold stepsBetween
  split
  case isTrue h =>
    have := Int.fdiv_nonneg (sub_nonneg.mpr h) hsize.le
    omega
  case isFalse => exact le_refl 0

/-- A run that starts earlier and ends later counts at least as much. -/
theorem stepsBetween_mono {size : Int} (hsize : 0 < size) {first first' last last' : Int}
    (hfirst : first ≤ first') (hlast : last' ≤ last) :
    stepsBetween first' last' size ≤ stepsBetween first last size := by
  by_contra hless
  have hnonneg := stepsBetween_nonneg hsize first last
  -- the index that only the shorter run would have
  have hinner := (lt_stepsBetween_iff hsize hnonneg first' last').mp (not_le.mp hless)
  have houter := (lt_stepsBetween_iff hsize hnonneg first last).mpr (by omega)
  exact lt_irrefl _ houter

/-- No bars are counted in steps that run backward. -/
theorem stepsBetween_nonpos_of_neg {size first last : Int} (hsize : size < 0)
    (hrun : first < last) : stepsBetween first last size ≤ 0 := by
  obtain ⟨hdiv, -, hrest⟩ := (Int.fdiv_fmod_unique' hsize (a := last - first)
    (r := (last - first).fmod size) (q := (last - first).fdiv size)).mp ⟨rfl, rfl⟩
  have hcount : (last - first).fdiv size < 0 := by
    by_contra hnonneg
    have := mul_nonpos_of_nonpos_of_nonneg hsize.le (not_lt.mp hnonneg)
    omega
  unfold stepsBetween
  rw [if_pos hrun.le]
  omega

-- ========================================================= marks of an edge

/-- The marks of an edge are multiples of its spacing, however its quantities
are calculated. -/
theorem dvd_of_ofLength {α : Type} [Scalar α] [NumberText α] {spacing : Spacing}
    {start finish length : α} {e : Edge α} (h : ofLength start finish length spacing = .ok e) :
    spacing.size ∣ e.first ∧ spacing.size ∣ e.last := by
  unfold ofLength at h
  split at h
  case isTrue => cases h
  case isFalse =>
    obtain ⟨startFloor, -, h⟩ := Outcome.bind_eq_ok.mp h
    obtain ⟨startSplit, hstart, h⟩ := Outcome.bind_eq_ok.mp h
    obtain ⟨endFloor, -, h⟩ := Outcome.bind_eq_ok.mp h
    obtain ⟨endSplit, hend, h⟩ := Outcome.bind_eq_ok.mp h
    obtain ⟨ceiling, -, h⟩ := Outcome.bind_eq_ok.mp h
    obtain ⟨_, -, h⟩ := Outcome.bind_eq_ok.mp h
    obtain ⟨_, -, h⟩ := Outcome.bind_eq_ok.mp h
    obtain ⟨_, -, h⟩ := Outcome.bind_eq_ok.mp h
    cases h
    dsimp only
    rw [Spacing.trailing_of_split (Outcome.lift_eq_ok.mp hstart),
      Spacing.trailing_of_split (Outcome.lift_eq_ok.mp hend)]
    refine ⟨dvd_add_self_right.mpr (dvd_below spacing.size startFloor), ?_⟩
    split
    case isTrue => exact dvd_sub_self_right.mpr (dvd_below spacing.size endFloor)
    case isFalse => exact dvd_below spacing.size endFloor

/-- The marks of an edge are the multiples strictly between its ends. -/
structure Marks (e : Edge Rat) (size : Int) : Prop where
  first_dvd : size ∣ e.first
  last_dvd : size ∣ e.last
  first_le_iff : ∀ v : Int, size ∣ v → (e.first ≤ v ↔ e.start < v)
  le_last_iff : ∀ v : Int, size ∣ v → (v ≤ e.last ↔ (v : Rat) < e.finish)
  steps : e.steps = stepsBetween e.first e.last size

/-- The last multiple strictly below a quantity. -/
def lastBelow (size : Int) (x : Rat) : Int :=
  if ⌈x⌉ ≤ below size ⌊x⌋ then below size ⌊x⌋ - size else below size ⌊x⌋

theorem dvd_lastBelow (size : Int) (x : Rat) : size ∣ lastBelow size x := by
  have hbelow := dvd_below size ⌊x⌋
  unfold lastBelow
  split
  case isTrue => exact dvd_sub_self_right.mpr hbelow
  case isFalse => exact hbelow

theorem le_lastBelow_iff {size : Int} (hsize : 0 < size) {v : Int} (hv : size ∣ v) (x : Rat) :
    v ≤ lastBelow size x ↔ (v : Rat) < x := by
  have hbelow := le_below_iff hsize hv ⌊x⌋
  have hself := (le_below_iff hsize (dvd_below size ⌊x⌋) ⌊x⌋).mp le_rfl
  have hfloor := Int.floor_le_ceil x
  have hceil := Int.ceil_le_floor_add_one x
  rw [← Int.lt_ceil]
  unfold lastBelow
  split
  case isTrue h =>
    -- the quantity is the multiple itself
    rw [le_sub_iff_add_le, add_le_iff_of_dvd hsize hv (dvd_below size ⌊x⌋)]
    omega
  case isFalse h => omega

theorem firstAbove_le_iff {size : Int} (hsize : 0 < size) {v : Int} (hv : size ∣ v) (x : Rat) :
    below size ⌊x⌋ + size ≤ v ↔ x < v := by
  rw [add_le_iff_of_dvd hsize (dvd_below size ⌊x⌋) hv, ← not_le, le_below_iff hsize hv, not_le,
    Int.floor_lt]

-- ======================================================== exact edges

/-- The edge that runs from one coordinate to another, in closed form. -/
def exact (start finish length : Rat) (spacing : Spacing) : Edge Rat :=
  let first := below spacing.size ⌊start⌋ + spacing.size
  let last := lastBelow spacing.size finish
  { start, finish, length, first, last
    steps := stepsBetween first last spacing.size
    startOffset := first - start
    endOffset := finish - last
    stepSize := spacing.size * length / (finish - start) }

/-- Every edge that runs forward can be made for a spacing that is not zero. -/
theorem ofLength_of_ne_zero [NumberText Rat] {spacing : Spacing} (hsize : spacing.size ≠ 0)
    {start finish : Rat} (hforward : start < finish) (length : Rat) :
    ofLength start finish length spacing = .ok (exact start finish length spacing) := by
  have hdelta : ¬¬(0 < finish - start) := not_not.mpr (sub_pos.mpr hforward)
  have hsplit : ∀ n, spacing.split n = .ok
      { leading := (n.fdiv spacing.size).fdiv 100, label := (n.fdiv spacing.size).fmod 100
        trailing := n.fmod spacing.size } := by
    intro n
    unfold Spacing.split
    rw [if_neg hsize]
  unfold ofLength
  rw [if_neg hdelta]
  simp only [Scalar.floor?_rat, Scalar.ceil?_rat, hsplit]
  rfl

/-- Every edge that runs forward can be made for a positive spacing. -/
theorem ofLength_eq_exact [NumberText Rat] {spacing : Spacing} (hsize : 0 < spacing.size)
    {start finish : Rat} (hforward : start < finish) (length : Rat) :
    ofLength start finish length spacing = .ok (exact start finish length spacing) :=
  ofLength_of_ne_zero hsize.ne' hforward length

/-- An edge that was made runs forward and has a spacing that is not zero, and
every number on it follows from those given. -/
theorem eq_exact_of_ofLength [NumberText Rat] {spacing : Spacing} {start finish length : Rat}
    {e : Edge Rat} (h : ofLength start finish length spacing = .ok e) :
    start < finish ∧ spacing.size ≠ 0 ∧ e = exact start finish length spacing := by
  have hforward : start < finish := by
    by_contra hbackward
    unfold ofLength at h
    rw [if_pos (fun hdelta => hbackward (sub_pos.mp hdelta))] at h
    cases h
  have hsize : spacing.size ≠ 0 := by
    intro hzero
    have hsplit : ∀ n, spacing.split n = .error .remainderByZero := by
      intro n
      unfold Spacing.split
      rw [if_pos hzero]
    unfold ofLength at h
    rw [if_neg (not_not.mpr (sub_pos.mpr hforward))] at h
    simp only [Scalar.floor?_rat, hsplit] at h
    cases h
  rw [ofLength_of_ne_zero hsize hforward] at h
  injection h with h
  exact ⟨hforward, hsize, h.symm⟩

/-- For a negative spacing the first mark of an edge lies below the last one. -/
theorem exact_first_lt_last_of_neg {spacing : Spacing} (hsize : spacing.size < 0)
    {start finish : Rat} (hforward : start < finish) (length : Rat) :
    (exact start finish length spacing).first < (exact start finish length spacing).last := by
  have hfirst := (below_of_neg hsize ⌊start⌋).2
  have hlast := (below_of_neg hsize ⌊finish⌋).1
  have hfloor := Int.floor_le_floor hforward.le
  show below spacing.size ⌊start⌋ + spacing.size < lastBelow spacing.size finish
  unfold lastBelow
  split
  case isTrue => omega
  case isFalse => omega

theorem exact_marks {spacing : Spacing} (hsize : 0 < spacing.size) (start finish length : Rat) :
    (exact start finish length spacing).Marks spacing.size where
  first_dvd := dvd_add_self_right.mpr (dvd_below spacing.size ⌊start⌋)
  last_dvd := dvd_lastBelow spacing.size finish
  first_le_iff _ hv := firstAbove_le_iff hsize hv start
  le_last_iff _ hv := le_lastBelow_iff hsize hv finish
  steps := rfl

end Edge

end MapSheets
