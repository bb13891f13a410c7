import MapSheets.Proofs.Number.Rational
import MapSheets.Proofs.Outcome
import Mathlib.Tactic.Linarith

/-
The nearest whole number of a rational, a half to the even neighbour. Rounding is
known by two conditions on its result (`round?_eq_ok_iff`); it keeps the order, and it
goes along with a shift by an even number. A shift by an odd one turns halves the other
way.
-/

namespace MapSheets

/-- No whole number is nearer, and of two that are equally near this is the even one. -/
structure NearestEven (x : Rat) (n : Int) : Prop where
  low : x ≤ n + 1 / 2
  high : (n : Rat) ≤ x + 1 / 2
  tie : x = n + 1 / 2 ∨ (n : Rat) = x + 1 / 2 → n % 2 = 0

namespace NearestEven

variable {x y : Rat} {m n : Int}

/-- A larger quantity is not rounded to less. -/
theorem mono (hm : NearestEven x m) (hn : NearestEven y n) (h : x ≤ y) : m ≤ n := by
  by_contra hlt
  have hstep : n + 1 ≤ m := by omega
  have hcast : (n : Rat) + 1 ≤ m := by exact_mod_cast hstep
  -- both are halves, with one neighbour each, and neighbours are not both even
  have hx : (m : Rat) = x + 1 / 2 := by linarith [hm.high, hn.low]
  have hy : y = n + 1 / 2 := by linarith [hm.high, hn.low]
  have hm2 := hm.tie (Or.inr hx)
  have hn2 := hn.tie (Or.inl hy)
  have hnext : (m : Rat) = (n + 1 : Int) := by
    push_cast
    linarith [hm.high, hn.low]
  have hnext : m = n + 1 := by exact_mod_cast hnext
  omega

theorem unique (hm : NearestEven x m) (hn : NearestEven x n) : m = n :=
  le_antisymm (hm.mono hn le_rfl) (hn.mono hm le_rfl)

theorem neg (h : NearestEven x n) : NearestEven (-x) (-n) where
  low := by
    push_cast
    linarith [h.high]
  high := by
    push_cast
    linarith [h.low]
  tie htie := by
    have heven : n % 2 = 0 := by
      refine h.tie (htie.symm.imp (fun hhalf => ?_) fun hhalf => ?_)
      · push_cast at hhalf
        linarith
      · push_cast at hhalf
        linarith
    omega

/-- An even number may be taken off before or after. -/
theorem sub_even (h : NearestEven x n) {k : Int} (hk : k % 2 = 0) :
    NearestEven (x - k) (n - k) where
  low := by
    push_cast
    linarith [h.low]
  high := by
    push_cast
    linarith [h.high]
  tie htie := by
    have heven : n % 2 = 0 := by
      refine h.tie (htie.imp (fun hhalf => ?_) fun hhalf => ?_)
      · push_cast at hhalf
        linarith
      · push_cast at hhalf
        linarith
    omega

/-- What is rounded down is not rounded below the whole number under it. -/
theorem floor_le (h : NearestEven x n) : ⌊x⌋ ≤ n := by
  have hfloor := Int.floor_le x
  have hnear := h.low
  have hlt : (⌊x⌋ : Rat) < (n + 1 : Int) := by
    push_cast
    linarith
  exact Int.lt_add_one_iff.mp (by exact_mod_cast hlt)

end NearestEven

namespace Scalar

theorem roundUpward?_rat (x : Rat) : ∃ n, roundUpward? x = .ok n ∧ NearestEven x n := by
  have hfloor := Int.floor_le x
  have hnext := Int.lt_floor_add_one x
  unfold roundUpward?
  rw [floor?_rat, Outcome.ok_bind]
  dsimp only
  rw [ofInt_rat, ratio_rat]
  by_cases hbelow : x - ⌊x⌋ < ((1 : Int) : Rat) / ((2 : Int) : Rat)
  · rw [if_pos hbelow]
    push_cast at hbelow
    refine ⟨_, rfl, by linarith, by linarith, ?_⟩
    rintro (hhalf | hhalf) <;> linarith
  · rw [if_neg hbelow]
    push_cast at hbelow
    by_cases habove : ((1 : Int) : Rat) / ((2 : Int) : Rat) < x - ⌊x⌋
    · rw [if_pos habove]
      push_cast at habove
      refine ⟨_, rfl, by push_cast; linarith, by push_cast; linarith, ?_⟩
      rintro (hhalf | hhalf)
      · push_cast at hhalf
        linarith
      · push_cast at hhalf
        linarith
    · rw [if_neg habove]
      push_cast at habove
      have hhalf : x = ⌊x⌋ + 1 / 2 := by linarith
      by_cases heven : ⌊x⌋ % 2 = 0
      · rw [if_pos heven]
        exact ⟨_, rfl, by linarith, by linarith, fun _ => heven⟩
      · rw [if_neg heven]
        exact ⟨_, rfl, by push_cast; linarith, by push_cast; linarith, fun _ => by omega⟩

theorem round?_rat (x : Rat) : ∃ n, round? x = .ok n ∧ NearestEven x n := by
  unfold round?
  split
  · obtain ⟨n, hn, hnear⟩ := roundUpward?_rat (-x)
    refine ⟨-n, by rw [hn]; rfl, ?_⟩
    simpa using hnear.neg
  · exact roundUpward?_rat x

theorem round?_eq_ok_iff {x : Rat} {n : Int} : round? x = .ok n ↔ NearestEven x n := by
  obtain ⟨m, hm, hnear⟩ := round?_rat x
  rw [hm, Except.ok.injEq]
  constructor
  · rintro rfl
    exact hnear
  · exact hnear.unique

end Scalar

end MapSheets
