import MapSheets.Number.Elementary
import MapSheets.Proofs.Number.Rational
import MapSheets.Proofs.Outcome

/-
Unlimited arithmetic. Over quantities that are all finite no power of two
vanishes, and the steps that may be refused otherwise, because a result grows
too large or has no whole part, are taken. Exact arithmetic is of this kind.
-/

namespace MapSheets

/-- Every quantity is finite, has a whole part below it, and is a divisor as a power of two. -/
structure Unlimited (α : Type) [Scalar α] [Elementary α] : Prop where
  isFinite (x : α) : Scalar.isFinite x = true
  floor (x : α) : ∃ n, Scalar.floor? x = .ok n
  power (x : α) : Scalar.isZero (Elementary.powerOfTwo x) = false

namespace Unlimited

variable {α : Type} [Scalar α] [Elementary α]

theorem bounded (u : Unlimited α) (f : α → α) (x : α) : Elementary.bounded? f x = .ok (f x) := by
  unfold Elementary.bounded?
  rw [u.isFinite, Bool.true_or, if_pos rfl]

theorem ranged (u : Unlimited α) (f : α → α) (x : α) : Elementary.ranged? f x = .ok (f x) := by
  unfold Elementary.ranged?
  simp only [u.isFinite, Bool.not_true, Bool.and_false, Bool.false_eq_true, if_false]

theorem powerOfTwo (u : Unlimited α) (x : α) :
    Elementary.powerOfTwo? x = .ok (Elementary.powerOfTwo x) := u.ranged _ x

theorem quotient_power (u : Unlimited α) (x y : α) :
    Scalar.quotient? x (Elementary.powerOfTwo y) = .ok (x / Elementary.powerOfTwo y) := by
  unfold Scalar.quotient?
  rw [u.power, if_neg Bool.false_ne_true]

theorem ratio (u : Unlimited α) (p : Int) {q : Int} (hq : q ≠ 0) :
    Scalar.ratio? p q = .ok (Scalar.ratio p q : α) := by
  unfold Scalar.ratio?
  rw [if_neg hq]
  dsimp only
  rw [u.isFinite, if_pos rfl]

theorem roundUpward (u : Unlimited α) (x : α) : ∃ n, Scalar.roundUpward? x = .ok n := by
  unfold Scalar.roundUpward?
  refine Outcome.bind_isOk (u.floor x) fun below => ?_
  dsimp only
  split
  · exact ⟨_, rfl⟩
  · split <;> exact ⟨_, rfl⟩

theorem round (u : Unlimited α) (x : α) : ∃ n, Scalar.round? x = .ok n := by
  unfold Scalar.round?
  split
  · obtain ⟨n, hn⟩ := u.roundUpward (-x)
    exact ⟨-n, by rw [hn]; rfl⟩
  · exact u.roundUpward x

end Unlimited

/-- The rationals are unlimited, with any powers of two that are above zero. -/
theorem unlimited_rat [Elementary Rat] (h : ∀ x : Rat, 0 < Elementary.powerOfTwo x) :
    Unlimited Rat where
  isFinite _ := rfl
  floor x := ⟨_, Scalar.floor?_rat x⟩
  power x := by
    rw [Scalar.isZero_rat]
    exact decide_eq_false (h x).ne'

end MapSheets
