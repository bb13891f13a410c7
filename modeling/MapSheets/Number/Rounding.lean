/-
Quotients of whole numbers brought to whole numbers. A half goes to the even
neighbour, so rounding leans to neither side.
-/

namespace MapSheets

/-- The quotient rounded to the nearest whole number, a half to the even
neighbour. -/
def roundQuotient (n d : Nat) : Nat :=
  let q := n / d
  let r := n % d
  if 2 * r < d then q
  else if d < 2 * r then q + 1
  else if q % 2 = 0 then q else q + 1

/-- A quotient that leaves no rest is not rounded. -/
theorem roundQuotient_mul (q : Nat) {d : Nat} (h : 0 < d) : roundQuotient (q * d) d = q := by
  simp [roundQuotient, Nat.mul_div_cancel q h, h]

/-- A rounded quotient is the floor or the whole number after it. -/
theorem roundQuotient_eq_or (n d : Nat) :
    roundQuotient n d = n / d ∨ roundQuotient n d = n / d + 1 := by
  unfold roundQuotient
  dsimp only
  split
  · exact Or.inl rfl
  · split
    · exact Or.inr rfl
    · split
      · exact Or.inl rfl
      · exact Or.inr rfl

end MapSheets
