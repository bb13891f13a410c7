import MapSheets.Number.Exact
import MapSheets.Proofs.Number.Numeral
import Mathlib.Data.Rat.Lemmas
import Mathlib.Tactic.FieldSimp
import Mathlib.Tactic.Linarith
import Mathlib.Tactic.Positivity
import Mathlib.Tactic.Ring

/-
Quantities with a count of places. What is written is a whole number of units of
the last place, the one nearest to the exact value: it is off by half a unit at
most (`abs_units_sub_le`), and it comes up to an even number of units from half a
unit below on (`even_le_units_iff`). This is how doubles are written
(`fixed_of_decode`), and other quantities may be written so (`WritesRounded`).

Read back, digits with a point among them are the units again
(`decimal?_placePoint`).
-/

namespace MapSheets

-- ======================================================= rounded quotients

section
variable {n d : Nat}

/-- A rounded quotient does not depend on the form of the fraction. -/
theorem roundQuotient_mul_left {k : Nat} (hk : 0 < k) :
    roundQuotient (k * n) (k * d) = roundQuotient n d := by
  have hrest : 2 * (k * (n % d)) = k * (2 * (n % d)) := by ring
  unfold roundQuotient
  simp only [Nat.mul_div_mul_left _ _ hk, Nat.mul_mod_mul_left, hrest, Nat.mul_lt_mul_left hk]

/-- Twice a rounded quotient is within a divisor of twice the quotient. -/
theorem roundQuotient_bounds (n : Nat) (hd : 0 < d) :
    2 * n ≤ 2 * (roundQuotient n d * d) + d ∧ 2 * (roundQuotient n d * d) ≤ 2 * n + d := by
  have hsum := Nat.div_add_mod' n d
  have hrest := Nat.mod_lt n hd
  have hnext : (n / d + 1) * d = n / d * d + d := by ring
  unfold roundQuotient
  dsimp only
  split
  · omega
  · split
    · omega
    · split <;> omega

/-- A quotient is rounded up to an even number from half below it on. -/
theorem even_le_roundQuotient_iff (hd : 0 < d) {m : Nat} (hm : m % 2 = 0) :
    m ≤ roundQuotient n d ↔ 2 * (m * d) ≤ 2 * n + d := by
  have hsum := Nat.div_add_mod' n d
  have hrest := Nat.mod_lt n hd
  have hrounded := roundQuotient_eq_or n d
  rcases lt_trichotomy m (n / d + 1) with hlow | rfl | hhigh
  · have hmul : m * d ≤ n / d * d := Nat.mul_le_mul_right d (by omega)
    exact iff_of_true (by omega) (by omega)
  · -- the floor before an even number is odd, so a half goes up
    have hmul : (n / d + 1) * d = n / d * d + d := by ring
    unfold roundQuotient
    dsimp only
    split
    · omega
    · split
      · omega
      · rw [if_neg (by omega)]
        omega
  · have hmul : (n / d + 2) * d ≤ m * d := Nat.mul_le_mul_right d (by omega)
    have hnext : (n / d + 2) * d = n / d * d + 2 * d := by ring
    exact iff_of_false (by omega) (by omega)

end

-- ========================================================== nearest units

namespace Decimal

/-- The units of `10 ^ -places` that a quantity of no sign is nearest to. -/
def units (places : Nat) (x : Rat) : Nat := roundQuotient (x.num.natAbs * tenTo places) x.den

/-- Quantities are written with a count of places as whole numbers of units. -/
def WritesRounded [NumberText Rat] : Prop := ∀ (places : Nat) (x : Rat),
  NumberText.fixed places x = signText (x < 0) ++ placePoint places (units places x)

variable {places : Nat} {x : Rat}

theorem units_intCast (n : Int) :
    units places (n : Rat) = roundQuotient (n.natAbs * tenTo places) 1 := rfl

theorem units_mkRat (n : Int) {d : Nat} (hd : d ≠ 0) :
    units places (mkRat n d) = roundQuotient (n.natAbs * tenTo places) d := by
  obtain ⟨k, hk, hn, hden⟩ :
      ∃ k : Nat, k ≠ 0 ∧ n = (mkRat n d).num * k ∧ d = (mkRat n d).den * k :=
    Rat.mkRat_num_den hd rfl
  have hnum : n.natAbs * tenTo places = k * ((mkRat n d).num.natAbs * tenTo places) := by
    conv_lhs => rw [hn, Int.natAbs_mul, Int.natAbs_natCast]
    ring
  calc units places (mkRat n d)
      = roundQuotient (k * ((mkRat n d).num.natAbs * tenTo places)) (k * (mkRat n d).den) :=
        (roundQuotient_mul_left (Nat.pos_of_ne_zero hk)).symm
    _ = roundQuotient (n.natAbs * tenTo places) d := by
        rw [← hnum, mul_comm k (mkRat n d).den, ← hden]

/-- Doubles are written as whole numbers of units, the sign in front. -/
theorem fixed_of_decode {x : Float} {negative : Bool} {m : Nat} {e : Int} {r : Rat}
    (h : Binary.decode x = .finite negative m e) (hr : Exact.toRat? x = some r) :
    fixed places x = signText negative ++ placePoint places (units places r) := by
  have hvalue : (Binary.decode x).toRat? = some r := hr
  have hsize : (if negative then -(m : Int) else m).natAbs = m := by
    cases negative
    · rfl
    · rw [if_pos rfl, Int.natAbs_neg, Int.natAbs_natCast]
  unfold fixed
  rw [h] at hvalue ⊢
  dsimp only [Binary.toRat?] at hvalue
  cases hvalue
  show signText negative ++ placePoint places (roundQuotient
    (((Fraction.ofBinary m e).scale places).num) (((Fraction.ofBinary m e).scale places).den)) = _
  refine congrArg (fun k => signText negative ++ placePoint places k) ?_
  unfold Fraction.ofBinary Fraction.scale
  rw [if_pos (Int.natCast_nonneg places), Int.toNat_natCast]
  by_cases he : 0 ≤ e
  · rw [if_pos he, if_pos he, units_intCast, Int.natAbs_mul, hsize, Int.natAbs_natCast]
  · rw [if_neg he, if_neg he, units_mkRat _ (twoTo_pos _).ne', hsize]

section
variable (places) (hx : 0 ≤ x)
include hx

/-- The fraction that is rounded is the quantity in units. -/
theorem num_mul_tenTo :
    ((x.num.natAbs * tenTo places : Nat) : Rat) = x * 10 ^ places * x.den := by
  rw [tenTo_eq_pow, Nat.cast_mul, Nat.cast_natAbs, abs_of_nonneg (Rat.num_nonneg.mpr hx),
    ← Rat.mul_den_eq_num]
  push_cast
  ring

/-- Units are off by half a unit at most. -/
theorem abs_units_sub_le : |(units places x : Rat) / 10 ^ places - x| ≤ 1 / 10 ^ places / 2 := by
  have hden : (0 : Rat) < x.den := by exact_mod_cast x.den_pos
  have hunit : (0 : Rat) < 10 ^ places := by positivity
  have hnum := num_mul_tenTo places hx
  obtain ⟨hlow, hhigh⟩ := roundQuotient_bounds (x.num.natAbs * tenTo places) x.den_pos
  have hlow' : 2 * (x * 10 ^ places * x.den) ≤ 2 * ((units places x : Rat) * x.den) + x.den := by
    rw [← hnum]
    exact_mod_cast hlow
  have hhigh' : 2 * ((units places x : Rat) * x.den) ≤ 2 * (x * 10 ^ places * x.den) + x.den := by
    rw [← hnum]
    exact_mod_cast hhigh
  have hoff : |(units places x : Rat) - x * 10 ^ places| ≤ 1 / 2 := by
    rw [abs_sub_le_iff]
    constructor
    · refine le_of_mul_le_mul_right ?_ hden
      linarith
    · refine le_of_mul_le_mul_right ?_ hden
      linarith
  have hscale : (units places x : Rat) / 10 ^ places - x
      = ((units places x : Rat) - x * 10 ^ places) / 10 ^ places := by
    field_simp
  calc |(units places x : Rat) / 10 ^ places - x|
      = |(units places x : Rat) - x * 10 ^ places| / 10 ^ places := by
        rw [hscale, abs_div, abs_of_pos hunit]
    _ ≤ 1 / 2 / 10 ^ places := div_le_div_of_nonneg_right hoff hunit.le
    _ = 1 / 10 ^ places / 2 := by ring

/-- An even number of units is come up to from half a unit below. -/
theorem even_le_units_iff {m : Nat} (hm : m % 2 = 0) :
    m ≤ units places x ↔ (m : Rat) / 10 ^ places - 1 / 10 ^ places / 2 ≤ x := by
  have hden : (0 : Rat) < x.den := by exact_mod_cast x.den_pos
  have hunit : (0 : Rat) < 10 ^ places := by positivity
  have hnum := num_mul_tenTo places hx
  have hcast : 2 * (m * x.den) ≤ 2 * (x.num.natAbs * tenTo places) + x.den
      ↔ 2 * ((m : Rat) * x.den) ≤ 2 * (x * 10 ^ places * x.den) + x.den := by
    rw [← hnum]
    exact_mod_cast Iff.rfl
  have hscale : (m : Rat) / 10 ^ places - 1 / 10 ^ places / 2
      = ((m : Rat) - 1 / 2) / 10 ^ places := by
    ring
  unfold units
  rw [even_le_roundQuotient_iff x.den_pos hm, hcast, hscale, div_le_iff₀ hunit]
  constructor
  · intro h
    refine le_of_mul_le_mul_right ?_ hden
    linarith
  · intro h
    have := mul_le_mul_of_nonneg_right h hden.le
    linarith

/-- A quantity below a whole number is not rounded beyond it. -/
theorem units_div_le {k : Nat} (h : x < k) : (units places x : Rat) / 10 ^ places ≤ k := by
  have hunit : (0 : Rat) < 10 ^ places := by positivity
  have hnear := (abs_sub_le_iff.mp (abs_units_sub_le places hx)).1
  have hlt : (units places x : Rat) / 10 ^ places < (k * 10 ^ places + 1 : Nat) / 10 ^ places := by
    have hnext : ((k * 10 ^ places + 1 : Nat) : Rat) / 10 ^ places = k + 1 / 10 ^ places := by
      push_cast
      field_simp
    have hhalf : (0 : Rat) < 1 / 10 ^ places := by positivity
    rw [hnext]
    linarith
  have hcount : units places x ≤ k * 10 ^ places := by
    have := (div_lt_div_iff_of_pos_right hunit).mp hlt
    exact Nat.le_of_lt_add_one (by exact_mod_cast this)
  rw [div_le_iff₀ hunit]
  exact_mod_cast hcount

/-- A quantity is rounded up to an even whole number from half a unit below it on. -/
theorem units_div_lt_iff {k : Nat} (hk : k % 2 = 0) :
    (units places x : Rat) / 10 ^ places < k ↔ x < k - 1 / 10 ^ places / 2 := by
  have hunit : (0 : Rat) < 10 ^ places := by positivity
  have heven : k * 10 ^ places % 2 = 0 := by
    rw [Nat.mul_mod, hk, zero_mul, Nat.zero_mod]
  have hcancel : ((k * 10 ^ places : Nat) : Rat) / 10 ^ places = k := by
    push_cast
    field_simp
  have hiff := even_le_units_iff places hx heven
  rw [hcancel] at hiff
  rw [← not_le, ← not_le, not_iff_not, ← hiff, le_div_iff₀ hunit]
  exact_mod_cast Iff.rfl

end

-- ============================================================ read back

/-- Cuts a list of characters at the first mark: what stands before it and what
stands after it. -/
def cut? (mark : Char) : List Char → Option (List Char × List Char)
  | [] => none
  | c :: rest =>
    if c = mark then some ([], rest)
    else (cut? mark rest).map fun (before, after) => (c :: before, after)

theorem cut?_append {mark : Char} {before : List Char} (h : mark ∉ before) (after : List Char) :
    cut? mark (before ++ mark :: after) = some (before, after) := by
  induction before with
  | nil =>
      rw [List.nil_append, cut?, if_pos rfl]
  | cons c rest ih =>
      obtain ⟨hc, hrest⟩ := List.ne_and_not_mem_of_not_mem_cons h
      rw [List.cons_append, cut?, if_neg (Ne.symm hc), ih hrest]
      rfl

/-- A text of digits is cut behind its last digit, where a mark stands that is none. -/
theorem Writes.cut?_append {text : String} {n : Nat} (h : Writes text n) {mark : Char}
    (hmark : mark.isDigit = false) (after : List Char) :
    cut? mark (text.toList ++ mark :: after) = some (text.toList, after) := by
  refine Decimal.cut?_append (fun hmem => ?_) after
  rw [h.digits mark hmem] at hmark
  cases hmark

/-- Two numbers with the same mark behind them are cut alike. -/
theorem Writes.append_mark_inj {s t : String} {m n : Nat} (hs : Writes s m) (ht : Writes t n)
    {mark : Char} (hmark : mark.isDigit = false) {a b : List Char} :
    s.toList ++ mark :: a = t.toList ++ mark :: b ↔ s = t ∧ a = b := by
  constructor
  · intro h
    have hcut := congrArg (cut? mark) h
    rw [hs.cut?_append hmark, ht.cut?_append hmark, Option.some.injEq, Prod.mk.injEq] at hcut
    exact ⟨String.toList_inj.mp hcut.1, hcut.2⟩
  · rintro ⟨rfl, rfl⟩
    rfl

/-- A number does not begin with a mark. -/
theorem Writes.append_ne_cons {s : String} {n : Nat} (hs : Writes s n) {mark : Char}
    (hmark : mark.isDigit = false) (a b : List Char) : s.toList ++ a ≠ mark :: b := by
  intro h
  cases hdigits : s.toList with
  | nil => exact hs.nonempty hdigits
  | cons c rest =>
      rw [hdigits] at h
      have hc := hs.digits c (hdigits ▸ List.mem_cons_self)
      rw [(List.cons.inj h).1, hmark] at hc
      cases hc

/-- The quantity that digits with a point among them write. -/
def decimal? (cs : List Char) : Option Rat := do
  let (whole, places) ← cut? '.' cs
  return (← natural? whole) + (← natural? places) / 10 ^ places.length

theorem decimal?_of_cut {cs whole places : List Char} {m n : Nat}
    (hcut : cut? '.' cs = some (whole, places)) (hwhole : natural? whole = some m)
    (hplaces : natural? places = some n) :
    decimal? cs = some ((m : Rat) + n / 10 ^ places.length) := by
  unfold decimal?
  simp only [hcut, hwhole, hplaces, Option.bind_eq_bind, Option.bind_some]
  rfl

theorem placePoint_toList (hplaces : 0 < places) (n : Nat) :
    (placePoint places n).toList = (toString (n / tenTo places)).toList
      ++ '.' :: (padded places (n % tenTo places)).toList := by
  unfold placePoint
  rw [if_neg hplaces.ne', String.toList_append, String.toList_append, List.append_assoc]
  rfl

/-- Units with the point put in are digits and a point. -/
theorem isDigit_or_of_mem_placePoint (hplaces : 0 < places) {n : Nat} {c : Char}
    (hc : c ∈ (placePoint places n).toList) : c.isDigit = true ∨ c = '.' := by
  rw [placePoint_toList hplaces] at hc
  rcases List.mem_append.mp hc with hwhole | hrest
  · exact Or.inl ((writes_toString _).digits c hwhole)
  · rcases List.mem_cons.mp hrest with hpoint | hrest
    · exact Or.inr hpoint
    · exact Or.inl ((writes_padded _ _).digits c hrest)

/-- Units with the point put in are read back as they were. -/
theorem decimal?_placePoint (hplaces : 0 < places) (n : Nat) :
    decimal? (placePoint places n).toList = some ((n : Rat) / 10 ^ places) := by
  have hunit : (10 : Rat) ^ places ≠ 0 := by positivity
  have hwhole := writes_toString (n / tenTo places)
  have hrest := writes_padded places (n % tenTo places)
  have hlength : (padded places (n % tenTo places)).toList.length = places := by
    rw [String.length_toList]
    exact length_padded hplaces (Nat.mod_lt n (tenTo_pos places))
  have hsum : ((n / tenTo places : Nat) : Rat) * 10 ^ places + (n % tenTo places : Nat) = n := by
    rw [tenTo_eq_pow]
    exact_mod_cast Nat.div_add_mod' n (10 ^ places)
  have hcut := hwhole.cut?_append (by decide : '.'.isDigit = false)
    (padded places (n % tenTo places)).toList
  rw [placePoint_toList hplaces, decimal?_of_cut hcut hwhole.natural?_eq hrest.natural?_eq,
    hlength, ← hsum, add_div, mul_div_cancel_right₀ _ hunit]

end Decimal

end MapSheets
