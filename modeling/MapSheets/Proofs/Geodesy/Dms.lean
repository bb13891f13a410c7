import MapSheets.Geodesy.Dms
import MapSheets.Proofs.Number.Rational
import MapSheets.Proofs.Outcome
import Mathlib.Tactic.Linarith
import Mathlib.Tactic.Ring

/-
Exact degrees, minutes and seconds. A distance has one form in degrees, minutes
and seconds of which the last two stay below sixty (`Sexagesimal.eq`), and that
is the form that a coordinate is split into (`split_rat`), on either side of
zero: the whole parts are taken toward zero, so all three parts come out with
the sign of the coordinate and lose it together.

With the letter of its side a form stands for one coordinate on its axis, and
every coordinate has one such form (`dms_canonical`).
-/

namespace MapSheets

-- ============================================================= distances

/-- A distance in degrees, minutes and seconds. -/
structure Sexagesimal (distance : Rat) (degree minute : Int) (second : Rat) : Prop where
  degree_nonneg : 0 ≤ degree
  minute_range : 0 ≤ minute ∧ minute < 60
  second_range : 0 ≤ second ∧ second < 60
  sum_eq : (degree : Rat) + minute / 60 + second / 3600 = distance

namespace Sexagesimal

variable {distance : Rat} {degree minute degree' minute' : Int} {second second' : Rat}

/-- The whole parts, one after the other, and what they leave. -/
theorem of_nonneg (h : 0 ≤ distance) :
    Sexagesimal distance ⌊distance⌋ ⌊60 * Int.fract distance⌋
      (60 * Int.fract (60 * Int.fract distance)) := by
  have hlow := Int.fract_nonneg distance
  have hhigh := Int.fract_lt_one distance
  have hrest := Int.fract_nonneg (60 * Int.fract distance)
  have hrest' := Int.fract_lt_one (60 * Int.fract distance)
  constructor
  case degree_nonneg => exact Int.floor_nonneg.mpr h
  case minute_range =>
    refine ⟨Int.floor_nonneg.mpr (by linarith), Int.floor_lt.mpr ?_⟩
    push_cast
    linarith
  case second_range => constructor <;> linarith
  case sum_eq =>
    have hdegree := Int.floor_add_fract distance
    have hminute := Int.floor_add_fract (60 * Int.fract distance)
    linarith

theorem degree_eq (h : Sexagesimal distance degree minute second) : degree = ⌊distance⌋ := by
  have hminute : (0 : Rat) ≤ minute ∧ (minute : Rat) ≤ 59 := by
    obtain ⟨hlow, hhigh⟩ := h.minute_range
    exact ⟨by exact_mod_cast hlow, by exact_mod_cast Int.le_of_lt_add_one hhigh⟩
  rw [eq_comm, Int.floor_eq_iff, ← h.sum_eq]
  constructor
  · linarith [h.second_range.1, hminute.1]
  · linarith [h.second_range.2, hminute.2]

/-- A distance has one form only. -/
theorem eq (h : Sexagesimal distance degree minute second)
    (h' : Sexagesimal distance degree' minute' second') :
    degree = degree' ∧ minute = minute' ∧ second = second' := by
  obtain rfl : degree = degree' := h.degree_eq.trans h'.degree_eq.symm
  -- without the degrees the minutes are the whole part of what is left
  have hminute : ∀ {m : Int} {s : Rat}, Sexagesimal distance degree m s →
      m = ⌊60 * (distance - degree)⌋ := by
    intro m s hs
    rw [eq_comm, Int.floor_eq_iff, ← hs.sum_eq]
    constructor
    · linarith [hs.second_range.1]
    · linarith [hs.second_range.2]
  obtain rfl : minute = minute' := (hminute h).trans (hminute h').symm
  have hsum := h.sum_eq.trans h'.sum_eq.symm
  exact ⟨rfl, rfl, by linarith⟩

end Sexagesimal

-- ============================================================ coordinates

/-- The two axes of coordinates. -/
inductive Axis where
  | latitude
  | longitude

namespace Axis

/-- The letter for coordinates that are not negative. -/
def positive : Axis → String
  | latitude => "N"
  | longitude => "E"

/-- The letter for negative coordinates. -/
def negative : Axis → String
  | latitude => "S"
  | longitude => "W"

theorem negative_ne_positive (a : Axis) : a.negative ≠ a.positive := by
  cases a <;> decide

theorem negative_eq (a : Axis) : a.negative = "S" ∨ a.negative = "W" := by
  cases a <;> decide

theorem positive_ne (a : Axis) : ¬(a.positive = "S" ∨ a.positive = "W") := by
  cases a <;> decide

/-- A coordinate on an axis, in degrees, minutes and seconds. -/
def dms {α : Type} [Scalar α] (a : Axis) : α → Except Fault (Dms α) :=
  Dms.ofDecimal a.positive a.negative

end Axis

namespace Dms

theorem split_of_truncate {value : Rat} {whole minute : Int}
    (hwhole : Scalar.truncate? value = .ok whole)
    (hminute : Scalar.truncate? (60 * (value - whole)) = .ok minute) :
    split value
      = .ok (whole.natAbs, minute.natAbs, |60 * (60 * (value - whole) - minute)|) := by
  unfold split
  rw [hwhole, Outcome.ok_bind]
  show (Scalar.truncate? (60 * (value - whole)) >>= _) = _
  rw [hminute, Outcome.ok_bind]
  show Except.ok (_, _, Scalar.magnitude (60 * (60 * (value - whole) - minute))) = _
  rw [Scalar.magnitude_rat]

/-- A coordinate is split as its distance from zero is. -/
theorem split_rat (value : Rat) :
    split value = .ok (⌊|value|⌋.natAbs, ⌊60 * Int.fract |value|⌋.natAbs,
      60 * Int.fract (60 * Int.fract |value|)) := by
  have hminutes : 0 ≤ 60 * Int.fract |value| := by linarith [Int.fract_nonneg |value|]
  have hseconds : 0 ≤ 60 * Int.fract (60 * Int.fract |value|) := by
    linarith [Int.fract_nonneg (60 * Int.fract |value|)]
  rcases le_total 0 value with hsign | hsign
  · rw [abs_of_nonneg hsign] at hminutes hseconds ⊢
    have hrest : 60 * (value - ⌊value⌋) = 60 * Int.fract value := rfl
    rw [split_of_truncate (Scalar.truncate?_rat_of_nonneg hsign)
      (Scalar.truncate?_rat_of_nonneg (hrest ▸ hminutes)), hrest, Int.self_sub_floor,
      abs_of_nonneg hseconds]
  · -- both whole parts are opposite to those of the distance
    rw [abs_of_nonpos hsign] at hminutes hseconds ⊢
    have hrest : 60 * (value - (-⌊-value⌋ : Int)) = -(60 * Int.fract (-value)) := by
      unfold Int.fract
      push_cast
      ring
    have hleft : -(60 * Int.fract (-value)) - (-⌊60 * Int.fract (-value)⌋ : Int)
        = -Int.fract (60 * Int.fract (-value)) := by
      rw [← Int.self_sub_floor (60 * Int.fract (-value))]
      push_cast
      ring
    have hminute : Scalar.truncate? (60 * (value - (-⌊-value⌋ : Int)))
        = .ok (-⌊60 * Int.fract (-value)⌋) := by
      rw [hrest, Scalar.truncate?_rat_of_nonpos (by linarith), neg_neg]
    rw [split_of_truncate (Scalar.truncate?_rat_of_nonpos hsign) hminute, hrest, hleft,
      Int.natAbs_neg, Int.natAbs_neg, mul_neg, abs_neg, abs_of_nonneg hseconds]

/-- The coordinate that a form stands for. -/
theorem toDecimal_rat (d : Dms Rat) :
    d.toDecimal = .ok (if d.hemisphere = "S" ∨ d.hemisphere = "W" then
      -((d.degree : Rat) + d.minute / 60 + d.second / 3600)
      else (d.degree : Rat) + d.minute / 60 + d.second / 3600) := rfl

/-- A form of a coordinate on an axis: no part is negative, minutes and seconds
stay below sixty, one of the two letters of the axis carries the sign, and the
coordinate can be had back. -/
structure Canonical (a : Axis) (value : Rat) (d : Dms Rat) : Prop where
  degree_nonneg : 0 ≤ d.degree
  minute_range : 0 ≤ d.minute ∧ d.minute < 60
  second_range : 0 ≤ d.second ∧ d.second < 60
  letter : d.hemisphere = a.positive ∨ d.hemisphere = a.negative
  negative_iff : d.hemisphere = a.negative ↔ value < 0
  toDecimal_eq : d.toDecimal = .ok value

variable {a : Axis} {value : Rat} {d : Dms Rat}

/-- The letter and the distance from zero make the coordinate. -/
theorem toDecimal_eq_iff (hletter : d.hemisphere = if value < 0 then a.negative else a.positive) :
    d.toDecimal = .ok value
      ↔ (d.degree : Rat) + d.minute / 60 + d.second / 3600 = |value| := by
  rw [toDecimal_rat, hletter, Except.ok.injEq]
  by_cases hsign : value < 0
  · rw [if_pos hsign, if_pos a.negative_eq, abs_of_neg hsign]
    constructor <;> intro h <;> linarith
  · rw [if_neg hsign, if_neg a.positive_ne, abs_of_nonneg (not_lt.mp hsign)]

namespace Canonical

theorem hemisphere_eq (h : d.Canonical a value) :
    d.hemisphere = if value < 0 then a.negative else a.positive := by
  by_cases hsign : value < 0
  · rw [if_pos hsign]
    exact h.negative_iff.mpr hsign
  · rw [if_neg hsign]
    exact h.letter.resolve_right (mt h.negative_iff.mp hsign)

theorem sexagesimal (h : d.Canonical a value) :
    Sexagesimal |value| d.degree d.minute d.second :=
  ⟨h.degree_nonneg, h.minute_range, h.second_range,
    (toDecimal_eq_iff h.hemisphere_eq).mp h.toDecimal_eq⟩

theorem of_sexagesimal (h : Sexagesimal |value| d.degree d.minute d.second)
    (hletter : d.hemisphere = if value < 0 then a.negative else a.positive) :
    d.Canonical a value := by
  constructor
  case degree_nonneg => exact h.degree_nonneg
  case minute_range => exact h.minute_range
  case second_range => exact h.second_range
  case letter =>
    rw [hletter]
    split
    · exact Or.inr rfl
    · exact Or.inl rfl
  case negative_iff =>
    rw [hletter]
    split
    case isTrue hsign => exact iff_of_true rfl hsign
    case isFalse hsign => exact iff_of_false a.negative_ne_positive.symm hsign
  case toDecimal_eq => exact (toDecimal_eq_iff hletter).mpr h.sum_eq

/-- A coordinate has one form only. -/
theorem eq {d' : Dms Rat} (h : d.Canonical a value) (h' : d'.Canonical a value) : d = d' := by
  obtain ⟨hdegree, hminute, hsecond⟩ := h.sexagesimal.eq h'.sexagesimal
  have hletter := h.hemisphere_eq.trans h'.hemisphere_eq.symm
  obtain ⟨degree, minute, second, hemisphere⟩ := d
  obtain ⟨degree', minute', second', hemisphere'⟩ := d'
  cases hdegree; cases hminute; cases hsecond; cases hletter
  rfl

end Canonical

/-- Every coordinate is brought to its form. -/
theorem exists_canonical (a : Axis) (value : Rat) :
    ∃ d, a.dms value = .ok d ∧ d.Canonical a value := by
  have hparts := Sexagesimal.of_nonneg (abs_nonneg value)
  refine ⟨⟨⌊|value|⌋, ⌊60 * Int.fract |value|⌋, 60 * Int.fract (60 * Int.fract |value|),
    if value < 0 then a.negative else a.positive⟩, ?_, .of_sexagesimal hparts rfl⟩
  unfold Axis.dms ofDecimal
  rw [split_rat, Outcome.ok_bind]
  show Except.ok (Dms.mk _ _ _ _) = _
  rw [Int.natAbs_of_nonneg hparts.degree_nonneg, Int.natAbs_of_nonneg hparts.minute_range.1]

end Dms

/-- The latitude and the longitude of a point are brought to degrees, minutes and
seconds, and what they come to is the one form of the one and of the other. -/
theorem dms_canonical (lat lng : Rat) :
    ∃ p q, Dms.ofLat lat = .ok p ∧ Dms.ofLng lng = .ok q
      ∧ (∀ d : Dms Rat, d.Canonical .latitude lat ↔ d = p)
      ∧ ∀ d : Dms Rat, d.Canonical .longitude lng ↔ d = q := by
  obtain ⟨p, hp, hlat⟩ := Dms.exists_canonical .latitude lat
  obtain ⟨q, hq, hlng⟩ := Dms.exists_canonical .longitude lng
  refine ⟨p, q, hp, hq, fun d => ?_, fun d => ?_⟩
  · constructor
    · intro h
      exact h.eq hlat
    · rintro rfl
      exact hlat
  · constructor
    · intro h
      exact h.eq hlng
    · rintro rfl
      exact hlng

/-- Half a degree south of the equator no part but the minutes is there to carry a sign. -/
example : Dms.ofLat (-1 / 2 : Rat) = .ok ⟨0, 30, 0, "S"⟩ := by cbv

end MapSheets
