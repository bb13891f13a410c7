import MapSheets.Proofs.Sheet.Accepted
import MapSheets.Proofs.Trellis.Label

/-
What is read of the full label of a bar, for every spacing that a sheet may have.
A bar stands at a multiple of the spacing, so nothing but zeros is behind its
label, and in front of them are the steps from zero to the bar, undivided: the
leading digits count hundreds of steps, not hundreds of a power of ten. So the
label is read as the steps times the power of ten of those zeros
(`CoordLabel.exists_reading_of_dvd`), and that is the coordinate only if the
spacing is that power (`Sheet.bar_reading_iff`).
-/

namespace MapSheets

-- ============================================================= powers of ten

namespace DecimalLogarithm

theorem byDigits_pow (k : Nat) : byDigits (10 ^ k) = k := by
  have hle : (Nat.toDigits 10 (10 ^ k)).length ≤ k + 1 :=
    (Nat.length_toDigits_le_iff (by decide) k.succ_pos).mpr
      (Nat.pow_lt_pow_right (by decide) k.lt_succ_self)
  have hlt : k < (Nat.toDigits 10 (10 ^ k)).length := by
    rcases Nat.eq_zero_or_pos k with rfl | hk
    · decide
    · by_contra hless
      have := (Nat.length_toDigits_le_iff (by decide) hk).mp (not_lt.mp hless)
      omega
  show (Nat.toDigits 10 (10 ^ k)).length - 1 = k
  omega

/-- Below where doubles are too rough the whole part of the logarithm tells the
powers of ten from all other numbers. -/
theorem eq_pow_whole_iff {n : Nat} (hn : n < firstRough) :
    n = 10 ^ whole n ↔ ∃ k, n = 10 ^ k := by
  have hwhole : whole n = byDigits n := if_pos hn
  rw [hwhole]
  constructor
  · intro h
    exact ⟨_, h⟩
  · rintro ⟨k, rfl⟩
    rw [byDigits_pow]

end DecimalLogarithm

-- ================================================================== reading

namespace CoordLabel

open Decimal

/-- As many zeros behind a number, none of them for a width of nothing. -/
theorem writes_zeros {text : String} {n : Nat} (h : Writes text n) (width : Nat) :
    Writes (text ++ if width = 0 then "" else paddedInt width 0) (10 ^ width * n) := by
  have hall := h.append_fitted (Nat.pow_pos (show 0 < 10 by decide) : 0 < 10 ^ width)
  rw [Nat.add_zero] at hall
  exact hall

/-- The full label of a coordinate at a multiple of the spacing is read as the
steps up to it, with zeros behind. -/
theorem exists_reading_of_dvd [DecimalLogarithm] {l : CoordLabel}
    (hsize : 0 < l.spacing.size) (hcoord : 0 ≤ l.coord) (hdvd : l.spacing.size ∣ l.coord) :
    ∃ leading label trailing,
      l.texts LabelPiece.all = .ok [(.leading, leading), (.label, label), (.trailing, trailing),
          (.unit, l.unit), (.side, l.side)]
        ∧ written? (leading ++ label ++ trailing)
          = some (l.coord / l.spacing.size * 10 ^ DecimalLogarithm.whole l.spacing.size.toNat) := by
  obtain ⟨p, hp, -⟩ := exists_shownAt hsize.ne'
  have hsplit := Spacing.splits_of_split hsize hp
  have htrailing : p.trailing = 0 := by
    rw [Spacing.trailing_of_split hp]
    exact Int.fmod_eq_zero_of_dvd hdvd
  have hsteps : l.coord / l.spacing.size = 100 * p.leading + p.label := by
    apply Int.ediv_eq_of_eq_mul_right hsize.ne'
    have hsum := hsplit.sum_eq
    rwa [htrailing, add_zero] at hsum
  have hzeros : l.trailingText p.trailing
      = .ok (if DecimalLogarithm.whole l.spacing.size.toNat = 0 then ""
          else paddedInt (DecimalLogarithm.whole l.spacing.size.toNat) 0) := by
    rw [htrailing]
    unfold trailingText Spacing.width
    rw [if_neg (not_le.mpr hsize)]
    rfl
  refine ⟨_, _, _, texts_of_trailing hp hzeros, ?_⟩
  obtain ⟨a, ha⟩ := Int.eq_ofNat_of_zero_le (hsplit.leading_nonneg_iff.mpr hcoord)
  obtain ⟨b, hb⟩ := Int.eq_ofNat_of_zero_le hsplit.label_nonneg
  have hlabel : b < 100 := by
    have := hsplit.label_lt
    omega
  have hfront := (writes_toString a).append (writes_padded 2 b)
  rw [length_padded (by decide) hlabel] at hfront
  rw [hsteps, ha, hb]
  refine (writes_zeros hfront _).written?_eq.trans (congrArg some ?_)
  push_cast
  ring

end CoordLabel

namespace Sheet

variable {α : Type} [Scalar α] [OfDouble α]

/-- A spacing in whole meters that was accepted is that of the grid, and at least
one meter. -/
theorem Accepted.gridSpacing_of_whole {s : Sheet α} (h : s.Accepted) {n : Int}
    (hn : s.spacing = .whole n) : 1 ≤ n ∧ s.gridSpacing = .ok ⟨n⟩ := by
  have hpositive := h.spacing
  unfold gridSpacing
  rw [hn] at hpositive ⊢
  refine ⟨?_, rfl⟩
  simp only [Amount.isAtMostZero, decide_eq_true_eq] at hpositive
  omega

/-- Zeros behind the steps make the value of the steps if and only if there are no
steps, or a step is what the zeros count. -/
theorem steps_mul_eq_iff {n value : Int} (hn : 1 ≤ n) (hdvd : n ∣ value) (zeros : Int) :
    value / n * zeros = value ↔ value = 0 ∨ n = zeros := by
  obtain ⟨steps, rfl⟩ := hdvd
  rw [Int.mul_ediv_cancel_left _ (by omega), mul_comm n steps, mul_eq_zero]
  constructor
  · intro h
    rcases mul_eq_mul_left_iff.mp h with hzeros | hsteps
    · exact Or.inr hzeros.symm
    · exact Or.inl (Or.inl hsteps)
  · rintro ((hsteps | hzero) | rfl)
    · rw [hsteps, zero_mul, zero_mul]
    · omega
    · rfl

/-- What is read of the full label of a bar at a multiple of an accepted spacing:
the steps up to the bar with zeros behind. That is the value of the bar if and
only if the bar stands at zero or the spacing is the power of ten of the zeros,
which for spacings below ten to the fourteenth means that it is any. -/
theorem bar_reading_iff {fields : List (String × Json)} {s : Sheet α}
    (h : ofFields fields = .ok s) {n : Int} (hn : s.spacing = .whole n) :
    1 ≤ n ∧ s.gridSpacing = .ok ⟨n⟩ ∧ ∀ (bar : Bar α) (l : CoordLabel),
      l = .ofEasting bar ⟨n⟩ ∨ l = .ofNorthing bar ⟨n⟩ → 0 ≤ bar.value → n ∣ bar.value →
      ∃ leading label trailing read,
        l.texts LabelPiece.all = .ok [(.leading, leading), (.label, label), (.trailing, trailing),
            (.unit, l.unit), (.side, l.side)]
          ∧ Decimal.written? (leading ++ label ++ trailing) = some read
          ∧ read = bar.value / n * 10 ^ DecimalLogarithm.whole n.toNat
          ∧ (read = bar.value ↔ bar.value = 0 ∨ n = 10 ^ DecimalLogarithm.whole n.toNat)
          ∧ (n < 10 ^ 14 → (read = bar.value ↔ bar.value = 0 ∨ ∃ k : Nat, n = 10 ^ k)) := by
  obtain ⟨hpositive, hgrid⟩ := (accepted_of_ofFields h).gridSpacing_of_whole hn
  refine ⟨hpositive, hgrid, fun bar l hl hvalue hdvd => ?_⟩
  have hcoord : l.coord = bar.value ∧ l.spacing = ⟨n⟩ := by
    rcases hl with rfl | rfl
    · exact ⟨rfl, rfl⟩
    · exact ⟨rfl, rfl⟩
  obtain ⟨hcoord, hspacing⟩ := hcoord
  obtain ⟨leading, label, trailing, htexts, hread⟩ :=
    CoordLabel.exists_reading_of_dvd (l := l) (by rw [hspacing]; exact hpositive)
      (by rwa [hcoord]) (by rwa [hcoord, hspacing])
  rw [hcoord, hspacing] at hread
  have hsame := steps_mul_eq_iff hpositive hdvd (10 ^ DecimalLogarithm.whole n.toNat)
  refine ⟨leading, label, trailing, _, htexts, hread, rfl, hsame, fun hsmall => ?_⟩
  refine hsame.trans (or_congr_right ?_)
  obtain ⟨m, rfl⟩ := Int.eq_ofNat_of_zero_le (show 0 ≤ n by omega)
  have hpower := DecimalLogarithm.eq_pow_whole_iff (n := m) (by
    show m < 10 ^ 14
    exact_mod_cast hsmall)
  rw [Int.toNat_natCast]
  exact_mod_cast hpower

/-- A northing bar 4515 kilometers north of the equator. -/
def farBar : Bar Float where
  index := 0
  value := 4515000
  start := ⟨500000, 4515000, 32, .north⟩
  finish := ⟨501000, 4515000, 32, .north⟩
  line := ⟨⟨0, 0⟩, ⟨1000, 0⟩⟩

/-- A spacing of 5000 meters is accepted, and the bar is then read as one at 903
kilometers. -/
theorem bar_reading_five_thousand :
    ∃ s : Sheet Float, ofFields [("name", .str "a"), ("grid_spacing", .int 5000)] = .ok s
      ∧ s.gridSpacing = .ok ⟨5000⟩
      ∧ ∃ leading label trailing, (CoordLabel.ofNorthing farBar ⟨5000⟩).texts LabelPiece.all
          = .ok [(.leading, leading), (.label, label), (.trailing, trailing), (.unit, "m"),
            (.side, "N.")]
        ∧ Decimal.written? (leading ++ label ++ trailing) = some 903000 := by
  have hspacing : (ofFields [("name", .str "a"), ("grid_spacing", .int 5000)]).toOption.map
      (fun s : Sheet Float => s.spacing) = some (.whole 5000) := by
    with_unfolding_all rfl
  obtain ⟨s, hs, hspacing⟩ := Outcome.ok_of_toOption hspacing
  obtain ⟨-, hgrid, hbars⟩ := bar_reading_iff hs hspacing
  obtain ⟨leading, label, trailing, read, htexts, hread, hsteps, -⟩ :=
    hbars farBar _ (Or.inr rfl) (by decide) (by decide)
  obtain rfl : read = 903000 := hsteps
  exact ⟨s, hs, hgrid, leading, label, trailing, htexts, hread⟩

end Sheet

end MapSheets
