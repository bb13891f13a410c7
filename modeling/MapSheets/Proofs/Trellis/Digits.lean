import MapSheets.Proofs.Sheet.BarReading

/-
The digits of a coordinate at a spacing that is a power of ten. The label has two
digits for any spacing. What is below the spacing has as many digits as the power has
zeros, which for single meters is none, provided that the logarithm of the spacing is
found exactly. So no two coordinates that are not negative share their digits: what is
written is the coordinate in decimal (`CoordLabel.digits_reading`).

`CoordLabel.exists_reading` says the same of spacings with one zero at least, below the
equator as well; here the spacing of a single meter is in, and every power beyond those
that a sheet is printed with.
-/

namespace MapSheets

/-- The pieces of a label that are digits. -/
def LabelPiece.digits : Shown := [.leading, .label, .trailing]

namespace CoordLabel

open Decimal

section
variable [DecimalLogarithm] {l : CoordLabel} {k : Nat}

/-- The texts of the shown pieces, one after the other. -/
def written (l : CoordLabel) (shown : Shown) : Except Fault String := do
  return String.join ((← l.texts shown).map (·.2))

-- ==================================================== the pieces of a label

/-- Below a power of ten as many digits are written as it has zeros. -/
theorem trailingText_power (hexact : DecimalLogarithm.whole (10 ^ k) = k)
    (hspacing : l.spacing.size = 10 ^ k) (n : Nat) : l.trailingText n = .ok (fitted k n) := by
  have hnat : l.spacing.size.toNat = 10 ^ k := by
    rw [hspacing]
    exact_mod_cast Int.toNat_natCast (10 ^ k)
  have hpos : ¬l.spacing.size ≤ 0 := by
    rw [hspacing]
    exact not_le.mpr (pow_pos (by decide) k)
  unfold trailingText Spacing.width
  rw [if_neg hpos, hnat, hexact]
  rfl

/-- The digits of a coordinate, and its whole label, once it is split and the digits
below the spacing are known. -/
theorem written_of_trailing {p : SplitCoord} (hp : l.parts = .ok p) {trailing : String}
    (htrailing : l.trailingText p.trailing = .ok trailing) :
    l.texts LabelPiece.digits = .ok [(.leading, toString p.leading),
        (.label, paddedInt 2 p.label), (.trailing, trailing)]
      ∧ l.written LabelPiece.digits
        = .ok (toString p.leading ++ paddedInt 2 p.label ++ trailing)
      ∧ l.written LabelPiece.all
        = .ok (toString p.leading ++ paddedInt 2 p.label ++ trailing ++ (l.unit ++ l.side)) := by
  have hdigits : l.texts LabelPiece.digits = .ok [(.leading, toString p.leading),
      (.label, paddedInt 2 p.label), (.trailing, trailing)] := by
    unfold texts
    rw [hp]
    show (LabelPiece.all.filter LabelPiece.digits.contains).mapM (fun piece => do
      return (piece, ← l.pieceText p piece)) = _
    have hshown : LabelPiece.all.filter LabelPiece.digits.contains
        = [.leading, .label, .trailing] := by decide
    rw [hshown]
    simp only [List.mapM_cons, List.mapM_nil, pieceText, htrailing]
    rfl
  refine ⟨hdigits, ?_, ?_⟩
  · unfold written
    rw [hdigits]
    show Except.ok (String.join _) = _
    simp [String.join]
  · unfold written
    rw [texts_of_trailing hp htrailing]
    show Except.ok (String.join _) = _
    simp [String.join, String.append_assoc]

/-- The digits of a coordinate that is not negative: two for the label, as many below
the spacing as it has zeros, and all of them in a row the coordinate in decimal. -/
theorem exists_digits (hexact : DecimalLogarithm.whole (10 ^ k) = k)
    (hspacing : l.spacing.size = 10 ^ k) (hcoord : 0 ≤ l.coord) :
    ∃ leading label trailing,
      l.texts LabelPiece.digits
          = .ok [(.leading, leading), (.label, label), (.trailing, trailing)]
        ∧ l.written LabelPiece.digits = .ok (leading ++ label ++ trailing)
        ∧ l.written LabelPiece.all = .ok (leading ++ label ++ trailing ++ (l.unit ++ l.side))
        ∧ written? (leading ++ label ++ trailing) = some l.coord
        ∧ (label.length = 2 ∧ ∀ c ∈ label.toList, c.isDigit = true)
        ∧ trailing.length = k ∧ ∀ c ∈ trailing.toList, c.isDigit = true := by
  have hsize : 0 < l.spacing.size := by
    rw [hspacing]
    exact pow_pos (by decide) k
  obtain ⟨p, hp, -⟩ := exists_shownAt hsize.ne'
  have hsplit := Spacing.splits_of_split hsize hp
  obtain ⟨a, ha⟩ := Int.eq_ofNat_of_zero_le (hsplit.leading_nonneg_iff.mpr hcoord)
  obtain ⟨b, hb⟩ := Int.eq_ofNat_of_zero_le hsplit.label_nonneg
  obtain ⟨c, hc⟩ := Int.eq_ofNat_of_zero_le hsplit.trailing_nonneg
  have hlabel : b < 10 ^ 2 := by
    have := hsplit.label_lt
    omega
  have hbelow : c < 10 ^ k := by
    have := hsplit.trailing_lt
    rw [hc, hspacing] at this
    exact_mod_cast this
  have htrailing : l.trailingText p.trailing = .ok (fitted k c) := by
    rw [hc]
    exact trailingText_power hexact hspacing c
  obtain ⟨hdigits, hwritten, hall⟩ := written_of_trailing hp htrailing
  rw [ha, hb] at hdigits hwritten hall
  refine ⟨_, _, _, hdigits, hwritten, hall, ?_, ⟨?_, ?_⟩, length_fitted hbelow,
    isDigit_fitted k c⟩
  · have hfront := (writes_toString a).append (writes_padded 2 b)
    rw [length_padded (by decide) hlabel] at hfront
    refine (hfront.append_fitted hbelow).written?_eq.trans (congrArg some ?_)
    rw [hsplit.sum_eq, ha, hb, hc, hspacing]
    push_cast
    ring
  · exact length_padded (by decide) hlabel
  · exact isDigit_padded 2 b

-- =================================================== reading a label back

/-- At a spacing that is a power of ten the digits of a coordinate that is not negative
are read as the coordinate, two of them as its label and as many as the power has zeros
below it. Two such coordinates with the same digits are the same, and so are two with
the same whole label and the same unit and side. -/
theorem digits_reading (hexact : DecimalLogarithm.whole (10 ^ k) = k)
    (hspacing : l.spacing.size = 10 ^ k) (hcoord : 0 ≤ l.coord) :
    (∃ leading label trailing,
      l.texts LabelPiece.digits
          = .ok [(.leading, leading), (.label, label), (.trailing, trailing)]
        ∧ l.written LabelPiece.digits = .ok (leading ++ label ++ trailing)
        ∧ written? (leading ++ label ++ trailing) = some l.coord
        ∧ (label.length = 2 ∧ ∀ c ∈ label.toList, c.isDigit = true)
        ∧ trailing.length = k ∧ ∀ c ∈ trailing.toList, c.isDigit = true)
      ∧ ∀ other : CoordLabel, other.spacing.size = 10 ^ k → 0 ≤ other.coord →
          (other.written LabelPiece.digits = l.written LabelPiece.digits →
            other.coord = l.coord)
          ∧ (other.unit = l.unit → other.side = l.side →
            other.written LabelPiece.all = l.written LabelPiece.all → other.coord = l.coord) := by
  obtain ⟨leading, label, trailing, htexts, hdigits, hall, hread, hlabel, htrailing⟩ :=
    exists_digits hexact hspacing hcoord
  refine ⟨⟨leading, label, trailing, htexts, hdigits, hread, hlabel, htrailing⟩, ?_⟩
  intro other hother hnonneg
  obtain ⟨leading', label', trailing', -, hdigits', hall', hread', -⟩ :=
    exists_digits hexact hother hnonneg
  have hsame : leading' ++ label' ++ trailing' = leading ++ label ++ trailing →
      other.coord = l.coord := by
    intro htext
    rw [htext, hread, Option.some.injEq] at hread'
    exact hread'.symm
  constructor
  · intro hwritten
    rw [hdigits, hdigits', Except.ok.injEq] at hwritten
    exact hsame hwritten
  · intro hunit hside hwritten
    rw [hall, hall', hunit, hside, Except.ok.injEq] at hwritten
    exact hsame ((String.append_left_inj _).mp hwritten)

end

/-- With the exact logarithm every power of ten will do, here the twentieth. -/
theorem digits_reading_twentieth :
    letI : DecimalLogarithm := .exact
    DecimalLogarithm.whole (10 ^ 20) = 20
      ∧ ∃ leading label trailing,
        (⟨45 * 10 ^ 21 + 7, ⟨10 ^ 20⟩, "m", "N."⟩ : CoordLabel).texts LabelPiece.digits
            = .ok [(.leading, leading), (.label, label), (.trailing, trailing)]
          ∧ written? (leading ++ label ++ trailing) = some (45 * 10 ^ 21 + 7)
          ∧ label.length = 2 ∧ trailing.length = 20 := by
  let _ : DecimalLogarithm := .exact
  have hexact : DecimalLogarithm.whole (10 ^ 20) = 20 := DecimalLogarithm.byDigits_pow 20
  obtain ⟨⟨leading, label, trailing, htexts, -, hread, ⟨hlabel, -⟩, htrailing, -⟩, -⟩ :=
    digits_reading (l := ⟨45 * 10 ^ 21 + 7, ⟨10 ^ 20⟩, "m", "N."⟩) hexact rfl (by decide)
  exact ⟨hexact, leading, label, trailing, htexts, hread, hlabel, htrailing⟩

end CoordLabel

end MapSheets
