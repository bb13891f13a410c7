import MapSheets.Proofs.Geodesy.Coarse
import MapSheets.Proofs.Number.Numeral
import MapSheets.Proofs.Trellis.Frame
import MapSheets.Trellis.Label
import Mathlib.Tactic.NormNum

/-
What the pieces of a coordinate label say. From one multiple of the spacing to the
next the label counts up, and the leading digits change only where it is back at
zero (`Spacing.leading_of_steps`).

Read one after the other the leading digits, the label and the trailing digits are a
decimal number: each of the two last pieces is as wide as the power of ten that it
counts (`length_padded`), so the values of the pieces add up (`Writes.append`). The
pieces come from a division to the floor, so a coordinate below zero is written as a
negative leading part followed by digits that count upward from it. What is read is
then further below zero than the coordinate, by twice of what the label and the
trailing digits count (`CoordLabel.exists_reading`).
-/

namespace MapSheets

-- ============================================================== labels

namespace Spacing

/-- A spacing that is a power of ten, with the places that its meters are
printed in. -/
structure Places (s : Spacing) (places : Nat) : Prop where
  pos : 0 < places
  size_eq : s.size = 10 ^ places
  width_eq : s.width = .ok places

theorem hundred_places : hundred.Places 2 := ⟨by decide, rfl, rfl⟩

theorem thousand_places : thousand.Places 3 := ⟨by decide, rfl, rfl⟩

theorem Places.size_pos {s : Spacing} {places : Nat} (h : s.Places places) : 0 < s.size := by
  rw [h.size_eq]
  exact pow_pos (by decide) places

/-- Every coordinate can be split at a spacing that is not zero. -/
theorem split_of_ne_zero {s : Spacing} (hsize : s.size ≠ 0) (meters : Int) :
    s.split meters = .ok { leading := (meters.fdiv s.size).fdiv 100
                           label := (meters.fdiv s.size).fmod 100
                           trailing := meters.fmod s.size } := by
  unfold split
  rw [if_neg hsize]

/-- The parts of a coordinate add up to it; the label and the trailing meters are
counted upward from the leading digits, also below zero. -/
structure Splits (s : Spacing) (meters : Int) (p : SplitCoord) : Prop where
  sum_eq : meters = s.size * (100 * p.leading + p.label) + p.trailing
  label_nonneg : 0 ≤ p.label
  label_lt : p.label < 100
  trailing_nonneg : 0 ≤ p.trailing
  trailing_lt : p.trailing < s.size

theorem splits_of_split {s : Spacing} (hsize : 0 < s.size) {meters : Int} {p : SplitCoord}
    (h : s.split meters = .ok p) : s.Splits meters p := by
  rw [split_of_ne_zero hsize.ne'] at h
  cases h
  have hsum := Int.mul_ediv_add_emod meters s.size
  have hsteps := Int.mul_ediv_add_emod (meters / s.size) 100
  simp only [Int.fdiv_eq_ediv_of_nonneg _ hsize.le, Int.fmod_eq_emod_of_nonneg _ hsize.le,
    Int.fdiv_eq_ediv_of_nonneg _ (show (0 : Int) ≤ 100 by decide),
    Int.fmod_eq_emod_of_nonneg _ (show (0 : Int) ≤ 100 by decide)]
  constructor
  case sum_eq =>
    dsimp only
    rw [hsteps, hsum]
  case label_nonneg => exact Int.emod_nonneg _ (by decide)
  case label_lt => exact Int.emod_lt_of_pos _ (by decide)
  case trailing_nonneg => exact Int.emod_nonneg _ hsize.ne'
  case trailing_lt => exact Int.emod_lt_of_pos _ hsize

namespace Splits

variable {s : Spacing} {meters : Int} {p q : SplitCoord}

theorem size_pos (h : s.Splits meters p) : 0 < s.size :=
  h.trailing_nonneg.trans_lt h.trailing_lt

/-- The leading digits and the label count the whole steps, by hundreds and below. -/
theorem steps_eq (h : s.Splits meters p) :
    p.leading = meters / s.size / 100 ∧ p.label = meters / s.size % 100 := by
  have hsteps : 100 * p.leading + p.label = meters / s.size := by
    refine ((Int.ediv_emod_unique h.size_pos).mpr ⟨?_, h.trailing_nonneg, h.trailing_lt⟩).1.symm
    rw [h.sum_eq]
    ring
  have hlow := h.label_nonneg
  have hhigh := h.label_lt
  omega

/-- One step on, the leading digits are the same unless the label is back at
zero. -/
theorem leading_of_next (hp : s.Splits meters p) (hq : s.Splits (meters + s.size) q)
    (hlabel : q.label ≠ 0) : q.leading = p.leading := by
  have hstep : (meters + s.size) / s.size = meters / s.size + 1 := by
    rw [Int.add_ediv_of_dvd_right dvd_rfl, Int.ediv_self hp.size_pos.ne']
  obtain ⟨hleading, -⟩ := hp.steps_eq
  obtain ⟨hnext, hwrap⟩ := hq.steps_eq
  omega

/-- What the label and the trailing meters count is the rest at a hundred steps. -/
theorem emod_eq (h : s.Splits meters p) :
    meters % (100 * s.size) = s.size * p.label + p.trailing := by
  have hsize : 0 < s.size := h.size_pos
  have hlow : 0 ≤ s.size * p.label := mul_nonneg hsize.le h.label_nonneg
  have hhigh : s.size * (p.label + 1) ≤ s.size * 100 :=
    mul_le_mul_of_nonneg_left (Int.add_one_le_of_lt h.label_lt) hsize.le
  have hsum : s.size * p.label + p.trailing + 100 * s.size * p.leading = meters := by
    rw [h.sum_eq]
    ring
  refine ((Int.ediv_emod_unique (by omega)).mpr ⟨hsum, ?_, ?_⟩).2
  · linarith [h.trailing_nonneg]
  · linarith [h.trailing_lt]

/-- The leading digits have the sign of the coordinate. -/
theorem leading_nonneg_iff (h : s.Splits meters p) : 0 ≤ p.leading ↔ 0 ≤ meters := by
  have hsize : 0 < 100 * s.size :=
    mul_pos (by decide) h.size_pos
  have hrest := h.emod_eq
  have hlow := Int.emod_nonneg meters hsize.ne'
  have hhigh := Int.emod_lt_of_pos meters hsize
  have hsum : meters = 100 * s.size * p.leading + meters % (100 * s.size) := by
    rw [hrest, h.sum_eq]
    ring
  constructor
  · intro hleading
    linarith [mul_nonneg hsize.le hleading]
  · intro hmeters
    by_contra hneg
    have := mul_le_mul_of_nonneg_left (Int.le_sub_one_of_lt (not_le.mp hneg)) hsize.le
    linarith

end Splits

/-- Any number of steps on, the leading digits are the same if no label on the way
is zero. -/
theorem leading_of_steps {s : Spacing} (hsize : 0 < s.size) {meters : Int} {p q : SplitCoord}
    {n : Nat} (hp : s.split meters = .ok p) (hq : s.split (meters + n * s.size) = .ok q)
    (hno : ∀ m : Nat, 0 < m → m ≤ n → ∀ r, s.split (meters + m * s.size) = .ok r →
      r.label ≠ 0) : q.leading = p.leading := by
  induction n generalizing q with
  | zero =>
      rw [Nat.cast_zero, zero_mul, add_zero, hp] at hq
      cases hq
      rfl
  | succ n ih =>
      have hr := split_of_ne_zero hsize.ne' (meters + n * s.size)
      have hlabel := hno (n + 1) (Nat.succ_pos n) le_rfl q hq
      rw [Nat.cast_succ, add_mul, one_mul, ← add_assoc] at hq
      have hnext := (splits_of_split hsize hr).leading_of_next (splits_of_split hsize hq) hlabel
      exact hnext.trans (ih hr fun m hpos hm => hno m hpos (by omega))

end Spacing

namespace CoordLabel

/-- What is shown of a label: everything at the first bar, and after that the
label, with the leading digits before it if it ends in a zero. -/
theorem exists_shownAt {l : CoordLabel} (hsize : l.spacing.size ≠ 0) :
    ∃ parts, l.parts = .ok parts ∧ ∀ index, l.shownAt index = .ok (
      if index = 0 then LabelPiece.all
      else if parts.label % 10 = 0 then [.leading, .label] else [.label]) := by
  have hparts : l.parts = _ := Spacing.split_of_ne_zero hsize l.coord
  refine ⟨_, hparts, fun index => ?_⟩
  unfold shownAt isTenth
  rw [hparts]
  by_cases hfirst : index = 0
  · rw [if_pos hfirst, if_pos hfirst]
    rfl
  · rw [if_neg hfirst, if_neg hfirst]
    show Except.ok _ = _
    simp only [decide_eq_true_eq]

/-- The digits of a label read one after the other. -/
theorem writes_digits {places a b c : Nat} (hplaces : 0 < places) (hb : b < 100)
    (hc : c < 10 ^ places) :
    Decimal.Writes (toString a ++ Decimal.padded 2 b ++ Decimal.padded places c)
      (10 ^ places * (100 * a + b) + c) := by
  have hlabel := (Decimal.writes_toString a).append (Decimal.writes_padded 2 b)
  rw [Decimal.length_padded (by decide) hb] at hlabel
  have hall := hlabel.append (Decimal.writes_padded places c)
  rw [Decimal.length_padded hplaces hc] at hall
  exact hall

/-- The texts of a full label, once the coordinate is split and its trailing
digits are written. -/
theorem texts_of_trailing [DecimalLogarithm] {l : CoordLabel} {p : SplitCoord}
    (hp : l.parts = .ok p) {trailing : String}
    (htrailing : l.trailingText p.trailing = .ok trailing) :
    l.texts LabelPiece.all = .ok [(.leading, toString p.leading), (.label, paddedInt 2 p.label),
      (.trailing, trailing), (.unit, l.unit), (.side, l.side)] := by
  unfold texts
  rw [hp]
  show LabelPiece.all.mapM (fun piece => do return (piece, ← l.pieceText p piece)) = _
  simp only [LabelPiece.all, List.mapM_cons, List.mapM_nil, pieceText, htrailing]
  rfl

/-- The leading digits are written if they are shown, and nothing else is written in
their place. -/
theorem exists_texts [DecimalLogarithm] {l : CoordLabel} (hsize : 0 < l.spacing.size)
    {p : SplitCoord} (hp : l.parts = .ok p) (shown : Shown) :
    ∃ texts, l.texts shown = .ok texts
      ∧ ∀ text, (.leading, text) ∈ texts ↔ .leading ∈ shown ∧ text = toString p.leading := by
  have htrailing : ∃ text, l.trailingText p.trailing = .ok text := by
    unfold trailingText Spacing.width
    rw [if_neg hsize.not_ge]
    exact ⟨_, rfl⟩
  have hpiece : ∀ piece, ∃ text, l.pieceText p piece = .ok text := by
    intro piece
    cases piece with
    | leading => exact ⟨_, rfl⟩
    | label => exact ⟨_, rfl⟩
    | trailing => exact htrailing
    | unit => exact ⟨_, rfl⟩
    | side => exact ⟨_, rfl⟩
  have htexts : l.texts shown = (LabelPiece.all.filter shown.contains).mapM fun piece => do
      return (piece, ← l.pieceText p piece) := by
    unfold texts
    rw [hp]
    rfl
  rw [htexts]
  obtain ⟨texts, hall⟩ : ∃ texts, (LabelPiece.all.filter shown.contains).mapM (fun piece => do
      return (piece, ← l.pieceText p piece)) = .ok texts :=
    Outcome.mapM_isOk fun piece _ => Outcome.bind_isOk (hpiece piece) fun _ => ⟨_, rfl⟩
  refine ⟨texts, hall, fun text => ?_⟩
  obtain ⟨hevery, honly⟩ := Outcome.of_mapM_eq_ok hall
  constructor
  · intro hmem
    obtain ⟨piece, hpiece, htext⟩ := honly _ hmem
    obtain ⟨_, hwritten, htext⟩ := Outcome.bind_eq_ok.mp htext
    cases htext
    cases hwritten
    exact ⟨List.contains_iff_mem.mp (List.mem_filter.mp hpiece).2, rfl⟩
  · rintro ⟨hshown, rfl⟩
    obtain ⟨_, hmem, htext⟩ := hevery .leading
      (List.mem_filter.mpr ⟨by decide, List.contains_iff_mem.mpr hshown⟩)
    cases htext
    exact hmem

theorem texts_all {l : CoordLabel} {places : Nat} (hplaces : l.spacing.Places places)
    {p : SplitCoord} (hp : l.parts = .ok p) :
    l.texts LabelPiece.all = .ok [(.leading, toString p.leading), (.label, paddedInt 2 p.label),
      (.trailing, paddedInt places p.trailing), (.unit, l.unit), (.side, l.side)] := by
  refine texts_of_trailing hp ?_
  unfold trailingText
  rw [hplaces.width_eq]
  show Except.ok _ = _
  rw [if_neg hplaces.pos.ne']

/-- What is read of a full label: a coordinate that is not negative is read as it
is, one below zero is read further below by twice of what its label and its
trailing digits count. -/
theorem exists_reading {l : CoordLabel} {places : Nat} (hplaces : l.spacing.Places places) :
    ∃ leading label trailing n,
      l.texts LabelPiece.all = .ok [(.leading, leading), (.label, label), (.trailing, trailing),
          (.unit, l.unit), (.side, l.side)]
        ∧ Decimal.written? (leading ++ label ++ trailing) = some n
        ∧ n = if 0 ≤ l.coord then l.coord
          else l.coord - 2 * (l.coord % (100 * l.spacing.size)) := by
  obtain ⟨p, hp, -⟩ := exists_shownAt hplaces.size_pos.ne'
  have hsplit := Spacing.splits_of_split hplaces.size_pos hp
  have hsum := hsplit.sum_eq
  have hrest := hsplit.emod_eq
  refine ⟨_, _, _, _, texts_all hplaces hp, ?_, rfl⟩
  obtain ⟨b, hb⟩ := Int.eq_ofNat_of_zero_le hsplit.label_nonneg
  obtain ⟨c, hc⟩ := Int.eq_ofNat_of_zero_le hsplit.trailing_nonneg
  have hlabel : b < 100 := by
    have := hsplit.label_lt
    omega
  have htrailing : c < 10 ^ places := by
    have := hsplit.trailing_lt
    rw [hc, hplaces.size_eq] at this
    exact_mod_cast this
  have hdigits : ∀ a, _ := fun a => writes_digits (a := a) hplaces.pos hlabel htrailing
  rw [hb, hc, hplaces.size_eq] at hsum hrest
  rw [hb, hc, hplaces.size_eq]
  by_cases hsign : 0 ≤ l.coord
  · -- the leading digits are those of a natural number
    obtain ⟨a, ha⟩ := Int.eq_ofNat_of_zero_le (hsplit.leading_nonneg_iff.mpr hsign)
    rw [ha] at hsum ⊢
    rw [if_pos hsign, hsum]
    refine (hdigits a).written?_eq.trans (congrArg some ?_)
    push_cast
    ring
  · -- the leading digits follow a minus sign
    obtain ⟨a, ha⟩ := Int.eq_negSucc_of_lt_zero
      (not_le.mp (mt hsplit.leading_nonneg_iff.mp hsign))
    rw [ha] at hsum ⊢
    rw [if_neg hsign, hrest, hsum, Int.negSucc_eq]
    have htext : toString (Int.negSucc a) ++ Decimal.padded 2 b ++ Decimal.padded places c
        = "-" ++ (toString (a + 1) ++ Decimal.padded 2 b ++ Decimal.padded places c) := by
      show "-" ++ toString (a + 1) ++ _ ++ _ = _
      simp only [String.append_assoc]
    refine (congrArg Decimal.written? htext).trans
      ((hdigits (a + 1)).written?_minus.trans (congrArg some ?_))
    push_cast
    ring

end CoordLabel

-- ======================================================= northing labels

namespace Trellis

section
variable {α : Type} [Scalar α] [NumberText α] [Elementary α] [Survey α]
  {ellipsoid : Ellipsoid α} {spacing : Spacing} {zone : Option Int} {topLeft bottomRight : Point α}
  {t : Trellis α}

/-- The northing bars of a frame stand at multiples of the spacing. -/
theorem dvd_of_mem_northingBars
    (h : ofFrame ellipsoid spacing zone topLeft bottomRight = .ok t) {bar : Bar α}
    (hbar : bar ∈ t.northingBars) : spacing.size ∣ bar.value := by
  obtain ⟨_, _, h⟩ := exists_corners_of_ofFrame h
  obtain ⟨hedges, hfamilies, -⟩ := ofCorners_families h
  have hnorthing : t.northing = Family.between (t.edgeAt .left) (t.edgeAt .right) spacing :=
    hfamilies .left
  obtain ⟨_, hleft⟩ := hedges .left
  obtain ⟨_, hright⟩ := hedges .right
  obtain ⟨i, -, rfl⟩ := List.mem_map.mp hbar
  show spacing.size ∣ t.northing.valueAt i
  rw [hnorthing]
  refine Int.dvd_add ?_ (Dvd.intro_left _ rfl)
  show spacing.size ∣ min (t.edgeAt .left).first (t.edgeAt .right).first
  rcases min_choice (t.edgeAt .left).first (t.edgeAt .right).first with hmin | hmin
  · rw [hmin]
    exact (Edge.dvd_of_ofLength hleft).1
  · rw [hmin]
    exact (Edge.dvd_of_ofLength hright).1

/-- What is read of the label of a northing bar: north of the equator, and at
whole hundreds of steps south of it, the number of its meters; at every other
bar south of the equator a number that is too great. The side is right. -/
theorem northing_reading (hspacing : spacing = .hundred ∨ spacing = .thousand)
    (h : ofFrame ellipsoid spacing zone topLeft bottomRight = .ok t) {bar : Bar α}
    (hbar : bar ∈ t.northingBars) :
    spacing.size ∣ bar.value ∧ ∃ leading label trailing side n,
      (CoordLabel.ofNorthing bar spacing).texts LabelPiece.all = .ok [(.leading, leading),
          (.label, label), (.trailing, trailing), (.unit, "m"), (.side, side)]
        ∧ Decimal.written? (leading ++ label ++ trailing) = some n
        ∧ (side = "S." ↔ bar.value < 0)
        ∧ n = (if 0 ≤ bar.value then bar.value
            else bar.value - 2 * (bar.value % (100 * spacing.size)))
        ∧ (n.natAbs = bar.value.natAbs ↔ 0 ≤ bar.value ∨ 100 * spacing.size ∣ bar.value) := by
  obtain ⟨places, hplaces⟩ : ∃ places, spacing.Places places := by
    rcases hspacing with rfl | rfl
    · exact ⟨2, Spacing.hundred_places⟩
    · exact ⟨3, Spacing.thousand_places⟩
  obtain ⟨leading, label, trailing, n, htexts, hread, hn⟩ :=
    CoordLabel.exists_reading (l := CoordLabel.ofNorthing bar spacing) hplaces
  refine ⟨dvd_of_mem_northingBars h hbar, leading, label, trailing, _, n, htexts, hread, ?_, hn, ?_⟩
  · show (if bar.value < 0 then "S." else "N.") = "S." ↔ bar.value < 0
    split
    case isTrue hsouth => exact iff_of_true rfl hsouth
    case isFalse hnorth => exact iff_of_false (by decide) hnorth
  · have hmodulus : 0 < 100 * spacing.size := mul_pos (by decide) hplaces.size_pos
    have hrest := Int.emod_nonneg bar.value hmodulus.ne'
    rw [Int.dvd_iff_emod_eq_zero, hn]
    show (if 0 ≤ bar.value then _ else _ : Int).natAbs = _ ↔ _
    split
    case isTrue hnorth => exact iff_of_true rfl (Or.inl hnorth)
    case isFalse hsouth =>
      rw [or_iff_right hsouth]
      show (bar.value - 2 * (bar.value % (100 * spacing.size))).natAbs = _ ↔ _
      omega

end

open scoped Coarse in
/-- A frame over the equator: its second bar stands 1000 meters south of it, and
its label is read as 199000 meters south. -/
theorem northing_reading_south :
    ∃ t : Trellis Rat,
      ofFrame .standard .thousand none ⟨-11702 / 100, 1 / 100⟩ ⟨-117, -2 / 100⟩ = .ok t
      ∧ ∃ bar ∈ t.northingBars, bar.value = -1000
        ∧ ∃ leading label trailing, (CoordLabel.ofNorthing bar .thousand).texts LabelPiece.all
            = .ok [(.leading, leading), (.label, label), (.trailing, trailing), (.unit, "m"),
              (.side, "S.")]
          ∧ Decimal.written? (leading ++ label ++ trailing) = some (-199000) := by
  have hvalues : (ofFrame (α := Rat) .standard .thousand none ⟨-11702 / 100, 1 / 100⟩
      ⟨-117, -2 / 100⟩).toOption.map (fun t => (t.northing.steps, t.northing.valueAt 1))
        = some (4, -1000) := by
    decide +kernel
  obtain ⟨t, ht, hvalues⟩ := Outcome.ok_of_toOption hvalues
  rw [Prod.mk.injEq] at hvalues
  obtain ⟨hsteps, hvalue⟩ := hvalues
  have hbar : t.northingBar 1 ∈ t.northingBars := by
    refine List.mem_map.mpr ⟨1, List.mem_range.mpr ?_, rfl⟩
    omega
  obtain ⟨-, leading, label, trailing, side, n, htexts, hread, hside, hn, -⟩ :=
    northing_reading (Or.inr rfl) ht hbar
  have hvalue : (t.northingBar 1).value = -1000 := hvalue
  rw [hvalue] at hside hn
  obtain rfl := hside.mpr (by decide)
  obtain rfl : n = -199000 := hn
  exact ⟨t, ht, _, hbar, hvalue, leading, label, trailing, htexts, hread⟩

end Trellis

end MapSheets
