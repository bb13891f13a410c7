import MapSheets.Geodesy.Zone
import MapSheets.Proofs.Number.Rational
import MapSheets.Proofs.Outcome
import Mathlib.Data.List.Nodup
import Mathlib.Tactic.Linarith
import Mathlib.Tactic.NormNum

/-
Zone numbers of exact points. Off the polar regions a number is that of a
strip of six degrees (`strip`), or over Norway and Svalbard one of a few
between 31 and 37 (`numberAt_areas`); away from the latitudes of those two
it is that of the strip (`numberAt_of_plain`).

The spans of a zone hold their west end and not their east end. So a box
whose inside lies in one strip has an east edge in the same strip, or right
on the border to the next (`strip_east`).
-/

namespace MapSheets.Zone

-- ======================================================== zones by number

theorem toNat_range {n : Int} (h : 1 ≤ n ∧ n ≤ 60) : 1 ≤ n.toNat ∧ n.toNat ≤ 60 := by omega

/-- The zone that a number names. -/
def named (n : Int) : Zone :=
  if h : 1 ≤ n ∧ n ≤ 60 then .numbered n.toNat (toNat_range h)
  else if n = 0 then .polar
  else .unknown

/-- A zone by its number: the zone of a point is the one that the number of
the point names. -/
theorem ofPoint_eq_named {α : Type} [Scalar α] {lat lng : α} {n : Int}
    (hn : numberAt lat lng = .ok n) : ofPoint lat lng = .ok (named n) := by
  unfold ofPoint
  rw [hn]
  show (if 0 ≤ n ∧ n ≤ 60 then ofNumber n else .ok .unknown) = _
  unfold named
  by_cases hstrip : 1 ≤ n ∧ n ≤ 60
  · rw [if_pos ⟨by omega, hstrip.2⟩, dif_pos hstrip]
    unfold ofNumber ofStrip
    rw [if_neg (by omega), dif_pos hstrip]
  · rw [dif_neg hstrip]
    by_cases hzero : n = 0
    · subst hzero
      rfl
    · rw [if_neg (by omega), if_neg hzero]

/-- Only the strips have two digits. -/
theorem label?_named (n : Int) :
    (named n).label? = if 1 ≤ n ∧ n ≤ 60 then some (Decimal.padded 2 n.toNat) else none := by
  unfold named
  split
  · rfl
  · split <;> rfl

/-- Two digits tell the sixty strips apart. -/
theorem padded_two_inj {m n : Nat} (hm : m ≤ 60) (hn : n ≤ 60)
    (h : Decimal.padded 2 m = Decimal.padded 2 n) : m = n := by
  have hnodup : ((List.range 61).map (Decimal.padded 2)).Nodup := by decide +kernel
  exact List.inj_on_of_nodup_map hnodup (List.mem_range.mpr (by omega))
    (List.mem_range.mpr (by omega)) h

-- ===================================================== exact zone numbers

/-- The latitudes of the polar regions. -/
def Polar (lat : Rat) : Prop := (84 < lat ∧ lat < 90) ∨ (-90 < lat ∧ lat < -80)

/-- Latitudes at which every zone is a strip of six degrees. -/
def Plain (lat : Rat) : Prop := ¬(56 ≤ lat ∧ lat < 64) ∧ ¬(72 ≤ lat ∧ lat < 84)

/-- The strip of six degrees of a longitude. -/
def strip (lng : Rat) : Int := ⌊(lng + 180) / 6⌋ + 1

theorem between_rat {low high x : Rat} : between low high x = true ↔ low < x ∧ x < high := by
  simp [between]

theorem within_rat {low high x : Rat} : within low high x = true ↔ low ≤ x ∧ x < high := by
  simp [within]

/-- The coast of Norway, all of it in zone 32. -/
def Norway (lat lng : Rat) : Prop := (56 ≤ lat ∧ lat < 64) ∧ 3 ≤ lng ∧ lng < 12

/-- Svalbard, which has every other zone only. -/
def Svalbard (lat lng : Rat) : Prop := (72 ≤ lat ∧ lat < 84) ∧ 0 ≤ lng ∧ lng < 42

/-- The zones of Svalbard. -/
def svalbardZones : List Int := [31, 33, 35, 37]

/-- The longitude in the middle of a strip. -/
def meridian (n : Int) : Rat := 6 * n - 183

theorem abs_sub_meridian_le {lng reach : Rat} {n : Int} (hwest : meridian n - reach ≤ lng)
    (heast : lng ≤ meridian n + reach) : |lng - meridian n| ≤ reach := by
  rw [abs_sub_le_iff]
  constructor <;> linarith

/-- A span of Svalbard around a meridian, from six degrees to its west at most
to six degrees to its east. -/
theorem svalbard_of_span {lat lng west east : Rat} (n : Int)
    (hwest : 0 ≤ west ∧ meridian n - 6 ≤ west) (heast : east ≤ 42 ∧ east ≤ meridian n + 6)
    (h : (72 ≤ lat ∧ lat < 84) ∧ west ≤ lng ∧ lng < east) :
    Svalbard lat lng ∧ |lng - meridian n| ≤ 6 := by
  obtain ⟨hlat, hlow, hhigh⟩ := h
  refine ⟨⟨hlat, hwest.1.trans hlow, hhigh.trans_le heast.1⟩, abs_sub_meridian_le ?_ ?_⟩
  · exact hwest.2.trans hlow
  · exact hhigh.le.trans heast.2

/-- The number of a point, area by area. -/
theorem numberAt_areas (lat lng : Rat) :
    (Polar lat ∧ numberAt lat lng = .ok 0)
    ∨ (Norway lat lng ∧ numberAt lat lng = .ok 32)
    ∨ (Svalbard lat lng
      ∧ ∃ n ∈ svalbardZones, |lng - meridian n| ≤ 6 ∧ numberAt lat lng = .ok n)
    ∨ ((¬Polar lat ∧ ¬Norway lat lng ∧ ¬Svalbard lat lng)
      ∧ numberAt lat lng = .ok (strip lng)) := by
  unfold numberAt
  simp only [Bool.or_eq_true, Bool.and_eq_true, between_rat, within_rat]
  split
  case isTrue hpolar => exact Or.inl ⟨hpolar, rfl⟩
  split
  case isTrue hnorway => exact Or.inr (Or.inl ⟨hnorway, rfl⟩)
  refine Or.inr (Or.inr ?_)
  -- one case for each span of Svalbard, the strip where none applies
  split
  case isTrue h =>
    obtain ⟨harea, hnear⟩ := svalbard_of_span 31 (by norm_num [meridian]) (by norm_num [meridian]) h
    exact Or.inl ⟨harea, 31, by decide, hnear, rfl⟩
  split
  case isTrue h =>
    obtain ⟨harea, hnear⟩ := svalbard_of_span 33 (by norm_num [meridian]) (by norm_num [meridian]) h
    exact Or.inl ⟨harea, 33, by decide, hnear, rfl⟩
  split
  case isTrue h =>
    obtain ⟨harea, hnear⟩ := svalbard_of_span 35 (by norm_num [meridian]) (by norm_num [meridian]) h
    exact Or.inl ⟨harea, 35, by decide, hnear, rfl⟩
  split
  case isTrue h =>
    obtain ⟨harea, hnear⟩ := svalbard_of_span 37 (by norm_num [meridian]) (by norm_num [meridian]) h
    exact Or.inl ⟨harea, 37, by decide, hnear, rfl⟩
  case isFalse hpolar hnorway h₃₁ h₃₃ h₃₅ h₃₇ =>
    refine Or.inr ⟨⟨hpolar, hnorway, ?_⟩, rfl⟩
    rintro ⟨hlat, hlow, hhigh⟩
    -- the spans follow one another without a gap
    rcases lt_or_ge lng 9 with h9 | h9
    · exact h₃₁ ⟨hlat, hlow, h9⟩
    rcases lt_or_ge lng 21 with h21 | h21
    · exact h₃₃ ⟨hlat, h9, h21⟩
    rcases lt_or_ge lng 33 with h33 | h33
    · exact h₃₅ ⟨hlat, h21, h33⟩
    · exact h₃₇ ⟨hlat, h33, hhigh⟩

/-- What the number of a point can be. -/
theorem numberAt_cases (lat lng : Rat) :
    (Polar lat ∧ numberAt lat lng = .ok 0)
    ∨ (¬Polar lat ∧ ¬Plain lat ∧ 0 ≤ lng ∧ ∃ n, (31 ≤ n ∧ n ≤ 37) ∧ numberAt lat lng = .ok n)
    ∨ (¬Polar lat ∧ numberAt lat lng = .ok (strip lng)) := by
  rcases numberAt_areas lat lng with
    ⟨hpolar, hn⟩ | ⟨⟨hlat, hlng⟩, hn⟩ | ⟨⟨hlat, hlng⟩, n, hzone, -, hn⟩ | ⟨⟨hpolar, -⟩, hn⟩
  · exact Or.inl ⟨hpolar, hn⟩
  · have hpolar : ¬Polar lat := by
      rintro (⟨_, _⟩ | ⟨_, _⟩) <;> linarith
    exact Or.inr (Or.inl ⟨hpolar, fun hp => hp.1 hlat, by linarith [hlng.1], 32, by decide, hn⟩)
  · have hpolar : ¬Polar lat := by
      rintro (⟨_, _⟩ | ⟨_, _⟩) <;> linarith
    have hrange : ∀ n ∈ svalbardZones, 31 ≤ n ∧ n ≤ 37 := by decide
    exact Or.inr (Or.inl ⟨hpolar, fun hp => hp.2 hlat, hlng.1, n, hrange n hzone, hn⟩)
  · exact Or.inr (Or.inr ⟨hpolar, hn⟩)

/-- Every exact point has a number. -/
theorem numberAt_rat_isOk (lat lng : Rat) : ∃ n, numberAt lat lng = .ok n := by
  rcases numberAt_cases lat lng with ⟨-, h⟩ | ⟨-, -, -, n, -, h⟩ | ⟨-, h⟩
  · exact ⟨0, h⟩
  · exact ⟨n, h⟩
  · exact ⟨strip lng, h⟩

/-- In the polar regions the number is zero. -/
theorem numberAt_of_polar {lat : Rat} (hpolar : Polar lat) (lng : Rat) :
    numberAt lat lng = .ok 0 := by
  rcases numberAt_cases lat lng with ⟨-, h⟩ | ⟨h, -⟩ | ⟨h, -⟩
  · exact h
  · exact absurd hpolar h
  · exact absurd hpolar h

/-- At plain latitudes the number is that of the strip. -/
theorem numberAt_of_plain {lat : Rat} (hpolar : ¬Polar lat) (hplain : Plain lat) (lng : Rat) :
    numberAt lat lng = .ok (strip lng) := by
  rcases numberAt_cases lat lng with ⟨h, -⟩ | ⟨-, h, -⟩ | ⟨-, h⟩
  · exact absurd h hpolar
  · exact absurd hplain h
  · exact h

/-- A strip holds its west end and not its east end. -/
theorem strip_eq_iff {lng : Rat} {z : Int} :
    strip lng = z ↔ 6 * (z : Rat) - 186 ≤ lng ∧ lng < 6 * (z : Rat) - 180 := by
  have hfloor : strip lng = z ↔ ⌊(lng + 180) / 6⌋ = z - 1 := by
    unfold strip
    omega
  rw [hfloor, Int.floor_eq_iff]
  push_cast
  constructor
  · intro h; constructor <;> linarith [h.1, h.2]
  · intro h; constructor <;> linarith [h.1, h.2]

/-- Where the longitudes below an east edge lie in one strip, the edge lies
in it too or is its east end. -/
theorem strip_east {w e : Rat} {z : Int} (hwe : w < e)
    (h : ∀ x, w < x → x < e → strip x = z) :
    strip e = if e = 6 * (z : Rat) - 180 then z + 1 else z := by
  obtain ⟨x, hwx, hxe⟩ := exists_between hwe
  have hlow := (strip_eq_iff.mp (h x hwx hxe)).1
  have hhigh : e ≤ 6 * (z : Rat) - 180 := by
    by_contra hbeyond
    obtain ⟨y, hy, hye⟩ := exists_between (max_lt hwe (not_le.mp hbeyond))
    have hwy : w < y := lt_of_le_of_lt (le_max_left _ _) hy
    have hzy : 6 * (z : Rat) - 180 < y := lt_of_le_of_lt (le_max_right _ _) hy
    linarith [(strip_eq_iff.mp (h y hwy hye)).2]
  rw [strip_eq_iff]
  split
  case isTrue hend =>
    push_cast
    constructor <;> linarith
  case isFalse hend =>
    exact ⟨by linarith, lt_of_le_of_ne hhigh hend⟩

end MapSheets.Zone
