import MapSheets.Proofs.Geodesy.Coarse
import MapSheets.Proofs.Geodesy.Dms
import MapSheets.Proofs.Number.Places

/-
Degrees, minutes and seconds in print. Degrees and minutes are printed as they
are, and the seconds as the nearest whole number of units of the last place
(`read?_text`). So a printed coordinate is off by half a unit at most, and the
minutes stay below sixty.

The seconds do not: from half a unit below a full minute on they are rounded up
to it, and nothing is carried to the minutes, which are printed already. Sixty
seconds are printed exactly there (`printed_seconds_iff`).
-/

namespace MapSheets.Dms

/-- The places of the seconds in print, six if none are asked for. -/
def shownPlaces (places : Nat) : Nat := if places = 0 then 6 else places

theorem shownPlaces_pos (places : Nat) : 0 < shownPlaces places := by
  unfold shownPlaces
  split <;> omega

/-- The last place of the seconds in print, in seconds. -/
def lastPlace (places : Nat) : Rat := 1 / 10 ^ shownPlaces places

/-- The form that a printed coordinate shows: digits before the marks of degrees
and minutes, digits with a point among them before the mark of seconds, and the
letter behind it. -/
def read? (text : String) : Option (Dms Rat) := do
  let (degree, rest) ← Decimal.cut? '°' text.toList
  let (minute, rest) ← Decimal.cut? '\x27' rest
  let (second, side) ← Decimal.cut? '\x22' rest
  return ⟨← Decimal.natural? degree, ← Decimal.natural? minute, ← Decimal.decimal? second,
    String.ofList side⟩

theorem read?_of_cut {text : String} {degree minute second rest rest' side : List Char}
    (hdegree : Decimal.cut? '°' text.toList = some (degree, rest))
    (hminute : Decimal.cut? '\x27' rest = some (minute, rest'))
    (hsecond : Decimal.cut? '\x22' rest' = some (second, side)) {k m : Nat} {s : Rat}
    (hk : Decimal.natural? degree = some k) (hm : Decimal.natural? minute = some m)
    (hs : Decimal.decimal? second = some s) :
    read? text = some ⟨k, m, s, String.ofList side⟩ := by
  unfold read?
  simp only [hdegree, hminute, hsecond, hk, hm, hs, Option.bind_eq_bind, Option.bind_some]
  rfl

section
variable {α : Type} [NumberText α]

/-- Printed seconds are read as the units that they were rounded to, the other
parts as they were. -/
theorem read?_text {d : Dms α} (hdegree : 0 ≤ d.degree) (hminute : 0 ≤ d.minute) {places n : Nat}
    (hsecond : NumberText.fixed (shownPlaces places) d.second
      = Decimal.placePoint (shownPlaces places) n) :
    read? (d.text places)
      = some ⟨d.degree, d.minute, n / 10 ^ shownPlaces places, d.hemisphere⟩ := by
  obtain ⟨k, hk⟩ := Int.eq_ofNat_of_zero_le hdegree
  obtain ⟨m, hm⟩ := Int.eq_ofNat_of_zero_le hminute
  have hplaces := shownPlaces_pos places
  have htext : (d.text places).toList = (toString k).toList ++ '°' :: ((toString m).toList
      ++ '\x27' :: ((Decimal.placePoint (shownPlaces places) n).toList
        ++ '\x22' :: d.hemisphere.toList)) := by
    unfold text
    rw [hk, hm]
    show (toString k ++ "°" ++ toString m ++ "'" ++ NumberText.fixed (shownPlaces places) d.second
      ++ "\"" ++ d.hemisphere).toList = _
    rw [hsecond]
    simp only [String.toList_append, List.append_assoc]
    rfl
  have hmark : '\x22' ∉ (Decimal.placePoint (shownPlaces places) n).toList := by
    intro hmem
    have := Decimal.isDigit_or_of_mem_placePoint hplaces hmem
    revert this
    decide
  have hcut := (congrArg (Decimal.cut? '°') htext).trans
    ((Decimal.writes_toString k).cut?_append (by decide) _)
  have hread := read?_of_cut hcut ((Decimal.writes_toString m).cut?_append (by decide) _)
    (Decimal.cut?_append hmark _)
    (Decimal.writes_toString k).natural?_eq (Decimal.writes_toString m).natural?_eq
    (Decimal.decimal?_placePoint hplaces n)
  rw [hread, hk, hm, String.ofList_toList]

/-- A coordinate is printed with up to so many places. -/
theorem text?_eq_ok_iff {d : Dms α} {places : Nat} {text : String} :
    d.text? places = .ok text ↔ places ≤ Decimal.mostPlaces ∧ d.text places = text := by
  unfold text?
  by_cases h : places ≤ Decimal.mostPlaces
  · rw [if_neg (by omega), Int.toNat_natCast, Except.ok.injEq]
    exact (and_iff_right h).symm
  · rw [if_pos (by omega)]
    exact iff_of_false nofun fun hprinted => h hprinted.1

end

/-- Seconds that are a double are printed by their exact value. -/
theorem read?_text_of_decode {d : Dms Float} (hdegree : 0 ≤ d.degree) (hminute : 0 ≤ d.minute)
    {m : Nat} {e : Int} {second : Rat} (hfinite : Binary.decode d.second = .finite false m e)
    (hsecond : Exact.toRat? d.second = some second) (places : Nat) :
    read? (d.text places) = some ⟨d.degree, d.minute,
      Decimal.units (shownPlaces places) second / 10 ^ shownPlaces places, d.hemisphere⟩ := by
  have hfixed : NumberText.fixed (shownPlaces places) d.second = Decimal.placePoint
      (shownPlaces places) (Decimal.units (shownPlaces places) second) :=
    Decimal.fixed_of_decode hfinite hsecond
  exact read?_text hdegree hminute hfixed

/-- Other seconds move the coordinate by as much. -/
theorem toDecimal_second {d : Dms Rat} {value : Rat} (h : d.toDecimal = .ok value)
    (second : Rat) : ∃ back, { d with second := second }.toDecimal = .ok back
      ∧ |back - value| = |second - d.second| / 3600 := by
  have hscale : |second - d.second| / 3600 = |(second - d.second) / 3600| := by
    rw [abs_div, abs_of_pos (by norm_num : (0 : Rat) < 3600)]
  rw [toDecimal_rat] at h
  refine ⟨_, toDecimal_rat _, ?_⟩
  cases h
  rw [hscale]
  by_cases hside : d.hemisphere = "S" ∨ d.hemisphere = "W"
  · rw [if_pos hside, if_pos hside, ← abs_neg]
    refine congrArg abs ?_
    ring
  · rw [if_neg hside, if_neg hside]
    refine congrArg abs ?_
    ring

section
variable [NumberText Rat]

/-- What is read of a coordinate in print. Minutes stay below sixty, and the
coordinate is off by half a unit of the last place at most; seconds are printed
as sixty from half a unit below a full minute on, and below sixty up to there. The
half unit is that of exact values: a value that is rounded on its way to degrees,
minutes and seconds is off by that as well. -/
theorem printed_seconds_iff (hwrites : Decimal.WritesRounded) (a : Axis) (value : Rat)
    (places : Nat) :
    ∃ d, a.dms value = .ok d
      ∧ ((∃ text, d.text? places = .ok text) ↔ places ≤ Decimal.mostPlaces)
      ∧ ∀ text, d.text? places = .ok text → ∃ second back,
          read? text = some { d with second := second }
          ∧ (0 ≤ d.minute ∧ d.minute < 60)
          ∧ (0 ≤ second ∧ second ≤ 60)
          ∧ (second < 60 ↔ d.second < 60 - lastPlace places / 2)
          ∧ { d with second := second }.toDecimal = .ok back
          ∧ |back - value| ≤ lastPlace places / 2 / 3600 := by
  obtain ⟨d, hd, h⟩ := exists_canonical a value
  refine ⟨d, hd, ?_, fun text htext => ?_⟩
  · constructor
    · rintro ⟨text, htext⟩
      exact (text?_eq_ok_iff.mp htext).1
    · intro hplaces
      exact ⟨_, text?_eq_ok_iff.mpr ⟨hplaces, rfl⟩⟩
  obtain ⟨-, rfl⟩ := text?_eq_ok_iff.mp htext
  obtain ⟨hlow, hhigh⟩ := h.second_range
  -- seconds are not negative, so they are printed without a sign
  have hfixed : NumberText.fixed (shownPlaces places) d.second = Decimal.placePoint
      (shownPlaces places) (Decimal.units (shownPlaces places) d.second) := by
    rw [hwrites, decide_eq_false (not_lt.mpr hlow)]
    rfl
  have hread := read?_text h.degree_nonneg h.minute_range.1 hfixed
  obtain ⟨back, hback, hoff⟩ := toDecimal_second h.toDecimal_eq
    (Decimal.units (shownPlaces places) d.second / 10 ^ shownPlaces places)
  have hnear := Decimal.abs_units_sub_le (shownPlaces places) hlow
  refine ⟨_, back, hread, h.minute_range, ⟨by positivity, ?_⟩, ?_, hback, ?_⟩
  · exact Decimal.units_div_le _ hlow hhigh
  · exact Decimal.units_div_lt_iff _ hlow (by decide)
  · rw [hoff]
    exact div_le_div_of_nonneg_right hnear (by norm_num)

end

open scoped Coarse in
/-- A billionth of a degree west of 5.1 the seconds are sixty in print. -/
theorem printed_seconds_full_minute :
    ∃ d, Axis.longitude.dms (5099999999 / 1000000000 : Rat) = .ok d
      ∧ d.text? 1 = .ok "5°5'60.0\"E"
      ∧ ∃ second, read? "5°5'60.0\"E" = some { d with second := second } ∧ second = 60 := by
  have hform : Axis.longitude.dms (5099999999 / 1000000000 : Rat)
      = .ok ⟨5, 5, 149999991 / 2500000, "E"⟩ := by with_unfolding_all rfl
  obtain ⟨d, hd, -, hprinted⟩ := printed_seconds_iff (fun _ _ => rfl) .longitude
    (5099999999 / 1000000000) 1
  rw [hform] at hd
  cases hd
  have htext : (⟨5, 5, 149999991 / 2500000, "E"⟩ : Dms Rat).text? 1 = .ok "5°5'60.0\"E" := by
    decide +kernel
  obtain ⟨second, _, hread, -, ⟨-, hle⟩, hfull, -⟩ := hprinted _ htext
  refine ⟨_, hform, htext, second, hread, le_antisymm hle (not_lt.mp (mt hfull.mp ?_))⟩
  norm_num [lastPlace, shownPlaces]

/-- The double next to 5.1 is printed with sixty seconds too. -/
example : (ofLng (5.1 : Float)).toOption.map (·.text 1) = some "5°5'60.0\"E" := by
  decide +kernel

end MapSheets.Dms
