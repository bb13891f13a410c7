import MapSheets.Proofs.Familiar
import MapSheets.Sheet.Composition

/-
What settings are like that were accepted. They were checked as they were given,
before anything was computed from them: amounts are above zero, and the counts
of a grating that is drawn lie in their range.
-/

namespace MapSheets.Sheet

open Outcome

@[simp] theorem refuseUnknown_familiar (names : List String) : Familiar (refuseUnknown names) := by
  unfold refuseUnknown
  split
  case h_1 => exact familiar_ok _
  case h_2 => exact ends_error rfl

variable {α : Type} [Scalar α] [OfDouble α]

/-- A number of rows or columns that lies in the range of gratings. -/
def InRange (α : Type) [Scalar α] [OfDouble α] (count : Json) : Prop :=
  ∃ a : Amount α, Amount.ofJson? count = some a
    ∧ a.isWithin Grating.fewest Grating.most = true

/-- A sheet whose settings have passed the checks. -/
structure Accepted (s : Sheet α) : Prop where
  scale : ¬ s.scale.isAtMostZero
  dpi : ¬ s.dpi.isAtMostZero
  width : ¬ s.width.isAtMostZero
  height : ¬ s.height.isAtMostZero
  spacing : ¬ s.spacing.isAtMostZero
  counts : s.drawGrating.isTruthy = true → ∀ count ∈ [s.gratingRows, s.gratingCols], InRange α count

/-- A count in the range of gratings is a whole number, or one with a point in it,
which cannot be counted up to. -/
theorem InRange.cases {count : Json} (h : InRange α count) :
    (∃ n, count = .int n ∧ Grating.isCount n = true)
      ∨ ∃ x text, count = .float x ∧ gratingCount count = .error (.wrongOperand text) := by
  obtain ⟨a, hamount, hwithin⟩ := h
  cases count with
  | int n =>
      cases hamount
      exact Or.inl ⟨n, rfl, hwithin⟩
  | float x => exact Or.inr ⟨x, _, rfl, rfl⟩
  | bool b =>
      -- truth values count as one or zero, and two are the fewest
      cases hamount
      have hfew : ∀ b : Bool, (decide (Grating.fewest ≤ b.toNat)
          && decide ((b.toNat : Int) ≤ Grating.most)) = false := by decide
      cases (hfew b).symm.trans hwithin
  | null => cases hamount
  | str text => cases hamount
  | arr elements => cases hamount
  | obj fields => cases hamount

/-- Settings are accepted, or refused in a familiar way. -/
theorem ofFields_ends (fields : List (String × Json)) :
    Ends Accepted (fun f => f.isStrange = false) (ofFields (α := α) fields) := by
  unfold ofFields
  refine Ends.bind (refuseUnknown_familiar _) fun _ _ => ?_
  extract_lets invalid setting amount
  have hamount : ∀ name default, Familiar (amount name default) := by
    intro name default
    dsimp only [amount]
    split
    case h_1 => exact familiar_ok _
    case h_2 =>
      split
      case h_1 => exact familiar_ok _
      case h_2 => exact ends_error rfl
  cases fields.lookup "name" with
  | none => exact ends_error rfl
  | some v =>
      cases v
      case str text =>
        have hread : Familiar (.ok (normalName text)) := familiar_ok _
        refine Ends.bind hread fun name _ => ?_
        refine .unless (fun _ => rfl) fun _ => ?_
        refine Ends.bind (hamount _ _) fun scale _ => ?_
        refine .unless (fun _ => rfl) fun hscale => ?_
        refine Ends.bind (hamount _ _) fun dpi _ => ?_
        refine .unless (fun _ => rfl) fun hdpi => ?_
        refine Ends.bind (hamount _ _) fun width _ => ?_
        refine .unless (fun _ => rfl) fun hwidth => ?_
        refine Ends.bind (hamount _ _) fun height _ => ?_
        refine .unless (fun _ => rfl) fun hheight => ?_
        refine Ends.bind (hamount _ _) fun spacing _ => ?_
        refine .unless (fun _ => rfl) fun hspacing => ?_
        refine .ite (fun _ => ?drawn) fun hplain => ?plain
        case drawn =>
          refine Ends.bind (Ends.forIn_checks (C := InRange α) fun count _ => ?_)
            fun _ hcounts => ?_
          · -- a count is an amount in the range
            cases hamount : (Amount.ofJson? count : Option (Amount α)) with
            | none => exact ends_error rfl
            | some a =>
                refine .unless (fun _ => rfl) fun hwithin => ends_ok ⟨rfl, a, hamount, ?_⟩
                simpa using hwithin
          · exact ends_ok ⟨hscale, hdpi, hwidth, hheight, hspacing, fun _ => hcounts⟩
        case plain =>
          exact ends_ok ⟨hscale, hdpi, hwidth, hheight, hspacing,
            fun hdrawn => absurd hdrawn hplain⟩
      all_goals exact ends_error rfl

theorem accepted_of_ofFields {fields : List (String × Json)} {s : Sheet α}
    (h : ofFields fields = .ok s) : s.Accepted := (ofFields_ends fields).result s h

end MapSheets.Sheet
