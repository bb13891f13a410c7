import MapSheets.Cell.Basic
import MapSheets.Proofs.Familiar

/-
What keeps a cell from being made. A calculation may have no result, a date may
be unreadable, corners may not be finite, and a value may not be of the kind
that is asked for: these are the causes that lie in what a cell is made of
(`Failure.isOfCell`). That a cell is not found is not among them, and nothing
strange is either.

Work `Describes` if it fails for such causes only. Taking the identifier apart
does, and so does every step that supplies what follows from the corners, so
making a cell does (`Cell.make_describes`).
-/

namespace MapSheets

namespace Failure

/-- The causes that lie in what a cell is made of. -/
def isOfCell : Failure → Bool
  | fault _ | date _ | cornersInvalid _ | partAbsent _ | wrongOperand _ | foreign _ _ => true
  | _ => false

variable {f : Failure}

theorem family_ne_notFound_of_isOfCell (h : f.isOfCell = true) : f.family ≠ .notFound := by
  cases f with
  | fault cause => cases cause <;> simp [family]
  | date cause => cases cause <;> simp [family]
  | cornersInvalid _ => simp [family]
  | partAbsent _ => simp [family]
  | wrongOperand _ => simp [family]
  | foreign _ _ => simp [family]
  | _ => cases h

theorem isStrange_eq_false_of_isOfCell (h : f.isOfCell = true) : f.isStrange = false := by
  cases f with
  | _ => first | rfl | exact nomatch h

end Failure

namespace Outcome

variable {β γ : Type}

/-- Work that fails for causes that lie in what a cell is made of. -/
abbrev Describes (x : Outcome β) : Prop := Ends Any (fun f : Failure => f.isOfCell = true) x

theorem describes_ok (b : β) : Describes (.ok b) := ends_ok trivial

theorem describes_lift (x : Except Fault β) : Describes (liftM x : Outcome β) := by
  cases x with
  | error e => exact ends_error rfl
  | ok b => exact ends_ok trivial

theorem Describes.bind {x : Outcome β} {next : β → Outcome γ} (hx : Describes x)
    (hnext : ∀ b, Describes (next b)) : Describes (x >>= next) := .bind_any hnext hx

theorem Describes.familiar {x : Outcome β} (hx : Describes x) : Familiar x :=
  hx.mono fun _ => Failure.isStrange_eq_false_of_isOfCell

/-- What fails for such a cause has been found. -/
theorem Describes.family_ne_notFound {x : Outcome β} (hx : Describes x) {f : Failure}
    (hf : x = .error f) : f.family ≠ .notFound :=
  Failure.family_ne_notFound_of_isOfCell (hx.failure f hf)

end Outcome

open Outcome

-- ================================================================== places

section
variable {α : Type} [Scalar α]

/-- A point is only asked for its zone if its number is that of one, so the
number of a zone is never refused. -/
theorem Zone.ofPoint_describes (lat lng : α) : Describes (ofPoint lat lng) := by
  unfold ofPoint
  refine (describes_lift _).bind fun n => ?_
  refine .ite (fun hn => ?_) fun _ => describes_ok _
  unfold ofNumber
  refine .ite (fun _ => describes_ok _) fun hzero => ?_
  have hstrip : 1 ≤ n ∧ n ≤ 60 := by omega
  rw [ofStrip, dif_pos hstrip]
  exact describes_ok _

theorem GridZone.ofPoint_describes (p : LatLng α) : Describes (ofPoint p) :=
  (Zone.ofPoint_describes p.lat p.lng).bind fun _ => describes_ok _

end

-- ============================================================= identifiers

theorem Mdgid.parse_describes (text : String) : Describes (parse text) := by
  unfold parse
  dsimp only
  cases splitPart? (Text.trimmed text.toList) with
  | none => exact describes_ok _
  | some p =>
      refine Describes.bind ?_ fun _ => describes_ok _
      unfold partNumber
      exact .ite (fun _ => ends_error rfl) fun _ => describes_ok _

-- ================================================================= filling

namespace Cell

variable {α : Type} (c : Cell α)

theorem supplied_describes {β γ : Type} {derive : γ → Outcome β}
    (hderive : ∀ p, Describes (derive p)) (corner : Option γ) (kept : Option β) :
    Describes (supplied derive corner kept) := by
  cases kept with
  | some b => exact describes_ok _
  | none => exact .mapM_option hderive corner

/-- Steps taken up to the first that fails end with the failure of a step. -/
theorem runSteps_fails {Q : Failure → Prop} {steps : List (Cell α → Outcome (Cell α))}
    (hsteps : ∀ step ∈ steps, ∀ c, Ends Any Q (step c)) {f : Failure}
    (h : (c.runSteps steps).2 = some f) : Q f := by
  induction steps generalizing c with
  | nil => cases h
  | cons step rest ih =>
      unfold runSteps at h
      cases hstep : step c with
      | ok c' =>
          rw [hstep] at h
          exact ih c' (fun step hmem => hsteps step (List.mem_cons_of_mem _ hmem)) h
      | error f' =>
          rw [hstep] at h
          cases h
          exact (hsteps step List.mem_cons_self c).failure f hstep

variable [Scalar α]

theorem dmsOf_describes [NumberText α] (places : Nat) (p : LatLng α) :
    Describes (dmsOf places p) :=
  (describes_lift (Dms.ofLat p.lat)).bind fun _ => (describes_lift (Dms.ofLng p.lng)).bind fun _ =>
    describes_ok _

theorem secondsAt_describes [Elementary α] (p : LatLng α) : Describes (secondsAt p) :=
  (describes_lift (Arc.seconds p.lat)).bind fun _ => describes_ok _

variable [NumberText α] [Elementary α]

/-- A step that supplies one field fails as the field does. -/
theorem step_describes {step : Cell α → Outcome (Cell α)}
    (h : step ∈ [fillZone, fillNorthEastDms, fillSouthWestDms, fillSeconds]) :
    Describes (step c) := by
  simp only [List.mem_cons, List.not_mem_nil, or_false] at h
  rcases h with rfl | rfl | rfl | rfl
  · exact (supplied_describes GridZone.ofPoint_describes _ _).bind fun _ => describes_ok _
  · exact (supplied_describes (dmsOf_describes keptPlaces) _ _).bind fun _ => describes_ok _
  · exact (supplied_describes (dmsOf_describes keptPlaces) _ _).bind fun _ => describes_ok _
  · exact (supplied_describes secondsAt_describes _ _).bind fun _ => describes_ok _

theorem filled_describes : Describes c.filled := by
  unfold filled
  cases hfill : c.fill with
  | mk made failure =>
      cases failure with
      | none => exact describes_ok _
      | some f =>
          have hlast : (c.runSteps [fillZone, fillNorthEastDms, fillSouthWestDms, fillSeconds]).2
              = some f := congrArg Prod.snd hfill
          exact ends_error (c.runSteps_fails (fun _ hstep c => c.step_describes hstep) hlast)

theorem make_describes (id : String) (southWest northEast : LatLng String) :
    Describes (c.make id southWest northEast) :=
  (Mdgid.parse_describes id).bind fun _ => filled_describes _

end Cell

end MapSheets
