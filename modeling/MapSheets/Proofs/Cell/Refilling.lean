import MapSheets.Proofs.Cell.Filling

/-
Filling a cell again. Each of the four steps supplies one field from one
corner (`DerivedField`), so what a step leaves undone it leaves for want of a
corner, and no other step brings corners. That makes a step `Steady`: it takes
nothing away, has nothing to do after itself, and has nothing to do later on
if it once had nothing to do.

A run of steady steps can be taken again from wherever it ended. The steps
before the end find nothing to do, and the step that failed, if one did, sees
the cell that it failed on (`runSteps_again`). So filling is idempotent for a
cell that was filled in part, too (`fill_idempotent`).
-/

namespace MapSheets.Cell

variable {α : Type} {c c' c'' : Cell α}

-- ====================================================== what is not lost

/-- What a cell had is still there as it was. Only of what follows from the
corners there may be more. -/
structure Keeps (c c' : Cell α) : Prop where
  gridZone : ∀ g, c.gridZone = some g → c'.gridZone = some g
  northEastDms : ∀ p, c.northEastDms = some p → c'.northEastDms = some p
  southWestDms : ∀ p, c.southWestDms = some p → c'.southWestDms = some p
  seconds : ∀ s, c.seconds = some s → c'.seconds = some s
  rest : c' = { c with
    gridZone := c'.gridZone, northEastDms := c'.northEastDms
    southWestDms := c'.southWestDms, seconds := c'.seconds }

namespace Keeps

theorem refl (c : Cell α) : c.Keeps c :=
  ⟨fun _ h => h, fun _ h => h, fun _ h => h, fun _ h => h, rfl⟩

theorem trans (h : c.Keeps c') (h' : c'.Keeps c'') : c.Keeps c'' where
  gridZone g hg := h'.gridZone g (h.gridZone g hg)
  northEastDms p hp := h'.northEastDms p (h.northEastDms p hp)
  southWestDms p hp := h'.southWestDms p (h.southWestDms p hp)
  seconds s hs := h'.seconds s (h.seconds s hs)
  rest := by
    rw [h'.rest, h.rest]

theorem southWest (h : c.Keeps c') : c'.southWest = c.southWest := by rw [h.rest]

theorem northEast (h : c.Keeps c') : c'.northEast = c.northEast := by rw [h.rest]

end Keeps

-- ========================================================== steady steps

/-- A step that can be taken again, at once or later. -/
structure Steady (step : Cell α → Outcome (Cell α)) : Prop where
  keeps : ∀ {c c'}, step c = .ok c' → c.Keeps c'
  settles : ∀ {c c'}, step c = .ok c' → step c' = .ok c'
  stays : ∀ {c c'}, step c = .ok c → c.Keeps c' → step c' = .ok c'

section
variable {steps : List (Cell α → Outcome (Cell α))}

/-- A run of steady steps keeps what was there, wherever it ends. -/
theorem keeps_runSteps (hsteps : ∀ step ∈ steps, Steady step) (c : Cell α) :
    c.Keeps (c.runSteps steps).1 := by
  induction steps generalizing c with
  | nil => exact Keeps.refl c
  | cons step rest ih =>
      obtain ⟨hstep, hrest⟩ := List.forall_mem_cons.mp hsteps
      cases hd : step c with
      | error f =>
          rw [runSteps_cons_of_error hd]
          exact Keeps.refl c
      | ok d =>
          rw [runSteps_cons_of_ok hd]
          exact (hstep.keeps hd).trans (ih hrest d)

/-- A run of steady steps comes to the same end once more. -/
theorem runSteps_again (hsteps : ∀ step ∈ steps, Steady step) (c : Cell α) :
    (c.runSteps steps).1.runSteps steps = c.runSteps steps := by
  induction steps generalizing c with
  | nil => rfl
  | cons step rest ih =>
      obtain ⟨hstep, hrest⟩ := List.forall_mem_cons.mp hsteps
      cases hd : step c with
      | error f =>
          -- the step sees the cell that it failed on
          rw [runSteps_cons_of_error hd, runSteps_cons_of_error hd]
      | ok d =>
          -- the step has nothing to do in the cell that the rest leaves
          have hdone : step (d.runSteps rest).1 = .ok (d.runSteps rest).1 :=
            hstep.stays (hstep.settles hd) (keeps_runSteps hrest d)
          rw [runSteps_cons_of_ok hd, runSteps_cons_of_ok hdone]
          exact ih hrest d

end

-- ======================================================= supplied fields

section
variable {β γ : Type} {derive : γ → Outcome β} {corner : Option γ} {old new : Option β}

/-- A field that is there stays. -/
theorem supplied_of_some (h : supplied derive corner old = .ok new) {b : β} (hb : old = some b) :
    new = some b := by
  rw [hb] at h
  exact (Except.ok.inj h).symm

/-- What can be supplied is supplied at once. -/
theorem supplied_again (h : supplied derive corner old = .ok new) :
    supplied derive corner new = .ok new := by
  cases new with
  | some b => rfl
  | none =>
      cases old with
      | none => exact h
      | some b => cases supplied_of_some h rfl

end

/-- A field that follows from a corner: where the two stand in a cell, and how
the one follows from the other. -/
structure DerivedField (α β : Type) where
  corner : Cell α → Option (LatLng α)
  read : Cell α → Option β
  write : Option β → Cell α → Cell α
  derive : LatLng α → Outcome β
  read_write : ∀ b c, read (write b c) = b
  write_read : ∀ c, write (read c) c = c
  keeps_write : ∀ {b c}, (∀ x, read c = some x → b = some x) → c.Keeps (write b c)
  corner_of_keeps : ∀ {c c'}, c.Keeps c' → corner c' = corner c
  read_of_keeps : ∀ {c c'}, c.Keeps c' → ∀ x, read c = some x → read c' = some x

namespace DerivedField

variable {β : Type} (field : DerivedField α β)

/-- The step that supplies a field. -/
def step (c : Cell α) : Outcome (Cell α) := do
  return field.write (← supplied field.derive (field.corner c) (field.read c)) c

/-- A step has nothing to do if its field is as it would be supplied. -/
theorem step_eq_self_iff :
    field.step c = .ok c
      ↔ supplied field.derive (field.corner c) (field.read c) = .ok (field.read c) := by
  unfold step
  rw [Outcome.bind_eq_ok]
  constructor
  · rintro ⟨b, hb, hwrite⟩
    have hread := congrArg field.read (Except.ok.inj hwrite)
    rw [field.read_write] at hread
    rwa [hread] at hb
  · intro h
    exact ⟨_, h, congrArg Except.ok (field.write_read c)⟩

theorem steady : Steady field.step := by
  constructor
  case keeps =>
    intro c c' h
    obtain ⟨b, hb, h⟩ := Outcome.bind_eq_ok.mp h
    cases h
    exact field.keeps_write fun x hx => supplied_of_some hb hx
  case settles =>
    intro c c' h
    obtain ⟨b, hb, h⟩ := Outcome.bind_eq_ok.mp h
    cases h
    rw [step_eq_self_iff, field.read_write,
      field.corner_of_keeps (field.keeps_write fun x hx => supplied_of_some hb hx)]
    exact supplied_again hb
  case stays =>
    intro c c' h hkeeps
    rw [step_eq_self_iff] at h ⊢
    rw [field.corner_of_keeps hkeeps]
    cases hread' : field.read c' with
    | some b => rfl
    | none =>
        cases hread : field.read c with
        | some b =>
            rw [field.read_of_keeps hkeeps b hread] at hread'
            cases hread'
        | none => rwa [hread] at h

end DerivedField

-- ============================================================ the filling

section
variable [Scalar α] [NumberText α] [Elementary α]

/-- The zone, from the north-east corner. -/
def zoneField : DerivedField α GridZone where
  corner := northEast
  read := gridZone
  write b c := { c with gridZone := b }
  derive := GridZone.ofPoint
  read_write _ _ := rfl
  write_read _ := rfl
  keeps_write h := ⟨h, fun _ hp => hp, fun _ hp => hp, fun _ hs => hs, rfl⟩
  corner_of_keeps h := h.northEast
  read_of_keeps h := h.gridZone

/-- The printed north-east corner. -/
def northEastDmsField : DerivedField α (LatLng String) where
  corner := northEast
  read := northEastDms
  write b c := { c with northEastDms := b }
  derive := dmsOf keptPlaces
  read_write _ _ := rfl
  write_read _ := rfl
  keeps_write h := ⟨fun _ hg => hg, h, fun _ hp => hp, fun _ hs => hs, rfl⟩
  corner_of_keeps h := h.northEast
  read_of_keeps h := h.northEastDms

/-- The printed south-west corner. -/
def southWestDmsField : DerivedField α (LatLng String) where
  corner := southWest
  read := southWestDms
  write b c := { c with southWestDms := b }
  derive := dmsOf keptPlaces
  read_write _ _ := rfl
  write_read _ := rfl
  keeps_write h := ⟨fun _ hg => hg, fun _ hp => hp, h, fun _ hs => hs, rfl⟩
  corner_of_keeps h := h.southWest
  read_of_keeps h := h.southWestDms

/-- The arc lengths, at the south-west corner. -/
def secondsField : DerivedField α (LatLng α) where
  corner := southWest
  read := seconds
  write b c := { c with seconds := b }
  derive := secondsAt
  read_write _ _ := rfl
  write_read _ := rfl
  keeps_write h := ⟨fun _ hg => hg, fun _ hp => hp, fun _ hp => hp, h, rfl⟩
  corner_of_keeps h := h.southWest
  read_of_keeps h := h.seconds

/-- Filling supplies the four fields one after the other. -/
theorem fill_eq (c : Cell α) : c.fill = c.runSteps
    [zoneField.step, northEastDmsField.step, southWestDmsField.step, secondsField.step] := rfl

theorem steady_fill : ∀ step ∈ [(zoneField (α := α)).step, northEastDmsField.step,
    southWestDmsField.step, secondsField.step], Steady step := by
  simp [DerivedField.steady]

/-- Filling a cell takes nothing from it and changes nothing that it had. -/
theorem keeps_fill (c : Cell α) : c.Keeps c.fill.1 := by
  rw [fill_eq]
  exact keeps_runSteps steady_fill c

/-- Filling a cell again comes to the same end. -/
theorem fill_again (c : Cell α) : c.fill.1.fill = c.fill := by
  rw [fill_eq, fill_eq]
  exact runSteps_again steady_fill c

/-- Filling changes nothing that a cell has. To fill the cell again that it
leaves, having ended well or in a failure, changes nothing at all and ends in
the same way. This holds whatever the coordinates are, undefined and infinite
ones included, for it rests on no law of their arithmetic. -/
theorem fill_idempotent (c : Cell α) : c.Keeps c.fill.1 ∧ c.fill.1.fill = c.fill :=
  ⟨keeps_fill c, fill_again c⟩

/-- A corner at an undefined latitude has a zone and cannot be printed: the cell
is filled in part. -/
example :
    let (filled, failure) := ({ mdgid := .whole "", northEast := some ⟨0 / 0, 0⟩ } : Cell Float).fill
    filled.gridZone.isSome ∧ filled.northEastDms = none ∧ failure = some (.fault .notANumber) := by
  decide

end

end MapSheets.Cell
