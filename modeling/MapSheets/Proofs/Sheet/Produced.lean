import MapSheets.Proofs.Sheet.Familiar
import MapSheets.Proofs.Work

/-
What becomes of a job. If it ends well its drawing was saved under the path that
it tells (`Sheet.runJob_saves`), and a sheet that was accepted fails in no
strange way if what the workshop does for it does not (`Sheet.runJob_familiar`).
-/

namespace MapSheets

open Outcome

variable {α β : Type} {job : String}

namespace Sheet

section
variable {name : String} {w : Work (JobNote α) β} {n : JobNote α}

theorem outcome_stage : (stage job name w).outcome = w.outcome := by
  unfold stage
  cases w.outcome with
  | error f => rfl
  | ok b => rfl

theorem mem_notes_stage (h : n ∈ w.notes) : n ∈ (stage job name w).notes := by
  unfold stage
  cases w.outcome with
  | error f => exact List.mem_append_left _ (List.mem_cons_of_mem _ h)
  | ok b => exact List.mem_cons_of_mem _ h

end

-- ================================================================= drawings

section
variable [Scalar α] [NumberText α] [Elementary α] [Survey α] [NumberReading α] [Exact α]
  {w : Workshop α} {s : Sheet α} {c : Cell α} {files : SheetFiles}

/-- A drawing is among the notes as saved under a path. -/
def SavedAt (path : String) (notes : List (JobNote α)) : Prop :=
  ∃ drawing, JobNote.saved path drawing ∈ notes

theorem save_saves {t : Trellis α} {basemap : Option String} {folder path : String}
    (h : (save w s c t basemap folder path).outcome = .ok ()) :
    SavedAt path (save w s c t basemap folder path).notes := by
  unfold save at h ⊢
  obtain ⟨made, hmade, h⟩ := Work.outcome_bind_eq_ok.mp h
  obtain ⟨drawing, hdrawing, h⟩ := Work.outcome_bind_eq_ok.mp h
  obtain ⟨_, hfree, -⟩ := Work.outcome_bind_eq_ok.mp h
  refine ⟨drawing, Work.mem_notes_bind_right hmade (Work.mem_notes_bind_right hdrawing ?_)⟩
  exact Work.mem_notes_bind_right hfree (List.mem_singleton.mpr rfl)

/-- A job that goes from a cell to files has saved the drawing that they tell of. -/
theorem produceCell_saves (h : (produceCell w s job c).outcome = .ok files) :
    SavedAt files.svg (produceCell w s job c).notes := by
  unfold produceCell at h ⊢
  obtain ⟨t, ht, h⟩ := Work.outcome_bind_eq_ok.mp h
  obtain ⟨basemap, hbasemap, h⟩ := Work.outcome_bind_eq_ok.mp h
  obtain ⟨folder, hfolder, h⟩ := Work.outcome_bind_eq_ok.mp h
  obtain ⟨_, hsaved, h⟩ := Work.outcome_bind_eq_ok.mp h
  obtain ⟨pdf, -, h⟩ := Work.outcome_bind_eq_ok.mp h
  obtain ⟨png, -, h⟩ := Work.outcome_bind_eq_ok.mp h
  cases h
  rw [outcome_stage] at hsaved
  obtain ⟨drawing, hdrawing⟩ := save_saves hsaved
  refine ⟨drawing, Work.mem_notes_bind_right ht (Work.mem_notes_bind_right hbasemap ?_)⟩
  refine Work.mem_notes_bind_right hfolder (Work.mem_notes_bind_left ?_)
  exact mem_notes_stage hdrawing

theorem runJob_saves {find : Work (JobNote α) (Cell α)}
    (h : (runJob w s job find).outcome = .ok files) :
    SavedAt files.svg (runJob w s job find).notes := by
  unfold runJob at h ⊢
  obtain ⟨_, hrequested, h⟩ := Work.outcome_bind_eq_ok.mp h
  obtain ⟨_, hstarted, h⟩ := Work.outcome_bind_eq_ok.mp h
  obtain ⟨c, hfind, h⟩ := Work.outcome_bind_eq_ok.mp h
  obtain ⟨drawing, hdrawing⟩ := produceCell_saves h
  refine ⟨drawing, Work.mem_notes_bind_right hrequested (Work.mem_notes_bind_right hstarted ?_)⟩
  exact Work.mem_notes_bind_right hfind hdrawing

-- ================================================================= trellises

omit [NumberReading α] [Exact α] in
/-- No trellis is made of a cell unless its first corner lies west and south of the
second. -/
theorem trellisOf_of_exchanged {spacing : Spacing} {p q : LatLng α}
    (hspacing : s.gridSpacing = .ok spacing) (hsouthWest : c.southWest = some p)
    (hnorthEast : c.northEast = some q) (h : ¬(p.lng < q.lng ∧ p.lat < q.lat)) :
    ∃ f, s.trellisOf c = .error f ∧ f.isOfTrellis = true := by
  refine ⟨.frameInvalid (Trellis.pointText ⟨p.lng, q.lat⟩) (Trellis.pointText ⟨q.lng, p.lat⟩),
    ?_, rfl⟩
  have htopLeft : c.northWestCorner = .ok ⟨p.lng, q.lat⟩ := by
    unfold Cell.northWestCorner Cell.corner
    simp only [hsouthWest, hnorthEast]
    rfl
  have hbottomRight : c.southEastCorner = .ok ⟨q.lng, p.lat⟩ := by
    unfold Cell.southEastCorner Cell.corner
    simp only [hsouthWest, hnorthEast]
    rfl
  unfold trellisOf Trellis.ofCell Trellis.ofFrame
  rw [hspacing, htopLeft, hbottomRight]
  exact if_pos h

/-- A job whose cell has no trellis fails with the reason for that. -/
theorem runJob_of_trellis {find : Work (JobNote α) (Cell α)} {f : Failure}
    (hfind : find.outcome = .ok c) (htrellis : s.trellisOf c = .error f) :
    (runJob w s job find).outcome = .error f := by
  unfold runJob
  rw [Work.outcome_note, Work.outcome_note, Work.outcome_bind_ok hfind]
  unfold produceCell
  refine Work.outcome_bind_error ?_ _
  rw [outcome_stage]
  exact htrellis

end

end Sheet

-- ================================================================= failures

@[simp] theorem Files.makeFolder_familiar (files : Files) (path : String) :
    Familiar (files.makeFolder path) := by
  have hone : ∀ made path, Familiar (files.makeOne made path) := by
    intro made path
    unfold makeOne
    split
    case h_1 => exact familiar_ok _
    case h_2 => exact familiar_ok _
    all_goals exact ends_error rfl
  unfold makeFolder
  refine .unless (fun _ => rfl) fun _ => ?_
  split
  case h_1 => exact Familiar.foldlM hone _ _
  case h_2 => exact hone _ _

/-- Conversions, and base maps if any are made, that fail in no strange way. -/
structure Workshop.Familiar (w : Workshop α) : Prop where
  drawMap : ∀ draw ∈ w.drawMap, ∀ r, (draw r).Familiar
  convert : ∀ c, (w.convert c).Familiar

namespace Sheet

@[simp] theorem stage_familiar {name : String} {w : Work (JobNote α) β} :
    (stage job name w).Familiar ↔ w.Familiar := by
  unfold Work.Familiar
  rw [outcome_stage]

@[simp] theorem onlyIf_familiar {w : Work (JobNote α) β} (h : w.Familiar) (condition : Bool) :
    (onlyIf condition w).Familiar := by
  cases condition with
  | true => exact h.bind fun _ => Work.familiar_pure _
  | false => exact Work.familiar_pure _

@[simp] theorem folderOf_familiar (folder : Json) : Familiar (folderOf folder) := by
  cases folder
  case str text => exact familiar_ok _
  all_goals exact ends_error rfl

theorem exportStage_familiar {w : Workshop α} (h : w.Familiar) (c : Conversion α) :
    (exportStage w job c).Familiar := by
  refine stage_familiar.mpr ((Work.familiar_note _).bind fun _ => ?_)
  refine Work.Familiar.bind (h.convert c) fun made => ?_
  exact Work.Familiar.unless (fun _ => rfl) fun _ => Work.familiar_pure _

variable {w : Workshop α} {s : Sheet α}

theorem lookUp_familiar {ask : Provider α → Outcome (Cell α)} (h : ∀ p, Familiar (ask p)) :
    (lookUp w s job ask).Familiar := by
  refine stage_familiar.mpr ?_
  unfold Work.Familiar Work.ofOutcome
  cases w.provider with
  | none => exact ends_error rfl
  | some p => exact h p

variable [Scalar α] [Elementary α] {c : Cell α}

theorem mapStage_familiar (h : w.Familiar) (t : Trellis α) :
    (mapStage w s job c t).Familiar := by
  unfold mapStage
  split
  case h_1 draw hdraw =>
    refine onlyIf_familiar (stage_familiar.mpr ?_) _
    simp [fetchMap, mapRequest, h.drawMap draw hdraw]
  case h_2 => exact Work.familiar_pure _

variable [NumberText α] [Survey α] [NumberReading α] [Exact α] [FamiliarSurvey α] [OfDouble α]

theorem save_familiar (h : s.Accepted) (t : Trellis α) (basemap : Option String)
    (folder path : String) : (save w s c t basemap folder path).Familiar := by
  unfold save
  refine Work.Familiar.bind (w.files.makeFolder_familiar _) fun made => ?_
  refine Work.Familiar.bind (compose_familiar h c t basemap) fun drawing => ?_
  simp

theorem produceCell_familiar (hw : w.Familiar) (h : s.Accepted) :
    (produceCell w s job c).Familiar := by
  unfold produceCell
  refine Work.Familiar.bind (stage_familiar.mpr ?_) fun t => ?_
  · exact (familiar_ofFault _).bind fun spacing => Trellis.ofCell_familiar _ _ c
  refine (mapStage_familiar hw t).bind fun basemap => ?_
  refine Work.Familiar.bind (folderOf_familiar _) fun folder => ?_
  refine (stage_familiar.mpr (save_familiar h t _ _ _)).bind fun _ => ?_
  simp [exportStage_familiar hw]

/-- Finding the cell in a way that is familiar, and then its sheet. -/
theorem runJob_familiar (hw : w.Familiar) (h : s.Accepted) {find : Work (JobNote α) (Cell α)}
    (hfind : find.Familiar) : (runJob w s job find).Familiar := by
  unfold runJob
  refine (Work.familiar_note _).bind fun _ => (Work.familiar_note _).bind fun _ => ?_
  exact hfind.bind fun c => produceCell_familiar hw h

end Sheet

end MapSheets
