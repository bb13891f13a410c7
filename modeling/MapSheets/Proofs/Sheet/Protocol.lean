import MapSheets.Proofs.Geodesy.Coarse
import MapSheets.Proofs.Sheet.Course

/-
The protocol of a job. However a sheet is asked for, its job is run along one
course (`produce_eq`), through the stages that `JobRequest.stages` lists. From
there the protocol is read off: requested, started, the stages entered, and one
event at the end (`job_protocol`). The provider, the maker of base maps and the
converter may do what they like, as long as they tell no events.
-/

namespace MapSheets

variable {α : Type}

-- ================================================================ stages

namespace Sheet

def exportWork (w : Workshop α) (c : Conversion α) : Work (JobNote α) String := do
  Work.note (.exportAsked c)
  if !(← (w.convert c).relabel .conversion) then Work.fail (.exportFailed c.target)
  return c.target

theorem silent_exportWork (w : Workshop α) (c : Conversion α) : (exportWork w c).Silent := by
  refine .of_bind (.of_note rfl) fun _ =>
    .of_bind (.of_relabel (fun _ => rfl) _) fun converted => ?_
  cases converted with
  | true => exact .of_outcome _
  | false => exact .of_outcome _

theorem onlyIf_exportStage (w : Workshop α) (wanted : Bool) (job : String) (c : Conversion α) :
    onlyIf wanted (exportStage w job c)
      = Course.runOptional job ("exporting " ++ c.format.name)
          (if wanted then some (exportWork w c) else none) := by
  cases wanted <;> rfl

section

variable [Scalar α] [Elementary α]

theorem silent_fetchMap (s : Sheet α) (c : Cell α) (t : Trellis α)
    (draw : MapRequest α → Work DownloadNote String) : (s.fetchMap c t draw).Silent :=
  .of_bind (.of_outcome _) fun request =>
    .of_bind (.of_note rfl) fun _ => .of_relabel (fun _ => rfl) (draw request)

/-- The work of the stage of the base map, where there is one. -/
def mapWork? (w : Workshop α) (s : Sheet α) (c : Cell α) (t : Trellis α) :
    Option (Work (JobNote α) String) :=
  if s.basemap.isTruthy then w.drawMap.map (s.fetchMap c t) else none

theorem mapWork?_isSome (w : Workshop α) (s : Sheet α) (c : Cell α) (t : Trellis α) :
    (mapWork? w s c t).isSome = (s.basemap.isTruthy && w.drawMap.isSome) := by
  unfold mapWork?
  cases s.basemap.isTruthy <;> simp

theorem silent_mapWork (w : Workshop α) (s : Sheet α) (c : Cell α) (t : Trellis α) :
    ∀ work ∈ mapWork? w s c t, work.Silent := by
  intro work hwork
  unfold mapWork? at hwork
  split at hwork
  · obtain ⟨draw, -, rfl⟩ := Option.map_eq_some_iff.mp hwork
    exact silent_fetchMap s c t draw
  · cases hwork

theorem mapStage_eq (w : Workshop α) (s : Sheet α) (job : String) (c : Cell α) (t : Trellis α) :
    mapStage w s job c t = Course.runOptional job "fetching basemap" (mapWork? w s c t) := by
  unfold mapStage mapWork? onlyIf
  cases w.drawMap <;> cases s.basemap.isTruthy <;> rfl

end

variable [Scalar α] [NumberText α] [Elementary α] [Survey α] [NumberReading α] [Exact α]

theorem silent_save (w : Workshop α) (s : Sheet α) (c : Cell α) (t : Trellis α)
    (basemap : Option String) (folder path : String) : (save w s c t basemap folder path).Silent :=
  .of_bind (.of_outcome _) fun _ => .of_bind (.of_outcome _) fun _ =>
    .of_bind (.of_outcome _) fun _ => .of_note rfl

-- =============================================================== courses

/-- The cell that the provider is asked for, if there is a provider. -/
def cellBy (w : Workshop α) (s : Sheet α) (ask : Provider α → Outcome (Cell α)) :
    Outcome (Cell α) :=
  match w.provider with
  | some p => ask p
  | none => .error (.providerMissing s.name)

/-- The way from a cell to the files of its sheet. -/
def cellCourse (w : Workshop α) (s : Sheet α) (folder : String) (c : Cell α) :
    Course (JobNote α) SheetFiles :=
  let path := pathOf folder (s.fileStem c)
  .stage "building trellis" (.ofOutcome (s.trellisOf c)) fun t =>
  .optional "fetching basemap" (mapWork? w s c t) fun basemap =>
  .stage "composing svg" (save w s c t basemap folder (path ".svg")) fun _ =>
  .optional "exporting pdf"
    (if w.wantsPdf then some (exportWork w (.toPdf (path ".svg") (path ".pdf"))) else none)
    fun pdf =>
  .optional "exporting png"
    (if w.wantsPng then some (exportWork w (.toPng (path ".svg") (path ".png") s.dpi)) else none)
    fun png => .finished ⟨path ".svg", pdf, png⟩

/-- The stages from a cell to its files. -/
def cellStages (w : Workshop α) (s : Sheet α) : List String :=
  "building trellis"
    :: ((if s.basemap.isTruthy && w.drawMap.isSome then ["fetching basemap"] else [])
      ++ "composing svg"
        :: ((if w.wantsPdf then ["exporting pdf"] else [])
          ++ ((if w.wantsPng then ["exporting png"] else []) ++ [])))

theorem cellCourse_through (w : Workshop α) (s : Sheet α) (folder : String) (c : Cell α) :
    (cellCourse w s folder c).Through (cellStages w s) :=
  .stage (.of_outcome _) fun t =>
  .optional (mapWork?_isSome w s c t) (silent_mapWork w s c t) fun basemap =>
  .stage (silent_save w s c t basemap folder _) fun _ =>
  .wanted (silent_exportWork w _) fun _ => .wanted (silent_exportWork w _) fun _ => .finished _

theorem produceCell_eq (w : Workshop α) (s : Sheet α) (job : String) (c : Cell α) {folder : String}
    (hs : s.outputFolder = .str folder) :
    produceCell w s job c = do
      let files ← (cellCourse w s folder c).run job
      Work.note (.event job .completed)
      return files := by
  have hfolder : (liftM (folderOf (.str folder)) : Work (JobNote α) String) = pure folder := rfl
  unfold produceCell cellCourse
  simp only [mapStage_eq, onlyIf_exportStage, Course.run, Course.run_optional, bind_assoc,
    pure_bind, hs, hfolder, Conversion.toPdf, Conversion.toPng, ExportFormat.name,
    String.reduceAppend]

end Sheet

-- =============================================================== requests

/-- What the sheet is asked for: a cell, the cell of an identifier, the one at a
point, or the cell that a provider gives in any other way. -/
inductive JobRequest (α : Type) where
  | ofCell (c : Cell α)
  | named (m : Mdgid)
  | atPoint (p : LatLng α) (srid : Int)
  | asked (target : String) (ask : Provider α → Outcome (Cell α))

namespace JobRequest

section

variable [NumberText α]

/-- What the name of the job says of the request. -/
def target : JobRequest α → String
  | ofCell c => c.mdgid.text
  | named m => m.text
  | atPoint p _ => NumberText.shortest p.lat ++ "," ++ NumberText.shortest p.lng
  | asked target _ => target

def job (r : JobRequest α) (s : Sheet α) : String := s.jobName r.target

end

variable [Scalar α] [NumberText α] [Elementary α] [Survey α] [NumberReading α] [Exact α]

def produce (w : Workshop α) (s : Sheet α) : JobRequest α → Work (JobNote α) SheetFiles
  | ofCell c => s.produce w c
  | named m => s.produceNamed w m
  | atPoint p srid => s.produceAt w p srid
  | asked target ask => s.runJob w (s.jobName target) (s.lookUp w (s.jobName target) ask)

/-- How the provider is asked for the cell; not at all if the cell is given. -/
def ask : JobRequest α → Cell α ⊕ (Provider α → Outcome (Cell α))
  | ofCell c => .inl c
  | named m => .inr (·.cellNamed m)
  | atPoint p srid => .inr (·.cellAt p srid)
  | asked _ ask => .inr ask

/-- The stages of the job: the lookup where the cell is not given, and those from the cell on. -/
def stages (w : Workshop α) (s : Sheet α) (r : JobRequest α) : List String :=
  (if r.ask.isRight then ["cell lookup"] else []) ++ s.cellStages w

/-- The way from the request to the files. -/
def course (w : Workshop α) (s : Sheet α) (folder : String) (r : JobRequest α) :
    Course (JobNote α) SheetFiles :=
  match r.ask with
  | .inl c => s.cellCourse w folder c
  | .inr ask =>
    .stage "cell lookup" (.ofOutcome (s.cellBy w ask)) (s.cellCourse w folder)

theorem course_through (w : Workshop α) (s : Sheet α) (folder : String) (r : JobRequest α) :
    (r.course w s folder).Through (r.stages w s) := by
  unfold course stages
  cases r.ask with
  | inl c => exact s.cellCourse_through w folder c
  | inr ask => exact .stage (.of_outcome _) fun c => s.cellCourse_through w folder c

/-- Every request is run along its course. -/
theorem produce_eq (w : Workshop α) (s : Sheet α) (r : JobRequest α) {folder : String}
    (hs : s.outputFolder = .str folder) :
    r.produce w s = do
      Work.note (.event (r.job s) .requested)
      Work.note (.event (r.job s) .started)
      let files ← (r.course w s folder).run (r.job s)
      Work.note (.event (r.job s) .completed)
      return files := by
  -- the lookup is one more stage in front; only how the provider is asked differs
  have hlooked (job : String) (ask : Provider α → Outcome (Cell α)) :
      s.runJob w job (s.lookUp w job ask) = do
        Work.note (.event job .requested)
        Work.note (.event job .started)
        let files ← (Course.stage "cell lookup" (.ofOutcome (s.cellBy w ask))
          (s.cellCourse w folder)).run job
        Work.note (.event job .completed)
        return files := by
    simp only [Sheet.runJob, Sheet.produceCell_eq _ _ _ _ hs, Course.run, bind_assoc]
    rfl
  cases r with
  | ofCell c =>
      simp only [produce, Sheet.produce, Sheet.runJob, Sheet.produceCell_eq _ _ _ _ hs, pure_bind]
      rfl
  | named m => exact hlooked _ _
  | atPoint p srid => exact hlooked _ _
  | asked target ask => exact hlooked _ _

theorem produce_done {w : Workshop α} {s : Sheet α} {r : JobRequest α} {folder : String}
    {files : SheetFiles} (hs : s.outputFolder = .str folder)
    (h : (r.course w s folder).outcome = .ok files) :
    r.produce w s = ⟨[.event (r.job s) .requested, .event (r.job s) .started]
      ++ (r.course w s folder).runs.flatMap (·.told (r.job s))
      ++ [.event (r.job s) .completed], .ok files⟩ := by
  rw [produce_eq w s r hs, Course.run_eq, h]
  simp [bind, Work.andThen, Work.note, pure, Work.done]

theorem produce_failed {w : Workshop α} {s : Sheet α} {r : JobRequest α} {folder : String}
    {f : Failure} (hs : s.outputFolder = .str folder)
    (h : (r.course w s folder).outcome = .error f) :
    r.produce w s = ⟨[.event (r.job s) .requested, .event (r.job s) .started]
      ++ (r.course w s folder).runs.flatMap (·.told (r.job s)), .error f⟩ := by
  rw [produce_eq w s r hs, Course.run_eq, h]
  simp [bind, Work.andThen, Work.note]

theorem runs_ne_nil (w : Workshop α) (s : Sheet α) (folder : String) (r : JobRequest α) :
    (r.course w s folder).runs ≠ [] := by
  intro hnil
  have hnames := (r.course_through w s folder).runs_names.2
    (hnil ▸ fun _ h => absurd h List.not_mem_nil)
  rw [hnil, stages, Sheet.cellStages] at hnames
  simp at hnames

end JobRequest

namespace Sheet

-- ============================================================== protocol

section

variable [Scalar α] [NumberText α] [Elementary α] [Survey α] [NumberReading α] [Exact α]

/-- The protocol of a job whose output folder is a text. After the request and
the start the stages are told as they are entered, in their order and at least
one; only the last can have failed. One event ends the job. If nothing failed
it is the completion: all stages were entered, and there are files. Otherwise
it is the failure of the last stage, which the job ends with. -/
theorem job_protocol (w : Workshop α) (s : Sheet α) (r : JobRequest α) {folder : String}
    (hs : s.outputFolder = .str folder) :
    ∃ earlier last terminal,
      (r.course w s folder).runs = earlier ++ [last]
        ∧ (∀ run ∈ earlier, run.failure = none)
        ∧ (r.course w s folder).runs.map (·.name) <+: r.stages w s
        ∧ (r.produce w s).notes
          = [.event (r.job s) .requested, .event (r.job s) .started]
            ++ (r.course w s folder).runs.flatMap (·.begun (r.job s)) ++ [.event (r.job s) terminal]
        ∧ (r.produce w s).notes.filterMap JobNote.event?
          = (Event.sequence ((r.course w s folder).runs.map (·.name)) terminal).map (r.job s, ·)
        ∧ (last.failure = none ∧ terminal = .completed
              ∧ (r.course w s folder).runs.map (·.name) = r.stages w s
              ∧ (∃ files, (r.produce w s).outcome = .ok files)
            ∨ ∃ f, last.failure = some f ∧ terminal = Event.ofFailure last.name f
              ∧ (r.produce w s).outcome = .error f) := by
  have hthrough := r.course_through w s folder
  obtain ⟨hfront, hcomplete⟩ := hthrough.runs_names
  have hevents := StageRun.events_begun (r.job s) hthrough.silent
  rcases (r.course w s folder).runs_ends with ⟨hall, files, hfiles⟩
    | ⟨earlier, last, f, hruns, hearlier, hlast, hf⟩
  · -- every stage succeeded; the last one is only named here
    obtain ⟨earlier, last, hruns⟩ :=
      (List.eq_nil_or_concat' _).resolve_left (r.runs_ne_nil w s folder)
    rw [JobRequest.produce_done hs hfiles, StageRun.flatMap_told _ hall]
    have hends := List.forall_mem_append.mp (hruns ▸ hall)
    exact ⟨earlier, last, .completed, hruns, hends.1, hfront, rfl, hevents _,
      Or.inl ⟨hends.2 last (List.mem_singleton.mpr rfl), rfl, hcomplete hall, files, rfl⟩⟩
  · -- a stage failed; its failure is told behind its notes, and so comes last
    rw [JobRequest.produce_failed hs hf]
    have htold : (r.course w s folder).runs.flatMap (·.told (r.job s))
        = (r.course w s folder).runs.flatMap (·.begun (r.job s))
          ++ [.event (r.job s) (Event.ofFailure last.name f)] := by
      rw [hruns, List.flatMap_append, List.flatMap_append, StageRun.flatMap_told _ hearlier,
        List.flatMap_singleton, List.flatMap_singleton, StageRun.told_of_failure _ hlast,
        List.append_assoc]
    rw [htold, ← List.append_assoc]
    exact ⟨earlier, last, Event.ofFailure last.name f, hruns, hearlier, hfront, rfl, hevents _,
      Or.inr ⟨f, hlast, rfl, rfl⟩⟩

end

open scoped Coarse in
/-- A base map that cannot be had ends the job in the third of its stages. The
cause has no text, so it is told by its name. -/
theorem job_protocol_without_map :
    let s : Sheet Rat := { name := "50k" }
    let w : Workshop Rat :=
      { provider := some (Coarse.tableOver ⟨23 / 4, -1 / 4, 6, 0⟩)
        drawMap := some fun _ => Work.fail (.foreign "OSError" "")
        convert := fun _ => pure true
        wantsPdf := true }
    let r : JobRequest Rat := .named (.whole "A")
    r.stages w s
        = ["cell lookup", "building trellis", "fetching basemap", "composing svg", "exporting pdf"]
      ∧ (r.produce w s).notes.filterMap JobNote.event?
        = (Event.sequence ["cell lookup", "building trellis", "fetching basemap"]
            (.failed (.str "fetching basemap") (.str "OSError"))).map ("50k@A", ·)
      ∧ (r.produce w s).outcome = .error (.foreign "OSError" "") := by
  intro s w r
  obtain ⟨earlier, last, terminal, hruns, -, -, -, hevents, hend⟩ :=
    job_protocol w s r (rfl : s.outputFolder = .str "output")
  have hentered : (r.course w s "output").runs.map (fun run => (run.name, run.failure))
      = [("cell lookup", none), ("building trellis", none),
        ("fetching basemap", some (.foreign "OSError" ""))] := by
    decide +kernel
  have hnames : (r.course w s "output").runs.map (·.name)
      = ["cell lookup", "building trellis", "fetching basemap"] := by
    simpa [Function.comp_def] using congrArg (List.map Prod.fst) hentered
  have hlast : last.name = "fetching basemap" ∧ last.failure = some (.foreign "OSError" "") := by
    simpa [hruns] using congrArg List.getLast? hentered
  rcases hend with ⟨hnone, -⟩ | ⟨f, hf, rfl, houtcome⟩
  · cases hnone.symm.trans hlast.2
  · cases hf.symm.trans hlast.2
    refine ⟨by decide +kernel, ?_, houtcome⟩
    rw [hevents, hnames, hlast.1]
    rfl

end Sheet

end MapSheets
