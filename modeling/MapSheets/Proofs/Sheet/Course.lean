import MapSheets.Proofs.Work
import MapSheets.Sheet.Production
import Mathlib.Data.List.Basic

/-
Courses of jobs. A course is a way through stages: each has its work, and what
comes next may depend on the result. A course says nothing of events; what it
enters is the list of its `runs`, of which only the last one can have failed
(`runs_ends`). Run as a job, it tells every stage that it enters before the
notes of its work, and a failure behind them (`run_eq`).

A course has the same stages wherever it leads if none of them is there by the
result of another. `Through` says which they are, and that their work tells no
events of its own, so that all events of a job are those of its stages
(`events_begun`).
-/

namespace MapSheets

-- ============================================================== courses

inductive Course (ν β : Type) : Type 1 where
  | finished (b : β)
  | stage {γ : Type} (name : String) (work : Work ν γ) (next : γ → Course ν β)

/-- A stage that was entered: the notes of its work, and the failure that ended it. -/
structure StageRun (ν : Type) where
  name : String
  notes : List ν
  failure : Option Failure

namespace Course

variable {ν β γ : Type}

/-- A stage that may be left out. -/
def optional (name : String) (work? : Option (Work ν γ)) (next : Option γ → Course ν β) :
    Course ν β :=
  match work? with
  | some work => stage name work fun c => next (some c)
  | none => next none

/-- The stages that are entered, up to the first that fails. -/
def runs : Course ν β → List (StageRun ν)
  | finished _ => []
  | stage name work next =>
    match work.outcome with
    | .ok c => ⟨name, work.notes, none⟩ :: (next c).runs
    | .error f => [⟨name, work.notes, some f⟩]

def outcome : Course ν β → Outcome β
  | finished b => .ok b
  | stage _ work next =>
    match work.outcome with
    | .ok c => (next c).outcome
    | .error f => .error f

/-- Either every stage succeeded, or the last one that was entered failed and
the course ends with its failure. -/
theorem runs_ends : ∀ c : Course ν β,
    ((∀ run ∈ c.runs, run.failure = none) ∧ ∃ b, c.outcome = .ok b)
      ∨ ∃ earlier last f, c.runs = earlier ++ [last] ∧ (∀ run ∈ earlier, run.failure = none)
        ∧ last.failure = some f ∧ c.outcome = .error f := by
  intro c
  induction c with
  | finished b => exact Or.inl ⟨fun _ h => absurd h List.not_mem_nil, b, rfl⟩
  | stage name work next ih =>
      unfold runs outcome
      cases work.outcome with
      | error f =>
          exact Or.inr ⟨[], _, f, rfl, fun _ h => absurd h List.not_mem_nil, rfl, rfl⟩
      | ok b =>
          -- the stage comes before whatever the rest of the course enters
          dsimp only
          rcases ih b with ⟨hall, b', hb'⟩ | ⟨earlier, last, f, hruns, hearlier, hlast, hf⟩
          · exact Or.inl ⟨List.forall_mem_cons.mpr ⟨rfl, hall⟩, b', hb'⟩
          · refine Or.inr ⟨⟨name, work.notes, none⟩ :: earlier, last, f, ?_, ?_, hlast, hf⟩
            · rw [hruns]
              rfl
            · exact List.forall_mem_cons.mpr ⟨rfl, hearlier⟩

end Course

variable {α β γ : Type}

def Work.Silent (w : Work (JobNote α) β) : Prop := ∀ n ∈ w.notes, n.event? = none

namespace Course

/-- A course through stages of these names, whose work tells no events. -/
inductive Through : List String → Course (JobNote α) β → Prop
  | finished (b : β) : Through [] (finished b)
  | stage {γ : Type} {name : String} {names : List String} {work : Work (JobNote α) γ}
      {next : γ → Course (JobNote α) β} :
      work.Silent → (∀ c, Through names (next c)) → Through (name :: names) (stage name work next)

theorem Through.optional {name : String} {names : List String} {wanted : Bool}
    {work? : Option (Work (JobNote α) γ)} {next : Option γ → Course (JobNote α) β}
    (hwanted : work?.isSome = wanted) (hsilent : ∀ work ∈ work?, work.Silent)
    (hnext : ∀ c, Through names (next c)) :
    Through ((if wanted then [name] else []) ++ names) (Course.optional name work? next) := by
  subst hwanted
  cases work? with
  | some work => exact .stage (hsilent work rfl) fun c => hnext (some c)
  | none => exact hnext none

theorem Through.wanted {wanted : Bool} {name : String} {names : List String}
    {work : Work (JobNote α) γ} {next : Option γ → Course (JobNote α) β} (hsilent : work.Silent)
    (hnext : ∀ c, Through names (next c)) :
    Through ((if wanted then [name] else []) ++ names)
      (Course.optional name (if wanted then some work else none) next) := by
  cases wanted with
  | true => exact .stage hsilent fun c => hnext (some c)
  | false => exact hnext none

/-- The stages entered come first among the stages, and they are all of them if
none failed. -/
theorem Through.runs_names {names : List String} {c : Course (JobNote α) β}
    (h : Through names c) :
    c.runs.map (·.name) <+: names
      ∧ ((∀ run ∈ c.runs, run.failure = none) → c.runs.map (·.name) = names) := by
  induction h with
  | finished b => exact ⟨List.nil_prefix, fun _ => rfl⟩
  | @stage _ name names work next _ _ ih =>
      unfold runs
      cases work.outcome with
      | error f =>
          refine ⟨⟨names, rfl⟩, fun hall => ?_⟩
          cases hall _ List.mem_cons_self
      | ok b =>
          obtain ⟨hfront, hall⟩ := ih b
          refine ⟨(List.prefix_cons_inj name).mpr hfront, fun hnone => ?_⟩
          exact congrArg (name :: ·) (hall (List.forall_mem_cons.mp hnone).2)

theorem Through.silent {names : List String} {c : Course (JobNote α) β} (h : Through names c) :
    ∀ run ∈ c.runs, ∀ n ∈ run.notes, n.event? = none := by
  induction h with
  | finished b => exact fun _ h => absurd h List.not_mem_nil
  | @stage _ name names work next hsilent _ ih =>
      unfold runs
      cases work.outcome with
      | error f => exact List.forall_mem_singleton.mpr hsilent
      | ok b => exact List.forall_mem_cons.mpr ⟨hsilent, ih b⟩

/-- A course as a job. -/
def run (job : String) : Course (JobNote α) β → Work (JobNote α) β
  | finished b => pure b
  | stage name work next => do (next (← Sheet.stage job name work)).run job

/-- The part of a job that is a stage which may be left out. -/
def runOptional (job name : String) :
    Option (Work (JobNote α) γ) → Work (JobNote α) (Option γ)
  | some work => do return some (← Sheet.stage job name work)
  | none => return none

theorem run_optional (job name : String) (work? : Option (Work (JobNote α) γ))
    (next : Option γ → Course (JobNote α) β) :
    (optional name work? next).run job
      = runOptional job name work? >>= fun c => (next c).run job := by
  cases work? with
  | none => rfl
  | some work =>
      unfold runOptional
      dsimp only
      rw [bind_assoc]
      rfl

end Course

/-- The events of a job that enters stages and ends with one more event. -/
def Event.sequence (stages : List String) (terminal : Event) : List Event :=
  [requested, started] ++ stages.map (fun name => processing (.str name)) ++ [terminal]

namespace StageRun

/-- What a job tells of a stage up to its end: that it begins, then the notes of its work. -/
def begun (job : String) (run : StageRun (JobNote α)) : List (JobNote α) :=
  .event job (.processing (.str run.name)) :: run.notes

/-- What a job tells of a stage, with its failure. -/
def told (job : String) (run : StageRun (JobNote α)) : List (JobNote α) :=
  run.begun job ++ (run.failure.map fun f => .event job (Event.ofFailure run.name f)).toList

theorem flatMap_told (job : String) {runs : List (StageRun (JobNote α))}
    (h : ∀ run ∈ runs, run.failure = none) :
    runs.flatMap (·.told job) = runs.flatMap (·.begun job) :=
  List.flatMap_congr fun run hrun => by simp [told, h run hrun]

theorem told_of_failure (job : String) {run : StageRun (JobNote α)} {f : Failure}
    (h : run.failure = some f) :
    run.told job = run.begun job ++ [.event job (Event.ofFailure run.name f)] := by
  simp [told, h]

theorem events_begun (job : String) {runs : List (StageRun (JobNote α))}
    (h : ∀ run ∈ runs, ∀ n ∈ run.notes, n.event? = none) (terminal : Event) :
    List.filterMap JobNote.event? ([.event job .requested, .event job .started]
        ++ runs.flatMap (·.begun job) ++ [.event job terminal])
      = (Event.sequence (runs.map (·.name)) terminal).map (job, ·) := by
  have hruns : (runs.flatMap (·.begun job)).filterMap JobNote.event?
      = (runs.map fun run => Event.processing (.str run.name)).map (job, ·) := by
    rw [List.filterMap_flatMap, List.map_map, List.map_eq_flatMap]
    refine List.flatMap_congr fun run hrun => ?_
    rw [begun, List.filterMap_cons, List.filterMap_eq_nil_iff.mpr (h run hrun)]
    rfl
  simp [Event.sequence, hruns, JobNote.event?]

end StageRun

namespace Course

/-- Run as a job, a course tells the stages that it enters, and ends as the course ends. -/
theorem run_eq (job : String) (c : Course (JobNote α) β) :
    c.run job = ⟨c.runs.flatMap (·.told job), c.outcome⟩ := by
  induction c with
  | finished b => rfl
  | stage name work next ih =>
      unfold run runs outcome
      obtain ⟨notes, o⟩ := work
      cases o with
      | error f => simp [Sheet.stage, StageRun.told, StageRun.begun, bind, Work.andThen]
      | ok b => simp [Sheet.stage, StageRun.told, StageRun.begun, bind, Work.andThen, ih b]

end Course

-- ========================================================== silent work

namespace Work.Silent

theorem of_bind {w : Work (JobNote α) β} {next : β → Work (JobNote α) γ} (hw : w.Silent)
    (hnext : ∀ b, (next b).Silent) : (w >>= next).Silent :=
  forall_notes_bind hw hnext

theorem of_outcome (o : Outcome β) : (ofOutcome o : Work (JobNote α) β).Silent :=
  fun _ h => absurd h List.not_mem_nil

theorem of_note {n : JobNote α} (hn : n.event? = none) : (note n).Silent :=
  List.forall_mem_singleton.mpr hn

theorem of_relabel {ν : Type} {tell : ν → JobNote α} (htell : ∀ n, (tell n).event? = none)
    (w : Work ν β) : (w.relabel tell).Silent := by
  intro n hn
  obtain ⟨m, -, rfl⟩ := List.mem_map.mp hn
  exact htell m

end Work.Silent

end MapSheets
