import MapSheets.Proofs.Cell.Familiar
import MapSheets.Proofs.Source.Describing
import MapSheets.Proofs.Source.Loading
import MapSheets.Source.Kinds

/-
Sources of cells fail in no strange way: asking a table or the parts of its
cells, and loading what a configuration lists.
-/

namespace MapSheets

open Outcome

-- ================================================================== tables

@[simp] theorem CellSize.published?_familiar (denominator : Int) :
    Familiar (published? denominator) := by
  unfold published?
  split
  case h_1 => exact familiar_ok _
  case h_2 => exact ends_error rfl

section
variable {α : Type} {move : Point α → Outcome (Point α)} (hmove : ∀ p, Familiar (move p))

include hmove in
@[simp] theorem Polygon.mapPoints_familiar (p : Polygon α) : Familiar (p.mapPoints move) := by
  simp [mapPoints, hmove]

include hmove in
@[simp] theorem Shape.mapPoints_familiar (s : Shape α) : Familiar (s.mapPoints move) := by
  unfold mapPoints
  refine (Familiar.mapM hmove s.points).bind fun points => ?_
  refine (Familiar.mapM (fun line => .mapM hmove line) s.lines).bind fun lines => ?_
  refine (Familiar.mapM (Polygon.mapPoints_familiar hmove) s.areas).bind fun areas => ?_
  exact familiar_pure _

end

namespace CellTable

variable {α : Type}

@[simp] theorem relocate_familiar [Survey α] [FamiliarSurvey α] (srid : Int) (p : Point α) :
    Familiar (relocate srid p) := by
  simp [relocate]

variable [Scalar α]

@[simp] theorem evenColumns_familiar (features : List (Feature α)) :
    Familiar (evenColumns features) := by
  unfold evenColumns
  refine Familiar.mapM (fun f => ?_) _
  refine Familiar.bind (Familiar.mapM (fun entry => ?_) _) fun _ => familiar_pure _
  dsimp only
  split
  case h_1 => simp
  case h_2 => exact familiar_pure _

@[simp] theorem ofFeatures_familiar [Survey α] [FamiliarSurvey α] (srid : Option Int)
    (features : List (Feature α)) (denominator : Int) :
    Familiar (ofFeatures srid features denominator) := by
  cases srid with
  | none => simp [ofFeatures]
  | some srid =>
      have hmove : ∀ f : Feature α, Familiar (f.shape.mapM (·.mapPoints (relocate srid))) :=
        fun f => .mapM_option (Shape.mapPoints_familiar (relocate_familiar srid)) f.shape
      simp [ofFeatures, hmove]

variable [NumberText α] [NumberReading α] [Elementary α] (t : CellTable α)

@[simp] theorem cellAt_familiar [Exact α] [Survey α] [FamiliarSurvey α] (p : LatLng α)
    (srid : Int) : Familiar (t.cellAt p srid) := by
  unfold cellAt
  refine (toGeographic_familiar _ _ _).bind fun q => ?_
  dsimp only
  split
  case h_1 => exact ends_error rfl
  case h_2 => exact (Feature.cell_describes _).familiar

@[simp] theorem cellNamed_familiar (m : Mdgid) : Familiar (t.cellNamed m) := by
  unfold cellNamed
  refine .unless (fun _ => rfl) fun _ => ?_
  split
  case h_1 => exact ends_error rfl
  case h_2 => exact (Feature.cell_describes _).familiar

end CellTable

-- =============================================================== providers

namespace Provider

section
variable {α : Type} [Scalar α] [NumberText α] [NumberReading α] [Elementary α]

/-- The cell of a point is found, or not found in a way that is reported, also
in parts of parts. -/
@[simp] theorem cellAt_familiar [Exact α] [Survey α] [FamiliarSurvey α] (p : LatLng α) (srid : Int)
    (provider : Provider α) : Familiar (provider.cellAt p srid) := by
  induction provider with
  | table t => exact t.cellAt_familiar p srid
  | single cell size => exact familiar_ok _
  | parts mode base ih =>
      unfold cellAt
      simp [ih]

@[simp] theorem cellNamed_familiar (m : Mdgid) (provider : Provider α) :
    Familiar (provider.cellNamed m) := by
  induction provider generalizing m with
  | table t => exact t.cellNamed_familiar m
  | single cell size => exact familiar_ok _
  | parts mode base ih =>
      unfold cellNamed
      refine .ite (fun _ => ends_error rfl) fun _ => ?_
      simp [ih]

end

@[simp] theorem ofParts_familiar {α : Type} (mode : PartMode) (base : Provider α) :
    Familiar (ofParts mode base) := by
  unfold ofParts
  exact .ite (fun _ => familiar_ok _) fun _ => ends_error rfl

-- ================================================================= loading

@[simp] theorem wholeOf_familiar (v : Json) : Familiar (wholeOf v) := by
  cases v with
  | float x =>
      unfold wholeOf
      dsimp only
      split
      case h_1 => exact familiar_ok _
      case h_2 => exact familiar_ok _
      case h_3 => exact ends_error rfl
  | int n => exact familiar_ok _
  | bool b => exact familiar_ok _
  | str s => exact familiar_ok _
  | null => exact ends_error rfl
  | arr elements => exact ends_error rfl
  | obj fields => exact ends_error rfl

@[simp] theorem configuredSize_familiar (config : ProviderConfig) :
    Familiar (configuredSize config) := by
  unfold configuredSize
  refine (wholeOf_familiar _).bind fun n => ?_
  cases n with
  | none => exact ends_error rfl
  | some n =>
      dsimp only
      split
      case h_1 => exact familiar_pure _
      case h_2 => exact ends_error rfl

@[simp] theorem configuredMode_familiar (config : ProviderConfig) :
    Familiar (configuredMode config) := by
  unfold configuredMode
  split
  case h_1 => exact familiar_ok _
  case h_2 =>
    split
    case h_1 => exact familiar_ok _
    case h_2 => exact ends_error rfl

end Provider

@[simp] theorem Files.find_familiar (files : Files) (path : String) :
    Familiar (files.find path) := by
  unfold find
  split
  case h_1 => exact ends_error rfl
  case h_2 => exact familiar_ok _

@[simp] theorem FeatureFile.check_familiar (f : FeatureFile) : Familiar f.check := by
  unfold check refuseImpossible refuseOpen
  refine Familiar.bind (Familiar.forM (fun f => Familiar.forM (fun entry => ?_) _) _) fun _ => ?_
  · dsimp only
    split
    case h_1 =>
      split
      case h_1 => exact ends_error rfl
      case h_2 => exact familiar_ok _
    case h_2 => exact familiar_ok _
  · exact .ite (fun _ => familiar_ok _) fun _ => ends_error rfl

namespace Provider

theorem readTable_familiar (files : Files) (path : String) (size : CellSize) :
    (readTable files path size).Familiar := by
  unfold readTable
  refine Work.Familiar.bind (files.find_familiar _) fun place => ?_
  cases place with
  | file text =>
      dsimp only
      refine Work.Familiar.bind (Work.familiar_note _) fun _ => ?_
      cases FeatureFile.parse? text with
      | none => exact ends_error rfl
      | some file => simp
  | folder => exact ends_error rfl
  | missing => exact ends_error rfl
  | blocked => exact ends_error rfl
  | tooLong => exact ends_error rfl

@[simp] theorem buildTable_familiar (files : Files) (config : ProviderConfig)
    (named : String → Outcome (Provider Float)) : (buildTable files config named).Familiar := by
  unfold buildTable
  refine Work.Familiar.unless (fun _ => rfl) fun _ => ?_
  refine Work.Familiar.bind (configuredSize_familiar config) fun size => ?_
  split
  case h_1 => exact readTable_familiar files _ size
  case h_2 => exact ends_error rfl

@[simp] theorem buildParts_familiar {α : Type} (config : ProviderConfig)
    {named : String → Outcome (Provider α)} (hnamed : ∀ name, Familiar (named name)) :
    (buildParts config named).Familiar := by
  unfold buildParts
  refine Work.Familiar.unless (fun _ => rfl) fun _ => ?_
  simp [hnamed]

end Provider

-- ================================================================ registry

namespace Registry

variable {π κ : Type} {r : Registry π κ}

variable (r) in
@[simp] theorem named_familiar (name : String) : Familiar (r.named name) := by
  unfold named
  split
  case h_1 => exact familiar_ok _
  case h_2 => exact ends_error rfl

/-- All builders that are registered fail in no strange way, if what they ask
for does not. -/
def BuildsFamiliar (r : Registry π κ) : Prop :=
  ∀ type build, r.types.lookup type = some build → ∀ config named,
    (∀ name, Familiar (named name)) → (build config named).Familiar

theorem BuildsFamiliar.loadOne (h : r.BuildsFamiliar) (config : Json) :
    (r.loadOne config).Familiar := by
  cases config with
  | obj fields =>
      unfold Registry.loadOne
      refine Work.Familiar.unless (fun _ => rfl) fun _ => ?_
      refine Work.Familiar.unless (fun _ => rfl) fun _ => ?_
      refine Work.Familiar.bind (Work.familiar_note _) fun _ => ?_
      refine Work.Familiar.bind ?_ fun provider => Work.familiar_pure _
      unfold providerFor
      split
      case h_1 build hbuild => exact h _ build hbuild fields _ r.named_familiar
      case h_2 => exact ends_error rfl
  | null => exact ends_error rfl
  | bool b => exact ends_error rfl
  | int n => exact ends_error rfl
  | float x => exact ends_error rfl
  | str s => exact ends_error rfl
  | arr elements => exact ends_error rfl

/-- Loading puts names into the registry and leaves its types, so every
configuration is built by the same builders. -/
theorem BuildsFamiliar.load (h : r.BuildsFamiliar) (configs : List Json) :
    (r.load configs).2.Familiar := by
  induction configs generalizing r with
  | nil => exact familiar_ok _
  | cons config rest ih =>
      cases hone : (r.loadOne config).outcome with
      | error f =>
          refine familiar_iff_failure?.mpr fun f' hf => ?_
          rw [(load_cons_of_error hone rest).2] at hf
          cases hf
          exact (h.loadOne config).failure f hone
      | ok made =>
          have hrest := ih (r := r.addNamed made.1 made.2) h
          refine familiar_iff_failure?.mpr fun f hf => ?_
          rw [(load_cons_of_ok hone rest).2] at hf
          exact familiar_iff_failure?.mp hrest f hf

theorem builtin_buildsFamiliar (files : Files) :
    (builtin files : Registry (Provider Float) κ).BuildsFamiliar := by
  intro type build hbuild config named hnamed
  show Work.Familiar _
  unfold builtin at hbuild
  simp only [Entries.lookup_cons_eq] at hbuild
  split at hbuild
  case isTrue =>
    cases hbuild
    exact Provider.buildTable_familiar files config named
  case isFalse =>
    split at hbuild
    case isTrue =>
      cases hbuild
      exact Provider.buildParts_familiar config hnamed
    case isFalse => cases hbuild

end Registry

end MapSheets
