import MapSheets.Proofs.Basemap.Familiar
import MapSheets.Proofs.Sheet.Accepted
import MapSheets.Proofs.Source.Familiar
import MapSheets.Sheet.Atlas
import MapSheets.Sheet.Production

/-
Sheets fail in no strange way, from their settings to their files. Two checks on
the way could be strange and are never met: the layers of a drawing have names
of their own (`Layers.register_familiar`), and a grating whose counts are out of
range was refused with the settings, so it is drawn only for a sheet that was
accepted (`Sheet.gratingMarks_familiar`).
-/

namespace MapSheets

open Outcome

-- ================================================================== atlases

@[simp] theorem Json.members_familiar (v : Json) : Familiar v.members := by
  cases v with
  | arr elements => exact familiar_ok _
  | obj fields => exact familiar_ok _
  | str s => exact familiar_ok _
  | null => exact ends_error rfl
  | bool b => exact ends_error rfl
  | int n => exact ends_error rfl
  | float x => exact ends_error rfl

theorem Json.readOr_familiar (deepest : Nat) {malformed : Failure}
    (h : malformed.isStrange = false) (text : String) :
    Familiar (readOr deepest malformed text) := by
  unfold readOr
  split
  case h_1 => exact familiar_ok _
  case h_2 => exact ends_error h
  case h_3 => exact ends_error rfl
  case h_4 => exact ends_error rfl

@[simp] theorem Files.refuseFile_familiar (files : Files) (made : List (List String))
    (path : String) : Familiar (files.refuseFile made path) := by
  unfold refuseFile
  refine .ite (fun _ => ends_error rfl) fun _ => ?_
  split
  case h_1 => exact ends_error rfl
  case h_2 => exact ends_error rfl
  case h_3 => exact familiar_ok _

namespace Atlas

/-- All sheets of an atlas are accepted. -/
def Accepted (a : Atlas) : Prop := ∀ s ∈ a.sheets, s.2.Accepted

@[simp] theorem namesIn_familiar (elements : List Json) : Familiar (namesIn elements) := by
  induction elements with
  | nil => exact familiar_ok _
  | cons v rest ih =>
      cases v
      case str s => exact ih.bind fun _ => familiar_pure _
      all_goals exact ends_error rfl

theorem sheetOf_ends (entry : Json) :
    Ends Sheet.Accepted (fun f => f.isStrange = false) (sheetOf entry) := by
  cases entry
  case obj fields => exact Sheet.ofFields_ends fields
  all_goals
    refine Ends.bind (Json.members_familiar _) fun elements _ => ?_
    refine Ends.bind (namesIn_familiar elements) fun names _ => ?_
    exact Ends.bind (Sheet.refuseUnknown_familiar names) fun _ _ => ends_error rfl

theorem addSheets_ends (entries : List Json) {sheets : List (String × Sheet Float)}
    (hsheets : ∀ s ∈ sheets, s.2.Accepted) :
    Ends (fun sheets' => ∀ s ∈ sheets', s.2.Accepted) (fun f => f.isStrange = false)
      (addSheets sheets entries) := by
  induction entries generalizing sheets with
  | nil => exact ends_ok hsheets
  | cons entry rest ih =>
      refine (sheetOf_ends entry).bind fun sheet hsheet => .unless (fun _ => rfl) fun _ => ih ?_
      intro s hs
      rcases List.mem_append.mp hs with hs | hs
      · exact hsheets s hs
      · rw [List.mem_singleton.mp hs]
        exact hsheet

theorem ofJson_ends (data : Json) :
    Ends Accepted (fun f => f.isStrange = false) (ofJson data) := by
  cases data
  case obj fields =>
    refine Ends.bind (Json.members_familiar _) fun entries _ => ?_
    refine (addSheets_ends entries fun _ h => absurd h List.not_mem_nil).bind fun sheets h => ?_
    exact Ends.bind (Json.members_familiar _) fun providers _ => ends_ok h
  all_goals exact ends_error rfl

/-- An atlas that was loaded has accepted sheets only. -/
theorem load_ends (deepest : Nat) (files : Files) (path : String) :
    Ends (fun a? => ∀ a ∈ a?, Accepted a) (fun f => f.isStrange = false)
      (load deepest files path).outcome := by
  have hnone : ∀ a ∈ (none : Option Atlas), Accepted a := fun _ h => (by cases h)
  unfold load
  refine Work.ends_bind (files.find_familiar _) fun place _ => ?_
  cases place with
  | file text =>
      refine Work.ends_bind (Work.familiar_note _) fun _ _ => ?_
      refine Work.ends_bind (Json.readOr_familiar deepest rfl text) fun data _ => ?_
      refine Work.ends_bind (ofJson_ends data) fun a ha => ends_ok ?_
      rintro _ ⟨⟩
      exact ha
  | folder =>
      refine Work.ends_bind (Work.familiar_note _) fun _ _ => ?_
      exact Work.ends_bind (files.refuseFile_familiar _ _) fun _ _ => ends_ok hnone
  | missing => exact ends_ok hnone
  | blocked => exact ends_ok hnone
  | tooLong => exact ends_ok hnone

end Atlas

-- ================================================================= trellises

section
variable {α : Type} [Scalar α]

@[simp] theorem Edge.ofLength_familiar [NumberText α] (start finish length : α)
    (spacing : Spacing) : Familiar (ofLength start finish length spacing) := by
  unfold ofLength
  refine .unless (fun _ => rfl) fun _ => ?_
  simp

@[simp] theorem Segment.meet_familiar (a b : Segment α) : Familiar (a.meet b) := by
  unfold meet
  exact .ite (fun _ => ends_error rfl) fun _ => familiar_ok _

@[simp] theorem Segment.clip_familiar [Exact α] (s : Segment α) (bounds : Option (Bounds α)) :
    Familiar (s.clip bounds) := by
  unfold clip
  split
  case h_1 => exact familiar_ok _
  case h_2 =>
    refine .ite (fun _ => familiar_ok _) fun _ => ?_
    split
    case h_1 => exact ends_error rfl
    case h_2 => exact familiar_ok _

namespace Trellis

@[simp] theorem ofFrame_familiar [NumberText α] [Elementary α] [Survey α] [FamiliarSurvey α]
    (ellipsoid : Ellipsoid α) (spacing : Spacing) (topLeft bottomRight : Point α) :
    Familiar (ofFrame ellipsoid spacing none topLeft bottomRight) := by
  unfold ofFrame
  refine .unless (fun _ => rfl) fun _ => (familiar_lift _).bind fun zone => ?_
  refine .unless (fun _ => rfl) fun _ => ?_
  simp [Corners.ofFrame, ofCorners, Edge.between]

@[simp] theorem ofCell_familiar [NumberText α] [Elementary α] [Survey α] [FamiliarSurvey α]
    (ellipsoid : Ellipsoid α) (spacing : Spacing) (c : Cell α) :
    Familiar (ofCell ellipsoid spacing c) := by
  simp [ofCell]

variable (t : Trellis α)

@[simp] theorem crossing_familiar (easting northing : Amount α) :
    Familiar (t.crossing easting northing) := by
  simp [crossing]

/-- Indexes that are found one by one to be such, or refused in a familiar way. -/
def LabelIndexes.Familiar (indexes : LabelIndexes α) : Prop :=
  Ends (fun is => ∀ i ∈ is, Outcome.Familiar i) (fun f => f.isStrange = false) indexes

theorem labels_familiar (box : PixelBox α) {rows cols : LabelIndexes α} (hrows : rows.Familiar)
    (hcols : cols.Familiar) : Familiar (t.labels box rows cols) := by
  unfold labels
  refine Familiar.bind (.mapM (fun bar => ?_) _) fun eastings => ?_
  · refine (familiar_lift _).bind fun outer => Ends.bind hrows fun rows h => ?_
    refine Familiar.bind (.mapM_mem fun row hrow => ?_) fun _ => familiar_pure _
    refine (h row hrow).bind fun row => ?_
    simp [rowLabel]
  refine Familiar.bind (.mapM (fun bar => ?_) _) fun northings => familiar_pure _
  refine (familiar_lift _).bind fun outer => Ends.bind hcols fun cols h => ?_
  refine Familiar.bind (.mapM_mem fun col hcol => ?_) fun _ => familiar_pure _
  refine (h col hcol).bind fun col => ?_
  simp [colLabel]

end Trellis

end

-- ================================================================= elements

section
variable {α : Type} [Scalar α] [NumberText α]

@[simp] theorem Element.refuseInvalid_familiar (e : Element α) : Familiar e.refuseInvalid := by
  refine .forM (fun a => ?_) _
  dsimp only
  split
  case h_1 => exact familiar_ok _
  case h_2 => exact .ite (fun _ => familiar_ok _) fun _ => ends_error rfl

@[simp] theorem Element.allValid_familiar (es : List (Element α)) : Familiar (allValid es) :=
  (Familiar.forM refuseInvalid_familiar es).bind fun _ => familiar_pure _

@[simp] theorem PlacedLabel.elements_familiar (labels : List (PlacedLabel α)) :
    Familiar (elements labels) := by
  simp [elements]

end

theorem drawBars_familiar {α : Type} [Scalar α] [Exact α] (box : PixelBox α)
    (clip : Option (Bounds α)) (color : String) (width : AttributeValue α)
    (lines : List (Segment α)) : Familiar (drawBars box clip color width lines) := by
  induction lines with
  | nil => exact familiar_pure _
  | cons line rest ih =>
      refine (line.clip_familiar clip).bind fun part => ih.bind fun drawn => ?_
      split
      case h_1 => exact familiar_pure _
      case h_2 => exact familiar_pure _

-- =================================================================== layers

namespace Layers

variable {α : Type} {ls : Layers α}

/-- A layer is registered under a name that is not taken. -/
theorem register_ends {id : String} (h : ls.contains id = false) (zOrder : Rat)
    (inFrame visible : Bool) :
    Ends (fun ls' => ∀ other, other ≠ id → ls.contains other = false → ls'.contains other = false)
      (fun f => f.isStrange = false) (ls.register id zOrder inFrame visible) := by
  unfold register
  rw [h, if_neg Bool.false_ne_true]
  refine .ite (fun _ => ends_error rfl) fun _ => ends_ok fun other hne hother => ?_
  unfold contains at hother ⊢
  rw [List.any_append, hother]
  simpa using Ne.symm hne

/-- Layers of different names are registered one after the other. -/
theorem registerAll_familiar {plan : List (String × Int × Bool)}
    (hplan : (plan.map (·.1)).Nodup) (hnew : ∀ id ∈ plan.map (·.1), ls.contains id = false)
    (visible : String → Bool) :
    Familiar (plan.foldlM (fun ls (id, zOrder, inFrame) =>
      ls.register id zOrder inFrame (visible id)) ls) := by
  induction plan generalizing ls with
  | nil => exact familiar_ok _
  | cons layer rest ih =>
      obtain ⟨hid, hrest⟩ := List.nodup_cons.mp hplan
      obtain ⟨hfree, hothers⟩ := List.forall_mem_cons.mp hnew
      rw [List.foldlM_cons]
      refine (register_ends hfree _ _ _).bind fun ls' hls' => ih hrest fun id hmem => ?_
      exact hls' id (fun heq => hid (heq ▸ hmem)) (hothers id hmem)

@[simp] theorem assemble_familiar (ls : Layers α) (frameId clipPath : String) :
    Familiar (ls.assemble frameId clipPath) := by
  unfold assemble
  refine .ite (fun _ => ends_error rfl) fun _ => ?_
  exact .ite (fun _ => ends_error rfl) fun _ => familiar_ok _

end Layers

-- =================================================================== sheets

namespace Sheet

section
variable {α : Type}

@[simp] theorem emptyLayers_familiar (showGrating : Bool) :
    Familiar (emptyLayers showGrating : Outcome (Layers α)) :=
  Layers.registerAll_familiar (by decide) (fun _ _ => rfl)
    fun id => showGrating || !id.startsWith "Grating"

@[simp] theorem index_familiar [NumberReading α] (v : Json) :
    Familiar (index v : Outcome (Amount α)) := by
  cases v with
  | int n => exact familiar_ok _
  | bool b => exact familiar_ok _
  | float x =>
      unfold index
      dsimp only
      split
      case h_1 => exact familiar_ok _
      case h_2 => exact ends_error rfl
  | null => exact ends_error rfl
  | str s => exact ends_error rfl
  | arr elements => exact ends_error rfl
  | obj fields => exact ends_error rfl

theorem labelIndexes_familiar [NumberReading α] (setting : Json) :
    (labelIndexes setting : Trellis.LabelIndexes α).Familiar := by
  unfold labelIndexes
  refine .ite (fun _ => ?_) fun _ => ends_ok fun _ h => absurd h List.not_mem_nil
  cases hmembers : setting.members with
  | error f => exact ends_error ((Json.members_familiar setting).failure f hmembers)
  | ok vs =>
      refine ends_ok fun i hi => ?_
      obtain ⟨v, -, rfl⟩ := List.mem_map.mp hi
      exact index_familiar v

variable [Scalar α] {s : Sheet α}

/-- The counts of a grating that is drawn were in range when the settings were
read, so none of them is out of range where it is made. -/
theorem gratingMarks_familiar [OfDouble α] [NumberText α] (h : s.Accepted)
    (hdrawn : s.drawGrating.isTruthy = true) (width height : α) (box : PixelBox α) :
    Familiar (s.gratingMarks width height box) := by
  have hcounts : ∀ count ∈ [s.gratingRows, s.gratingCols],
      Ends (fun n => Grating.isCount n = true) (fun f => f.isStrange = false)
        (gratingCount count) := by
    intro count hcount
    rcases (h.counts hdrawn count hcount).cases with ⟨n, rfl, hn⟩ | ⟨x, text, -, herror⟩
    · exact ends_ok hn
    · rw [herror]
      exact ends_error rfl
  simp only [List.forall_mem_cons, List.not_mem_nil] at hcounts
  unfold gratingMarks
  refine hcounts.1.bind fun rows hrows => hcounts.2.1.bind fun cols hcols => ?_
  unfold Grating.ofBox
  rw [hrows, hcols]
  exact (Element.allValid_familiar _).bind fun _ => familiar_pure _

end

variable {α : Type} [Scalar α] [NumberText α] [Elementary α] [Survey α] [FamiliarSurvey α]

@[simp] theorem context_familiar (c : Cell α) (s : Sheet α) :
    Familiar (SheetContext.ofCell c s) := by
  simp [SheetContext.ofCell]

variable [NumberReading α] [Exact α] {s : Sheet α}

theorem compose_familiar [OfDouble α] (h : s.Accepted) (c : Cell α) (t : Trellis α)
    (basemap : Option String) : Familiar (s.compose c t basemap) := by
  have hlabels := fun box => t.labels_familiar box (labelIndexes_familiar s.labelRows)
    (labelIndexes_familiar s.labelCols)
  have hbars := fun box clip lines => drawBars_familiar (α := α) box clip "#000000"
    (.number (Scalar.ratio 1 2)) lines
  unfold compose
  refine (context_familiar c s).bind fun context => ?_
  refine (familiar_lift _).bind fun canvasWidth => (familiar_lift _).bind fun canvasHeight => ?_
  refine (familiar_lift _).bind fun ground => (familiar_lift _).bind fun box => ?_
  refine (Element.refuseInvalid_familiar _).bind fun _ => ?_
  refine (emptyLayers_familiar _).bind fun layers => ?_
  dsimp only
  split
  case isTrue hdrawn =>
    refine (gratingMarks_familiar h hdrawn _ _ _).bind fun marks => ?_
    simp [hlabels, hbars, barElements]
  case isFalse => simp [hlabels, hbars, barElements]

end Sheet

end MapSheets
