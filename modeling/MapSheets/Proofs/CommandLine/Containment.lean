import MapSheets.CommandLine.Program
import MapSheets.Proofs.Sheet.Configuration
import MapSheets.Proofs.Sheet.Produced
import MapSheets.Proofs.Source.References

/-
What a run lets out. A failure that is found by a check of the program is
reported if it is of a family that the command line asks for. The checks of the
trellis are of none, so they leave the run as faults of calculation do; what else
is of none is never met (`carryOut_familiar`). A cell with exchanged corners is
all that it takes (`carryOut_exchanged`). A run that produces a sheet has saved
it, and it is cleaned up behind every run once (`run_cleanup`).
-/

namespace MapSheets

open Outcome

/-- Whether a cause is found by a check of the program. The rest is found by
calculation, by the shape of a value that nobody has checked, or by what the
program asks outside. -/
def Failure.isOwn (f : Failure) : Bool :=
  match f.family with
  | .projection | .grating | .grid | .notFound | .blankBase | .partNumber | .cellSize
  | .typeTaken | .typeUnknown | .providerUnknown | .sheet | .status | .basemap
  | .conversion => true
  | .value =>
    match f with
    | zoneOutOfRange _ | frameInvalid _ _ | edgeBackward _ _ | barsParallel | layerTaken _ => true
    | _ => false
  | _ => false

namespace CommandLine

theorem cases_of_isOwn {f : Failure} (h : f.isOwn = true) :
    isReported f = true ∨ f.isOfTrellis = true ∨ f.isStrange = true := by
  cases f
  case fault e => cases e <;> cases h
  case date e => cases e <;> cases h
  all_goals
    first
    | exact Or.inl rfl
    | exact Or.inr (Or.inl rfl)
    | exact Or.inr (Or.inr rfl)
    | cases h

theorem isOwn_of_isOfTrellis {f : Failure} (h : f.isOfTrellis = true) :
    f.isOwn = true ∧ isReported f = false := by
  cases f
  case frameInvalid topLeft bottomRight => exact ⟨rfl, rfl⟩
  case edgeBackward start finish => exact ⟨rfl, rfl⟩
  case barsParallel => exact ⟨rfl, rfl⟩
  all_goals cases h

theorem isStrange_of_not_isOwn {f : Failure} (h : f.isOwn = false) : f.isStrange = false := by
  cases f
  case fault e => rfl
  case date e => rfl
  all_goals
    first
    | rfl
    | cases h

-- ================================================================== notes

/-- Whether a note tells of a cleanup. -/
def RunNote.isCleanup : RunNote → Bool
  | cleanedUp _ => true
  | _ => false

theorem say_notes (lines : List String) : ∀ n ∈ (say lines).notes, n.isCleanup = false := by
  intro n hn
  obtain ⟨line, -, rfl⟩ := List.mem_map.mp hn
  rfl

theorem relabel_notes {ν β : Type} {tell : ν → RunNote} (htell : ∀ n, (tell n).isCleanup = false)
    (w : Work ν β) : ∀ n ∈ (w.relabel tell).notes, n.isCleanup = false := by
  intro n hn
  obtain ⟨m, -, rfl⟩ := List.mem_map.mp hn
  exact htell m

theorem lift_notes {β : Type} (o : Outcome β) :
    ∀ n ∈ (liftM o : Work RunNote β).notes, n.isCleanup = false :=
  fun _ hn => absurd hn List.not_mem_nil

theorem familiar_say (lines : List String) : (say lines).Familiar := ends_ok trivial

variable (place : Surroundings) (r : Request Float) (a : Atlas)

theorem listAtlas_notes : ∀ n ∈ (listAtlas a).notes, n.isCleanup = false := by
  unfold listAtlas
  refine Work.forall_notes_bind (say_notes _) fun _ => ?_
  refine Work.forall_notes_bind (say_notes _) fun _ => ?_
  induction a.providers with
  | nil => exact fun _ hn => absurd hn List.not_mem_nil
  | cons p rest ih =>
      refine Work.forall_notes_bind ?_ fun _ => ih
      exact Work.forall_notes_bind (lift_notes _) fun _ => say_notes _

theorem produce_notes (sheet : String) (target : Target Float) :
    ∀ n ∈ (produce place r a sheet target).notes, n.isCleanup = false := by
  unfold produce
  refine Work.forall_notes_bind (lift_notes _) fun s => ?_
  refine Work.forall_notes_bind (say_notes _) fun _ => ?_
  refine Work.forall_notes_bind (relabel_notes (fun _ => rfl) _) fun _ => ?_
  refine Work.forall_notes_bind (lift_notes _) fun provider => ?_
  cases target with
  | named id =>
      refine Work.forall_notes_bind (lift_notes _) fun m => relabel_notes (fun _ => rfl) _
  | point p srid => exact relabel_notes (fun _ => rfl) _

/-- The work of a request does not clean up by itself. -/
theorem carryOut_notes : ∀ n ∈ (carryOut place r).notes, n.isCleanup = false := by
  unfold carryOut
  refine Work.forall_notes_bind (relabel_notes (fun _ => rfl) _) fun atlas => ?_
  cases atlas with
  | none => exact Work.forall_notes_bind (say_notes _) fun _ _ hn => absurd hn List.not_mem_nil
  | some a =>
      cases r.task with
      | list =>
          exact Work.forall_notes_bind (listAtlas_notes a) fun _ _ hn => absurd hn List.not_mem_nil
      | produce sheet target =>
          exact Work.forall_notes_bind (produce_notes place r a sheet target)
            fun _ _ hn => absurd hn List.not_mem_nil

/-- Behind the work of a request stands one cleanup, before or after the lines
that tell its end. -/
theorem run_cleanup : (run place r).notes.countP (·.isCleanup) = 1 := by
  have hnone : (carryOut place r).notes.countP (·.isCleanup) = 0 := by
    rw [List.countP_eq_zero]
    intro n hn
    rw [carryOut_notes place r n hn]
    exact Bool.false_ne_true
  have hlines : ∀ lines, (say lines).notes.countP (·.isCleanup) = 0 := by
    intro lines
    rw [List.countP_eq_zero]
    intro n hn
    rw [say_notes lines n hn]
    exact Bool.false_ne_true
  unfold run
  dsimp only
  split
  case h_1 ending _ =>
    rw [List.countP_append, hnone, List.countP_cons_of_pos rfl, Nat.zero_add]
    exact congrArg (· + 1) (hlines (summary ending))
  case h_2 =>
    split
    case isTrue => rw [List.countP_append, hnone]; rfl
    case isFalse => rw [List.countP_append, hnone]; rfl

-- ================================================================ failures

/-- A library of conversions breaks, if it does, by failures of its own and not of
the program. -/
def Surroundings.LibraryApart (place : Surroundings) : Prop :=
  ∀ ask c f, place.converters.library = some ask → ask c = .broken f → f.isOwn = false

variable {place r a}

theorem Surroundings.LibraryApart.convert (h : place.LibraryApart) (c : Conversion Float) :
    (place.converters.convert c).Familiar := by
  unfold Converters.convert
  refine (Work.familiar_note _).bind fun _ => ?_
  refine Work.familiar_ite.mpr ⟨fun _ => by simp, fun _ => ?_⟩
  cases hlibrary : place.converters.library with
  | none => simp
  | some ask =>
      refine (Work.familiar_note _).bind fun _ => ?_
      cases hend : ask c with
      | succeeded => simp
      | refused reason => simp
      | broken f => exact ends_error (isStrange_of_not_isOwn (h ask c f hlibrary hend))

theorem workshop_familiar (h : place.LibraryApart) (s : Sheet Float) (provider : Provider Float) :
    (workshop place r a s provider).Familiar where
  convert := h.convert
  drawMap draw hdraw request := by
    unfold workshop at hdraw
    dsimp only at hdraw
    split at hdraw
    case isTrue =>
      cases hdraw
      exact (TileServer.download_familiar _ request).bind fun _ => Work.familiar_pure _
    case isFalse => cases hdraw

theorem providerOf_familiar {κ : Type} (registry : Registry (Provider Float) κ) (v : Json) :
    Familiar (providerOf registry v) := by
  cases v
  case str name => exact registry.named_familiar name
  all_goals exact ends_error rfl

/-- The sheet of an atlas, with an output folder of its own or another. -/
theorem sheet_ends (ha : a.Accepted) (name : String) :
    Ends Sheet.Accepted (fun f => f.isStrange = false) (a.sheet name) := by
  unfold Atlas.sheet
  split
  case h_1 s hs =>
    obtain ⟨earlier, later, hsheets, -⟩ := List.lookup_eq_some_iff.mp hs
    refine ends_ok (ha (Sheet.normalName name, s) ?_)
    rw [hsheets]
    exact List.mem_append_right _ List.mem_cons_self
  case h_2 => exact ends_error rfl

theorem placed_accepted {s : Sheet Float} (h : s.Accepted) : (r.placed s).Accepted := by
  unfold Request.placed
  cases r.output with
  | none => exact h
  | some folder => exact ⟨h.scale, h.dpi, h.width, h.height, h.spacing, h.counts⟩

theorem produce_familiar (h : place.LibraryApart) (ha : a.Accepted) (sheet : String)
    (target : Target Float) : (produce place r a sheet target).Familiar := by
  unfold produce
  refine Work.ends_bind (sheet_ends ha sheet) fun s hs => ?_
  have hplaced : (r.placed s).Accepted := placed_accepted hs
  refine Work.Familiar.bind (familiar_say _) fun _ => ?_
  refine Work.Familiar.bind ?loading fun _ => ?_
  case loading => exact (Registry.builtin_buildsFamiliar place.files).load a.providers
  refine Work.Familiar.bind (providerOf_familiar _ _) fun provider => ?_
  have hshop := workshop_familiar (r := r) (a := a) h (r.placed s) provider
  cases target with
  | named id =>
      refine Work.Familiar.bind (Mdgid.parse_describes id).familiar fun m => ?_
      exact Sheet.runJob_familiar hshop hplaced
        (Sheet.lookUp_familiar fun p => p.cellNamed_familiar m)
  | point p srid =>
      exact Sheet.runJob_familiar hshop hplaced
        (Sheet.lookUp_familiar fun q => q.cellAt_familiar p srid)

theorem listAtlas_familiar : (listAtlas a).Familiar := by
  unfold listAtlas
  refine Work.Familiar.bind (familiar_say _) fun _ => ?_
  refine Work.Familiar.bind (familiar_say _) fun _ => ?_
  refine Work.Familiar.forM (fun p => ?_) _
  refine Work.Familiar.bind ?_ fun _ => familiar_say _
  cases p
  case obj fields => exact familiar_ok _
  all_goals exact ends_error rfl

/-- Whatever there is and is asked for, no failure is strange. -/
theorem carryOut_familiar (h : place.LibraryApart) : (carryOut place r).Familiar := by
  unfold carryOut
  refine Work.ends_bind (Atlas.load_ends place.deepest place.files r.config) fun a? ha => ?_
  cases a? with
  | none => exact Work.Familiar.bind (familiar_say _) fun _ => Work.familiar_pure _
  | some a =>
      cases r.task with
      | list => exact listAtlas_familiar.bind fun _ => Work.familiar_pure _
      | produce sheet target =>
          exact (produce_familiar h (ha a rfl) sheet target).bind fun _ => Work.familiar_pure _

-- ================================================================= drawings

theorem mem_notes_job {s : Sheet Float} {shop : Workshop Float} {job : String}
    {find : Work (JobNote Float) (Cell Float)} {files : SheetFiles}
    (h : (Sheet.runJob shop s job find).outcome = .ok files) :
    ∃ drawing, .job (.saved files.svg drawing)
      ∈ ((Sheet.runJob shop s job find).relabel RunNote.job).notes := by
  obtain ⟨drawing, hdrawing⟩ := Sheet.runJob_saves h
  exact ⟨drawing, List.mem_map_of_mem hdrawing⟩

theorem produce_saves {sheet : String} {target : Target Float} {files : SheetFiles}
    (h : (produce place r a sheet target).outcome = .ok files) :
    ∃ drawing, .job (.saved files.svg drawing) ∈ (produce place r a sheet target).notes := by
  unfold produce at h ⊢
  obtain ⟨s, hs, h⟩ := Work.outcome_bind_eq_ok.mp h
  obtain ⟨_, hsaid, h⟩ := Work.outcome_bind_eq_ok.mp h
  obtain ⟨_, hloaded, h⟩ := Work.outcome_bind_eq_ok.mp h
  obtain ⟨provider, hprovider, h⟩ := Work.outcome_bind_eq_ok.mp h
  cases target with
  | named id =>
      obtain ⟨m, hm, h⟩ := Work.outcome_bind_eq_ok.mp h
      obtain ⟨drawing, hdrawing⟩ := mem_notes_job h
      refine ⟨drawing, Work.mem_notes_bind_right hs (Work.mem_notes_bind_right hsaid ?_)⟩
      refine Work.mem_notes_bind_right hloaded (Work.mem_notes_bind_right hprovider ?_)
      exact Work.mem_notes_bind_right hm hdrawing
  | point p srid =>
      obtain ⟨drawing, hdrawing⟩ := mem_notes_job h
      refine ⟨drawing, Work.mem_notes_bind_right hs (Work.mem_notes_bind_right hsaid ?_)⟩
      refine Work.mem_notes_bind_right hloaded (Work.mem_notes_bind_right hprovider ?_)
      exact hdrawing

/-- A request that is carried out on an atlas has listed what there is, or saved a
drawing. -/
theorem carryOut_ends
    (hload : (Atlas.load place.deepest place.files r.config).outcome = .ok (some a))
    {ending : Ending} (h : (carryOut place r).outcome = .ok ending) :
    (r.task = .list ∧ ending = .listed)
      ∨ ∃ files drawing, ending = .produced files
        ∧ .job (.saved files.svg drawing) ∈ (carryOut place r).notes := by
  unfold carryOut at h ⊢
  obtain ⟨a?, ha, h⟩ := Work.outcome_bind_eq_ok.mp h
  cases ha.symm.trans hload
  cases htask : r.task with
  | list =>
      rw [htask] at h
      obtain ⟨_, -, h⟩ := Work.outcome_bind_eq_ok.mp h
      cases h
      exact Or.inl ⟨rfl, rfl⟩
  | produce sheet target =>
      rw [htask] at h
      obtain ⟨files, hfiles, h⟩ := Work.outcome_bind_eq_ok.mp h
      cases h
      obtain ⟨drawing, hdrawing⟩ := produce_saves hfiles
      refine Or.inr ⟨files, drawing, rfl, Work.mem_notes_bind_right ha ?_⟩
      exact Work.mem_notes_bind_left hdrawing

-- ================================================================= trellises

/-- A request for a cell of which no trellis can be made fails with the reason for
that. -/
theorem produce_of_trellis {sheet id : String} {s : Sheet Float} {provider : Provider Float}
    {m : Mdgid} {c : Cell Float} {f : Failure} (hsheet : a.sheet sheet = .ok s)
    (hload : failure? ((Registry.builtin place.files : Registry (Provider Float) String).load
      a.providers).2.outcome = none)
    (hprovider : providerOf ((Registry.builtin place.files : Registry _ String).load
      a.providers).1 (r.placed s).provider = .ok provider)
    (hid : Mdgid.parse id = .ok m) (hcell : provider.cellNamed m = .ok c)
    (htrellis : (r.placed s).trellisOf c = .error f) :
    (produce place r a sheet (.named id)).outcome = .error f := by
  obtain ⟨made, hmade⟩ := ok_of_failure? hload
  have hloaded : (((Registry.builtin place.files : Registry _ String).load
      a.providers).2.relabel RunNote.line).outcome = .ok made := hmade
  have hfind : (Sheet.lookUp (workshop place r a (r.placed s) provider) (r.placed s)
      ((r.placed s).jobName m.text) (·.cellNamed m)).outcome = .ok c :=
    Sheet.outcome_stage.trans hcell
  unfold produce
  rw [hsheet, Work.lift_ok_bind, Work.outcome_bind_ok (b := ()) rfl, Work.outcome_bind_ok hloaded,
    hprovider, Work.lift_ok_bind]
  dsimp only
  rw [hid, Work.lift_ok_bind]
  exact Sheet.runJob_of_trellis hfind htrellis

-- ==================================================================== runs

theorem mem_notes_run {n : RunNote} (h : n ∈ (carryOut place r).notes) :
    n ∈ (run place r).notes := by
  unfold run
  dsimp only
  split
  case h_1 => exact List.mem_append_left _ h
  case h_2 =>
    split
    case isTrue => exact List.mem_append_left _ h
    case isFalse => exact List.mem_append_left _ h

theorem run_of_ok {ending : Ending} (h : (carryOut place r).outcome = .ok ending) :
    (run place r).outcome = .ok ending.code := by
  unfold run
  dsimp only
  rw [h]

theorem run_of_reported {f : Failure} (h : (carryOut place r).outcome = .error f)
    (hf : isReported f = true) :
    (run place r).outcome = .ok failureCode ∧ .line (errorLine f) ∈ (run place r).notes := by
  unfold run
  dsimp only
  rw [h]
  dsimp only
  rw [if_pos hf]
  exact ⟨rfl, List.mem_append_right _ List.mem_cons_self⟩

theorem run_of_unreported {f : Failure} (h : (carryOut place r).outcome = .error f)
    (hf : isReported f = false) : (run place r).outcome = .error f := by
  unfold run
  dsimp only
  rw [h]
  dsimp only
  rw [hf]
  rfl

theorem carryOut_of_run {f : Failure} (h : (run place r).outcome = .error f) :
    (carryOut place r).outcome = .error f ∧ isReported f = false := by
  cases hcarried : (carryOut place r).outcome with
  | ok ending => cases (run_of_ok hcarried).symm.trans h
  | error f' =>
      cases hreported : isReported f' with
      | true => cases (run_of_reported hcarried hreported).1.symm.trans h
      | false =>
          cases (run_of_unreported hcarried hreported).symm.trans h
          exact ⟨rfl, hreported⟩

/-- A failure that is found by a check of the program leaves a run if and only if it
is one of the trellis. A run is cleaned up once. With a configuration it ends in
one of three ways: it has listed what there is, or saved a drawing where it tells,
and its code is zero; it tells on a line why it failed, and its code is one; or a
failure leaves it. -/
theorem own_failure_leaves_iff (place : Surroundings) (r : Request Float)
    (hlibrary : place.LibraryApart) :
    ((∃ f, (run place r).outcome = .error f ∧ f.isOwn = true)
        ↔ ∃ f, (carryOut place r).outcome = .error f ∧ f.isOfTrellis = true)
      ∧ (run place r).notes.countP (·.isCleanup) = 1
      ∧ ∀ a, (Atlas.load place.deepest place.files r.config).outcome = .ok (some a) →
        ((run place r).outcome = .ok 0 ∧ (r.task = .list
            ∨ ∃ files drawing, (carryOut place r).outcome = .ok (.produced files)
              ∧ .job (.saved files.svg drawing) ∈ (run place r).notes))
        ∨ (∃ f, (carryOut place r).outcome = .error f ∧ isReported f = true
            ∧ (run place r).outcome = .ok 1 ∧ .line (errorLine f) ∈ (run place r).notes)
        ∨ ∃ f, (carryOut place r).outcome = .error f ∧ isReported f = false
            ∧ (run place r).outcome = .error f := by
  refine ⟨⟨?_, ?_⟩, run_cleanup place r, fun a hload => ?_⟩
  case refine_1 =>
    rintro ⟨f, hleft, hown⟩
    obtain ⟨hcarried, hreported⟩ := carryOut_of_run hleft
    refine ⟨f, hcarried, ?_⟩
    rcases cases_of_isOwn hown with h | h | h
    · cases hreported.symm.trans h
    · exact h
    · cases ((carryOut_familiar hlibrary).failure f hcarried).symm.trans h
  case refine_2 =>
    rintro ⟨f, hcarried, htrellis⟩
    obtain ⟨hown, hreported⟩ := isOwn_of_isOfTrellis htrellis
    exact ⟨f, run_of_unreported hcarried hreported, hown⟩
  case refine_3 =>
    cases hcarried : (carryOut place r).outcome with
    | ok ending =>
        have hcode := run_of_ok hcarried
        rcases carryOut_ends hload hcarried with ⟨htask, rfl⟩ | ⟨files, drawing, rfl, hsaved⟩
        · exact Or.inl ⟨hcode, Or.inl htask⟩
        · exact Or.inl ⟨hcode, Or.inr ⟨files, drawing, rfl, mem_notes_run hsaved⟩⟩
    | error f =>
        cases hreported : isReported f with
        | true => exact Or.inr (Or.inl ⟨f, rfl, hreported, run_of_reported hcarried hreported⟩)
        | false =>
            exact Or.inr (Or.inr ⟨f, rfl, hreported, run_of_unreported hcarried hreported⟩)

/-- A folder with a configuration that names no sheets, and a library of conversions
that always breaks. -/
def bare : Surroundings where
  files := Files.ofText "\x7b\x7d"
  deepest := 990
  reply _ := .status 404
  resize i _ _ := i
  encode _ := ""
  converters := {
    run := fun _ => .notFound
    library := some fun _ => .broken (.foreign "OSError" "") }

/-- A request for the sheet of a cell. -/
def sheetAsked : Request Float where
  task := .produce "a" (.named "A")
  config := "g"
  output := none
  withoutBasemap := false
  pdf := true
  png := false

theorem load_bare :
    (Atlas.load bare.deepest bare.files sheetAsked.config).outcome = .ok (some {}) :=
  (Atlas.outcome_load (Files.find_ofText "\x7b\x7d")).trans rfl

theorem carryOut_bare : (carryOut bare sheetAsked).outcome = .error (.sheetUnknown "a" []) := by
  have hload : ((Atlas.load bare.deepest bare.files sheetAsked.config).relabel RunNote.line).outcome
      = .ok (some {}) := load_bare
  have hsheet : ({} : Atlas).sheet "a" = .error (.sheetUnknown "a" []) := by
    simp [Atlas.sheet, Entries.sortedNames]
  have hproduce : (produce bare sheetAsked {} "a" (.named "A")).outcome
      = .error (.sheetUnknown "a" []) := by
    unfold produce
    rw [hsheet]
    rfl
  unfold carryOut
  rw [Work.outcome_bind_ok hload]
  exact Work.outcome_bind_error hproduce _

/-- A text that is a configuration and a grid: the provider of its sheet is read from
the file that it is written in, which has one cell, with the corners exchanged. -/
def exchangedText : String := String.join
  ["\x7b\"providers\": [\x7b\"name\": \"p\", ", "\"type\": \"geojson\", \"file\": \"g\"\x7d], ",
   "\"sheets\": [\x7b\"name\": \"a\", ", "\"provider\": \"p\"\x7d], ",
   "\"type\": \"Feature\", ", "\"properties\": \x7b\"mdg_id\": \"A\", ",
   "\"swlat\": 58, \"swlng\": 5, ", "\"nelat\": 57, \"nelng\": 6\x7d, ",
   "\"geometry\": \x7b\"type\": \"Point\", ", "\"coordinates\": [5, 57]\x7d\x7d"]

/-- The provider that it configures. -/
def exchangedTable : ProviderConfig :=
  [("name", .str "p"), ("type", .str "geojson"), ("file", .str "g")]

/-- What stands in it. -/
def exchangedFields : List (String × Json) :=
  [("providers", .arr [.obj exchangedTable]),
   ("sheets", .arr [.obj [("name", .str "a"), ("provider", .str "p")]]),
   ("type", .str "Feature"),
   ("properties", .obj [("mdg_id", .str "A"), ("swlat", .int 58), ("swlng", .int 5),
     ("nelat", .int 57), ("nelng", .int 6)]),
   ("geometry", .obj [("type", .str "Point"), ("coordinates", .arr [.int 5, .int 57])])]

/-- The sheet that it configures. -/
def exchangedSheet : Sheet Float := { name := "a", provider := .str "p" }

set_option maxRecDepth 4000 in
theorem readValue_exchangedText (depth : Nat) :
    Json.readValue (depth + 4) (Json.skipGap exchangedText.toList)
      = .ok (.obj exchangedFields, []) := by
  -- the characters of short pieces are known faster than those of a long text
  unfold exchangedText
  rw [String.toList_join]
  with_unfolding_all rfl

theorem read_exchangedText (depth : Nat) :
    Json.read (depth + 4) exchangedText = .ok (.obj exchangedFields) := by
  rw [Json.read, readValue_exchangedText]
  rfl

theorem ofJson_exchangedFields : Atlas.ofJson (.obj exchangedFields)
    = .ok { providers := [.obj exchangedTable], sheets := [("a", exchangedSheet)] } := by
  with_unfolding_all rfl

/-- The grid that it is. -/
def exchangedFile : FeatureFile := FeatureFile.ofFeatures none [.obj exchangedFields]

theorem parse?_exchangedText : FeatureFile.parse? exchangedText = some exchangedFile := by
  have hmark : exchangedText.startsWith "\ufeff" = false := by
    rw [String.startsWith_string_eq_false_iff, exchangedText, String.toList_join]
    decide +kernel
  have hlength : 4 ≤ exchangedText.length := by
    rw [exchangedText, String.length_join]
    decide +kernel
  have hread : Json.read? exchangedText = some (.obj exchangedFields) := by
    rw [Json.read?, ← Nat.sub_add_cancel hlength, read_exchangedText]
    rfl
  have hsystem : FeatureFile.system exchangedFields = none := by decide +kernel
  rw [FeatureFile.parse?, hmark, if_neg Bool.false_ne_true, hread]
  show some (FeatureFile.ofFeatures (FeatureFile.system exchangedFields) _) = _
  rw [hsystem, exchangedFile]

/-- The cell of the grid, whose first corner lies north of the second. -/
theorem cellNamed_exchangedFile :
    ∃ t c, CellTable.ofFeatures exchangedFile.srid exchangedFile.features 50000 = .ok t
      ∧ t.cellNamed ⟨"A", 0⟩ = .ok c
      ∧ c.southWest = some ⟨58, 5⟩ ∧ c.northEast = some ⟨57, 6⟩ := by
  have hcorners : ((CellTable.ofFeatures exchangedFile.srid exchangedFile.features 50000
      >>= fun t => t.cellNamed ⟨"A", 0⟩).toOption.map fun c => (c.southWest, c.northEast))
        = some (some ⟨58, 5⟩, some ⟨57, 6⟩) := by
    decide +kernel
  obtain ⟨c, hfound, hparts⟩ := ok_of_toOption hcorners
  obtain ⟨t, htable, hcell⟩ := Outcome.bind_eq_ok.mp hfound
  obtain ⟨hsouthWest, hnorthEast⟩ := Prod.mk.inj hparts
  exact ⟨t, c, htable, hcell, hsouthWest, hnorthEast⟩

/-- A folder with the text, and a library of conversions that always breaks. -/
def exchanged : Surroundings := { bare with files := Files.ofText exchangedText }

theorem loadOne_exchangedTable {t : CellTable Float}
    (ht : CellTable.ofFeatures exchangedFile.srid exchangedFile.features 50000 = .ok t) :
    ((Registry.builtin exchanged.files : Registry (Provider Float) String).loadOne
      (.obj exchangedTable)).outcome = .ok ("p", .table t) := by
  have hname : Registry.fieldText exchangedTable "name" = "p" := by decide +kernel
  have htype : Registry.fieldText exchangedTable "type" = Provider.fileType := by decide +kernel
  have hread : (Provider.readTable exchanged.files "g" .fiftyThousand).outcome = .ok (.table t) :=
    Provider.outcome_readTable (Files.find_ofText exchangedText) parse?_exchangedText
      (by decide +kernel) ht
  have hbuilt : ∀ named, (Provider.buildTable exchanged.files exchangedTable named).outcome
      = .ok (.table t) := fun named => hread
  rw [Registry.loadOne_file rfl (by rw [hname]; decide) htype, hname, hbuilt]
  rfl

theorem load_exchanged :
    (Atlas.load exchanged.deepest exchanged.files sheetAsked.config).outcome
      = .ok (some { providers := [.obj exchangedTable], sheets := [("a", exchangedSheet)] }) := by
  refine (Atlas.outcome_load (Files.find_ofText exchangedText)).trans ?_
  rw [Json.readOr, show exchanged.deepest = 986 + 4 from rfl, read_exchangedText]
  dsimp only
  rw [ok_bind, ofJson_exchangedFields]
  rfl

theorem carryOut_exchanged :
    ∃ f, (carryOut exchanged sheetAsked).outcome = .error f ∧ f.isOfTrellis = true := by
  obtain ⟨t, c, ht, hcell, hsouthWest, hnorthEast⟩ := cellNamed_exchangedFile
  have hspacing : (sheetAsked.placed exchangedSheet).gridSpacing = .ok ⟨1000⟩ := rfl
  obtain ⟨f, htrellis, hf⟩ :=
    Sheet.trellisOf_of_exchanged hspacing hsouthWest hnorthEast (by decide +kernel)
  obtain ⟨hstate, hfailure⟩ := Registry.load_cons_of_ok (loadOne_exchangedTable ht) []
  have hprovider : providerOf ((Registry.builtin exchanged.files : Registry _ String).load
      [.obj exchangedTable]).1 (.str "p") = .ok (.table t) := by
    rw [hstate]
    rfl
  have hload : ((Atlas.load exchanged.deepest exchanged.files sheetAsked.config).relabel
      RunNote.line).outcome
        = .ok (some { providers := [.obj exchangedTable], sheets := [("a", exchangedSheet)] }) :=
    load_exchanged
  refine ⟨f, ?_, hf⟩
  unfold carryOut
  rw [Work.outcome_bind_ok hload]
  refine Work.outcome_bind_error ?_ _
  refine produce_of_trellis (s := exchangedSheet) ?_ hfailure hprovider ?_ hcell htrellis
  · with_unfolding_all rfl
  · with_unfolding_all rfl

/-- That a sheet is unknown is told on a line, and nothing leaves the run; that
corners are exchanged leaves it. -/
theorem own_failure_leaves_iff_two_runs :
    (bare.LibraryApart ∧ (run bare sheetAsked).notes.countP (·.isCleanup) = 1
      ∧ (run bare sheetAsked).outcome = .ok 1
      ∧ .line (errorLine (.sheetUnknown "a" [])) ∈ (run bare sheetAsked).notes
      ∧ ¬ ∃ f, (run bare sheetAsked).outcome = .error f ∧ f.isOwn = true)
    ∧ exchanged.LibraryApart ∧ (run exchanged sheetAsked).notes.countP (·.isCleanup) = 1
      ∧ ∃ f, (run exchanged sheetAsked).outcome = .error f ∧ f.isOwn = true := by
  have hlibrary : bare.LibraryApart := by
    rintro ask c f ⟨⟩ ⟨⟩
    rfl
  have hexchanged : exchanged.LibraryApart := hlibrary
  obtain ⟨hleaves', hcleanup', -⟩ := own_failure_leaves_iff exchanged sheetAsked hexchanged
  refine ⟨?_, hexchanged, hcleanup', hleaves'.mpr carryOut_exchanged⟩
  obtain ⟨hleaves, hcleanup, hends⟩ := own_failure_leaves_iff bare sheetAsked hlibrary
  have hstays : ¬ ∃ f, (run bare sheetAsked).outcome = .error f ∧ f.isOwn = true := by
    rw [hleaves]
    rintro ⟨f, hf, htrellis⟩
    cases carryOut_bare.symm.trans hf
    cases htrellis
  rcases hends {} load_bare with ⟨-, htask | ⟨files, drawing, hproduced, -⟩⟩ | ⟨f, hf, -, hcode, hline⟩
    | ⟨f, hf, hreported, -⟩
  · cases htask
  · cases carryOut_bare.symm.trans hproduced
  · cases carryOut_bare.symm.trans hf
    exact ⟨hlibrary, hcleanup, hcode, hline, hstays⟩
  · cases carryOut_bare.symm.trans hf
    cases hreported

end CommandLine

end MapSheets
