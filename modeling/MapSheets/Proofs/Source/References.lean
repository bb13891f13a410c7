import MapSheets.Proofs.Files
import MapSheets.Proofs.Source.Loading
import MapSheets.Proofs.Work
import MapSheets.Source.Kinds

/-
References among the providers of the program. A configuration of parts names
the provider that is divided. It counts what stood under that name just before
it, which is the last provider made for the name (`madeAll`): one of an earlier
configuration, or of an earlier loading, whether that ended well or not.

A reference is good (`Refers`), or something in it is wrong; what is looked at
first is told first (`Misrefers`). Either decides what becomes of the
configuration (`buildParts_of_refers`, `buildParts_of_misrefers`).

A provider of parts has the fine size itself, so it is never divided again, and
no other type makes anything but tables. The invariant is `Grounded`: what is
named is a table, or the parts of a table at 1:50 000. A reference is to a value
that was there, hence none dangles and none comes back to where it began.
-/

namespace MapSheets

namespace Provider

variable {α : Type} {history : List (String × Provider α)} {fields : ProviderConfig}
  {mode : PartMode} {base : Provider α} {named : String → Outcome (Provider α)} {f : Failure}

-- ============================================================== vocabulary

/-- The mode that a configuration of parts asks for: one that it names, or the
one that counts where it has no such field. -/
def AsksFor (fields : ProviderConfig) (mode : PartMode) : Prop :=
  fields.lookup "part_mode" = none ∧ mode = .eastAligned
    ∨ fields.lookup "part_mode" = some (.str mode.name)

/-- After some providers were made, a configuration refers to one of them that
can be divided: the last that was made for the name. -/
structure Refers (history : List (String × Provider α)) (fields : ProviderConfig)
    (mode : PartMode) (base : Provider α) : Prop where
  given : Registry.fieldText fields "provider" ≠ ""
  known : Registry.latest? history (Registry.fieldText fields "provider") = some base
  mode : AsksFor fields mode
  size : base.size = .fiftyThousand

/-- What is wrong with the reference of a configuration: the first of the name,
its provider, the mode and the size of the provider that is not as it should be. -/
inductive Misrefers (history : List (String × Provider α)) (fields : ProviderConfig) :
    Failure → Prop
  | blank (h : Registry.fieldText fields "provider" = "") :
      Misrefers history fields .baseNameBlank
  | unknown (hgiven : Registry.fieldText fields "provider" ≠ "")
      (h : Registry.latest? history (Registry.fieldText fields "provider") = none) :
      Misrefers history fields (.providerUnknown (Registry.fieldText fields "provider"))
  | mode {base : Provider α} {v : Json} (hgiven : Registry.fieldText fields "provider" ≠ "")
      (hknown : Registry.latest? history (Registry.fieldText fields "provider") = some base)
      (hmode : fields.lookup "part_mode" = some v) (h : ∀ mode : PartMode, v ≠ .str mode.name) :
      Misrefers history fields (.partModeUnknown v.display)
  | size {base : Provider α} {mode : PartMode}
      (hgiven : Registry.fieldText fields "provider" ≠ "")
      (hknown : Registry.latest? history (Registry.fieldText fields "provider") = some base)
      (hmode : AsksFor fields mode) (h : base.size ≠ .fiftyThousand) :
      Misrefers history fields (.sizeUnsupported base.size.label)

-- =================================================================== modes

theorem ofName?_name (mode : PartMode) : PartMode.ofName? mode.name = some mode := by
  cases mode <;> decide

theorem name_of_ofName? {name : String} (h : PartMode.ofName? name = some mode) :
    mode.name = name := by
  have hfound := List.find?_some h
  simpa using hfound

theorem configuredMode_of_asksFor (h : AsksFor fields mode) : configuredMode fields = .ok mode := by
  unfold configuredMode
  rcases h with ⟨hnone, rfl⟩ | hsome
  · rw [hnone]
  · simp only [hsome, ofName?_name]

theorem configuredMode_of_other {v : Json} (hv : fields.lookup "part_mode" = some v)
    (h : ∀ mode : PartMode, v ≠ .str mode.name) :
    configuredMode fields = .error (.partModeUnknown v.display) := by
  unfold configuredMode
  rw [hv]
  cases v with
  | str name =>
      cases hname : PartMode.ofName? name with
      | none => simp only [hname]
      | some mode => exact absurd (congrArg Json.str (name_of_ofName? hname).symm) (h mode)
  | null => rfl
  | bool b => rfl
  | int n => rfl
  | float x => rfl
  | arr elements => rfl
  | obj fields => rfl

/-- A configuration asks for a mode, or for something that is none. -/
theorem asksFor_or_other (fields : ProviderConfig) :
    (∃ mode, AsksFor fields mode)
      ∨ ∃ v, fields.lookup "part_mode" = some v ∧ ∀ mode : PartMode, v ≠ .str mode.name := by
  cases hv : fields.lookup "part_mode" with
  | none => exact Or.inl ⟨.eastAligned, Or.inl ⟨hv, rfl⟩⟩
  | some v =>
      by_cases hmode : ∃ mode : PartMode, v = .str mode.name
      · obtain ⟨mode, rfl⟩ := hmode
        exact Or.inl ⟨mode, Or.inr hv⟩
      · rw [not_exists] at hmode
        exact Or.inr ⟨v, rfl, hmode⟩

-- ============================================================== references

theorem refers_or_misrefers (history : List (String × Provider α)) (fields : ProviderConfig) :
    (∃ mode base, Refers history fields mode base) ∨ ∃ f, Misrefers history fields f := by
  by_cases hgiven : Registry.fieldText fields "provider" = ""
  · exact Or.inr ⟨_, .blank hgiven⟩
  cases hknown : Registry.latest? history (Registry.fieldText fields "provider") with
  | none => exact Or.inr ⟨_, .unknown hgiven hknown⟩
  | some base =>
      rcases asksFor_or_other fields with ⟨mode, hmode⟩ | ⟨v, hv, hmode⟩
      · by_cases hsize : base.size = .fiftyThousand
        · exact Or.inl ⟨mode, base, hgiven, hknown, hmode, hsize⟩
        · exact Or.inr ⟨_, .size hgiven hknown hmode hsize⟩
      · exact Or.inr ⟨_, .mode hgiven hknown hv hmode⟩

/-- What a builder may ask for is the last provider that was made for the name. -/
def Answers (named : String → Outcome (Provider α)) (history : List (String × Provider α)) : Prop :=
  ∀ name, named name = match Registry.latest? history name with
    | some provider => .ok provider
    | none => .error (.providerUnknown name)

/-- Where there is a provider and a mode, nothing but the size is left to be looked at. -/
theorem buildParts_of_known (hgiven : Registry.fieldText fields "provider" ≠ "")
    (hbase : named (Registry.fieldText fields "provider") = .ok base)
    (hmode : configuredMode fields = .ok mode) :
    (buildParts fields named).outcome = ofParts mode base := by
  unfold buildParts
  simp only [hgiven, if_false, hbase, hmode, Work.lift_ok_bind]
  rfl

/-- A good reference is divided as it was asked. -/
theorem buildParts_of_refers (hnamed : Answers named history)
    (h : Refers history fields mode base) :
    (buildParts fields named).outcome = .ok (.parts mode base) := by
  have hbase := hnamed (Registry.fieldText fields "provider")
  rw [h.known] at hbase
  rw [buildParts_of_known h.given hbase (configuredMode_of_asksFor h.mode)]
  exact if_pos h.size

theorem buildParts_of_misrefers (hnamed : Answers named history)
    (h : Misrefers history fields f) : (buildParts fields named).outcome = .error f := by
  have hbase := hnamed (Registry.fieldText fields "provider")
  cases h with
  | blank h =>
      unfold buildParts
      simp only [h, if_true]
      rfl
  | unknown hgiven h =>
      rw [h] at hbase
      unfold buildParts
      simp only [hgiven, if_false, hbase, Work.lift_error_bind]
      rfl
  | mode hgiven hknown hmode h =>
      rw [hknown] at hbase
      unfold buildParts
      simp only [hgiven, if_false, hbase, Work.lift_ok_bind, configuredMode_of_other hmode h,
        Work.lift_error_bind]
      rfl
  | size hgiven hknown hmode h =>
      rw [hknown] at hbase
      rw [buildParts_of_known hgiven hbase (configuredMode_of_asksFor hmode)]
      exact if_neg h

-- ================================================================ builders

/-- What the program's types of providers make: tables, and parts of tables at
1:50 000. -/
def Grounded : Provider α → Prop
  | table _ => True
  | parts _ base => ∃ t, base = table t ∧ t.size = .fiftyThousand
  | single _ _ => False

/-- A provider that can be divided is a table; parts cannot be. -/
theorem Grounded.parts (h : Grounded base) (hsize : base.size = .fiftyThousand)
    (mode : PartMode) : Grounded (.parts mode base) := by
  cases base with
  | table t => exact ⟨t, rfl, hsize⟩
  | parts _ _ => cases hsize
  | single _ _ => exact h.elim

/-- A file of features that can be held in a table is read as that table. -/
theorem outcome_readTable {files : Files} {path text : String} {size : CellSize}
    {file : FeatureFile} {t : CellTable Float}
    (hfile : files.find (FilePath.normal path) = .ok (.file text))
    (hparse : FeatureFile.parse? text = some file) (hcheck : file.check = .ok ())
    (htable : CellTable.ofFeatures file.srid file.features size.denominator = .ok t) :
    (readTable files path size).outcome = .ok (.table t) := by
  unfold readTable
  simp only [hfile, hparse, hcheck, htable, Work.lift_ok_bind]
  rfl

/-- Reading a file makes a table, if it makes anything. -/
theorem grounded_of_readTable {files : Files} {path : String} {size : CellSize}
    {provider : Provider Float} (h : (readTable files path size).outcome = .ok provider) :
    Grounded provider := by
  unfold readTable at h
  obtain ⟨place, -, h⟩ := Work.outcome_bind_eq_ok.mp h
  cases place with
  | file text =>
      obtain ⟨_, -, h⟩ := Work.outcome_bind_eq_ok.mp h
      cases hfile : FeatureFile.parse? text with
      | none =>
          simp only [hfile] at h
          cases h
      | some file =>
          simp only [hfile] at h
          obtain ⟨_, -, h⟩ := Work.outcome_bind_eq_ok.mp h
          obtain ⟨_, -, h⟩ := Work.outcome_bind_eq_ok.mp h
          obtain ⟨t, -, h⟩ := Work.outcome_bind_eq_ok.mp h
          cases h
          trivial
  | folder =>
      obtain ⟨_, -, h⟩ := Work.outcome_bind_eq_ok.mp h
      cases h
  | missing => cases h
  | blocked => cases h
  | tooLong => cases h

theorem grounded_of_buildTable {files : Files} {named : String → Outcome (Provider Float)}
    {provider : Provider Float} (h : (buildTable files fields named).outcome = .ok provider) :
    Grounded provider := by
  simp only [buildTable] at h
  split at h
  case isTrue => cases h
  case isFalse =>
    obtain ⟨size, -, h⟩ := Work.outcome_bind_eq_ok.mp h
    split at h
    case h_1 => exact grounded_of_readTable h
    case h_2 => cases h

theorem grounded_of_buildParts (hnamed : Answers named history)
    (hgrounded : ∀ name provider, Registry.latest? history name = some provider →
      Grounded provider)
    {provider : Provider α} (h : (buildParts fields named).outcome = .ok provider) :
    Grounded provider := by
  rcases refers_or_misrefers history fields with ⟨mode, base, hrefers⟩ | ⟨f, hmisrefers⟩
  · rw [buildParts_of_refers hnamed hrefers] at h
    cases h
    exact (hgrounded _ _ hrefers.known).parts hrefers.size mode
  · rw [buildParts_of_misrefers hnamed hmisrefers] at h
    cases h

end Provider

namespace Registry

open Provider

variable {κ : Type} {r : Registry (Provider Float) κ} {files : Files} {fields : ProviderConfig}
  {history : List (String × Provider Float)} {mode : PartMode} {base : Provider Float}
  {f : Failure}

-- ================================================================== steps

/-- A registry of the program's types, which reads such files from now on. -/
def reading (files : Files) (r : Registry (Provider Float) κ) : Registry (Provider Float) κ :=
  { r with types := (builtin files : Registry (Provider Float) κ).types }

theorem answers_of_lookup (h : ∀ name, r.byName.lookup name = latest? history name) :
    Answers r.named history := by
  intro name
  unfold named
  rw [h name]
  cases latest? history name with
  | none => rfl
  | some provider => rfl

/-- A configuration of parts is loaded as its parts are built. -/
theorem loadOne_parts (htypes : r.types = (builtin files : Registry _ κ).types)
    (hname : fieldText fields "name" ≠ "") (htype : fieldText fields "type" = partsType) :
    (r.loadOne (.obj fields)).outcome
      = (buildParts fields r.named).outcome.map (fieldText fields "name", ·) := by
  have hbuilder : r.types.lookup (fieldText fields "type") = some buildParts := by
    rw [htype, htypes]
    rfl
  exact loadOne_of_type hname (by rw [htype]; decide) hbuilder

/-- A configuration of a file is loaded as its table is built. -/
theorem loadOne_file (htypes : r.types = (builtin files : Registry _ κ).types)
    (hname : fieldText fields "name" ≠ "") (htype : fieldText fields "type" = fileType) :
    (r.loadOne (.obj fields)).outcome
      = (buildTable files fields r.named).outcome.map (fieldText fields "name", ·) := by
  have hbuilder : r.types.lookup (fieldText fields "type") = some (buildTable files) := by
    rw [htype, htypes]
    rfl
  exact loadOne_of_type hname (by rw [htype]; decide) hbuilder

/-- A configuration that is loaded has fields, and a provider was made of them. -/
theorem built_of_loadOne {config : Json} {name : String} {provider : Provider Float}
    (h : (r.loadOne config).outcome = .ok (name, provider)) :
    ∃ fields, (r.providerFor (fieldText fields "type") fields).outcome = .ok provider := by
  cases config with
  | obj fields =>
      simp only [loadOne] at h
      split at h
      case isTrue => cases h
      split at h
      case isTrue => cases h
      rw [Work.outcome_note] at h
      obtain ⟨_, hbuilt, h⟩ := Work.outcome_bind_eq_ok.mp h
      cases h
      exact ⟨fields, hbuilt⟩
  | null => cases h
  | bool b => cases h
  | int n => cases h
  | float x => cases h
  | str s => cases h
  | arr elements => cases h

/-- Whatever stands under a name in a registry is a table, or the parts of a table. -/
def IsGrounded (r : Registry (Provider Float) κ) : Prop :=
  ∀ name provider, r.byName.lookup name = some provider → Grounded provider

theorem IsGrounded.providerFor (h : IsGrounded r) {type : String} {provider : Provider Float}
    (hbuilt : ((r.reading files).providerFor type fields).outcome = .ok provider) :
    Grounded provider := by
  have hnamed : Answers (r.reading files).named r.byName.reverse :=
    answers_of_lookup fun name => by rw [latest?, List.reverse_reverse]; rfl
  unfold Registry.providerFor at hbuilt
  have htypes : (r.reading files).types
      = [(fileType, buildTable files), (partsType, buildParts)] := rfl
  rw [htypes, Entries.lookup_cons_eq, Entries.lookup_cons_eq] at hbuilt
  by_cases hfile : type = fileType
  · rw [if_pos hfile] at hbuilt
    exact grounded_of_buildTable hbuilt
  · rw [if_neg hfile] at hbuilt
    by_cases hparts : type = partsType
    · rw [if_pos hparts] at hbuilt
      refine grounded_of_buildParts hnamed (fun name provider hknown => ?_) hbuilt
      rw [latest?, List.reverse_reverse] at hknown
      exact h name provider hknown
    · rw [if_neg hparts] at hbuilt
      cases hbuilt

theorem IsGrounded.load (h : IsGrounded r) (files : Files) (configs : List Json) :
    IsGrounded ((r.reading files).load configs).1 := by
  -- the types stay the program's, so one of its two builders made each provider
  have hkept := load_keeps (P := fun r' => IsGrounded r' ∧ r'.reading files = r')
    (r := r.reading files) ?_ configs ⟨h, rfl⟩
  · exact hkept.1
  rintro r' config name provider ⟨hr', htypes⟩ hone
  obtain ⟨fields, hbuilt⟩ := built_of_loadOne hone
  rw [← htypes] at hbuilt
  refine ⟨fun n p hp => ?_, by rw [← htypes]; rfl⟩
  unfold addNamed at hp
  rw [Entries.lookup_set] at hp
  split at hp
  case isTrue =>
    cases hp
    exact hr'.providerFor hbuilt
  case isFalse => exact hr' n p hp

-- ================================================================ loadings

/-- Loadings in turn, each with the files that are there by then. -/
def loadAll (r : Registry (Provider Float) κ) :
    List (Files × List Json) → Registry (Provider Float) κ
  | [] => r
  | (files, configs) :: rest => loadAll ((r.reading files).load configs).1 rest

/-- The providers that loadings in turn make, each with its name, in order. -/
def madeAll (r : Registry (Provider Float) κ) :
    List (Files × List Json) → List (String × Provider Float)
  | [] => []
  | (files, configs) :: rest =>
    (r.reading files).made configs ++ madeAll ((r.reading files).load configs).1 rest

/-- Under a name stands the last provider that any of the loadings made for it. -/
theorem lookup_loadAll (r : Registry (Provider Float) κ) (loads : List (Files × List Json))
    (name : String) :
    (r.loadAll loads).byName.lookup name
      = (latest? (r.madeAll loads) name).or (r.byName.lookup name) := by
  induction loads generalizing r with
  | nil => rfl
  | cons loading rest ih =>
      obtain ⟨files, configs⟩ := loading
      unfold loadAll madeAll
      rw [ih, lookup_load, latest?_append, Option.or_assoc]
      rfl

theorem IsGrounded.loadAll (h : IsGrounded r) (loads : List (Files × List Json)) :
    IsGrounded (r.loadAll loads) := by
  induction loads generalizing r with
  | nil => exact h
  | cons loading rest ih => exact ih (h.load loading.1 loading.2)

theorem loadAll_append_singleton (r : Registry (Provider Float) κ)
    (loads : List (Files × List Json)) (files : Files) (configs : List Json) :
    r.loadAll (loads ++ [(files, configs)])
      = (((r.loadAll loads).reading files).load configs).1 := by
  induction loads generalizing r with
  | nil => rfl
  | cons loading rest ih => exact ih _

-- ================================================================ soundness

/-- Loading comes to a configuration of parts with a name, counted from zero: all
before it can be loaded. -/
structure ComesTo (r : Registry (Provider Float) κ) (configs : List Json) (k : Nat)
    (fields : ProviderConfig) : Prop where
  found : configs[k]? = some (.obj fields)
  named : fieldText fields "name" ≠ ""
  typed : fieldText fields "type" = partsType
  loaded : Outcome.failure? (r.load (configs.take k)).2.outcome = none

/-- A configuration of parts that loading comes to is loaded as its parts are
built from what was named by then. -/
theorem ComesTo.load {configs : List Json} {k : Nat}
    (h : (r.reading files).ComesTo configs k fields) :
    Outcome.failure? ((r.reading files).load (configs.take (k + 1))).2.outcome
        = Outcome.failure?
          (buildParts fields ((r.reading files).load (configs.take k)).1.named).outcome
      ∧ ∀ provider,
        (buildParts fields ((r.reading files).load (configs.take k)).1.named).outcome
            = .ok provider →
          ((r.reading files).load (configs.take (k + 1))).1.named (fieldText fields "name")
            = .ok provider := by
  obtain ⟨hstate, hfailure⟩ := load_take_succ h.found h.loaded
  rw [hstate, hfailure]
  have hone := loadOne_parts (load_frame (r.reading files) (configs.take k)).1 h.named h.typed
  generalize ((r.reading files).load (configs.take k)).1 = before at hone ⊢
  cases hbuilt : (buildParts fields before.named).outcome with
  | error f =>
      rw [hbuilt] at hone
      exact ⟨(load_cons_of_error hone []).2, fun provider h => by cases h⟩
  | ok built =>
      rw [hbuilt] at hone
      obtain ⟨hlast, hlastFailure⟩ := load_cons_of_ok hone []
      refine ⟨hlastFailure, fun provider h => ?_⟩
      cases h
      have hlookup := lookup_addNamed before (fieldText fields "name") built
        (fieldText fields "name")
      rw [latest?, List.reverse_singleton, List.lookup_cons_self, Option.some_or] at hlookup
      rw [hlast]
      unfold Registry.named Registry.load
      rw [hlookup]

/-- After any loadings, a configuration of parts that the next one comes to
fails with what is wrong with its reference, and is loaded if and only if that
is good; under its name stand then the parts of the very provider that it
refers to. And parts in a registry are always those of a table at 1:50 000. -/
theorem parts_refer_to_tables {start : Files} (hr : r = builtin start)
    (loads : List (Files × List Json)) :
    (∀ files configs k fields, ((r.loadAll loads).reading files).ComesTo configs k fields →
        (∀ f, ((r.loadAll loads).reading files).StopsAt configs k f
            ↔ Misrefers (r.madeAll (loads ++ [(files, configs.take k)])) fields f)
          ∧ (Outcome.failure?
                (((r.loadAll loads).reading files).load (configs.take (k + 1))).2.outcome = none
            ↔ ∃ mode base,
              Refers (r.madeAll (loads ++ [(files, configs.take k)])) fields mode base)
          ∧ ∀ mode base, Refers (r.madeAll (loads ++ [(files, configs.take k)])) fields mode base →
            (((r.loadAll loads).reading files).load (configs.take (k + 1))).1.named
              (fieldText fields "name") = .ok (.parts mode base))
      ∧ ∀ name mode base, (r.loadAll loads).named name = .ok (.parts mode base) →
        ∃ t, base = .table t ∧ t.size = .fiftyThousand := by
  have hnone : ∀ name, r.byName.lookup name = none := fun name => by rw [hr]; rfl
  constructor
  · intro files configs k fields hcomes
    obtain ⟨hfailure, hnamed⟩ := hcomes.load
    have hanswers : Answers (((r.loadAll loads).reading files).load (configs.take k)).1.named
        (r.madeAll (loads ++ [(files, configs.take k)])) := by
      refine answers_of_lookup fun name => ?_
      rw [← loadAll_append_singleton, lookup_loadAll, hnone, Option.or_none]
    -- from here on it only matters that the names answer from the history
    generalize r.madeAll (loads ++ [(files, configs.take k)]) = history at hanswers ⊢
    have hgood : ∀ mode base, Refers history fields mode base →
        Outcome.failure?
            (((r.loadAll loads).reading files).load (configs.take (k + 1))).2.outcome = none
          ∧ (((r.loadAll loads).reading files).load (configs.take (k + 1))).1.named
              (fieldText fields "name") = .ok (.parts mode base) := by
      intro mode base h
      have hbuilt := buildParts_of_refers hanswers h
      exact ⟨by rw [hfailure, hbuilt]; rfl, hnamed _ hbuilt⟩
    have hbad : ∀ f, Misrefers history fields f → Outcome.failure?
        (((r.loadAll loads).reading files).load (configs.take (k + 1))).2.outcome = some f := by
      intro f h
      rw [hfailure, buildParts_of_misrefers hanswers h]
      rfl
    have hcases := refers_or_misrefers history fields
    refine ⟨fun f => ⟨?_, fun h => ⟨hcomes.loaded, hbad f h⟩⟩,
      ⟨?_, fun ⟨mode, base, h⟩ => (hgood mode base h).1⟩, fun mode base h => (hgood mode base h).2⟩
    case refine_1 =>
      rintro ⟨-, hat⟩
      rcases hcases with ⟨mode, base, h⟩ | ⟨f', h⟩
      · rw [(hgood mode base h).1] at hat
        cases hat
      · rw [hbad f' h] at hat
        cases hat
        exact h
    case refine_2 =>
      intro hloaded
      refine hcases.resolve_right fun ⟨f, h⟩ => ?_
      rw [hbad f h] at hloaded
      cases hloaded
  · intro name mode base h
    have hgrounded : IsGrounded (r.loadAll loads) :=
      IsGrounded.loadAll (fun name provider h => by rw [hnone] at h; cases h) loads
    unfold named at h
    split at h
    case h_1 provider hlookup =>
      cases h
      exact hgrounded name _ hlookup
    case h_2 => cases h

-- =========================================================== an empty grid

/-- A file of features that has none. -/
def emptyText : String := "\x7b\"type\": \"FeatureCollection\", \"features\": []\x7d"

/-- The folder with the file. -/
abbrev emptyFolder : Files := Files.ofText emptyText

/-- A table of the file. -/
def emptyTable : ProviderConfig :=
  [("name", .str "grid"), ("type", .str "geojson"), ("file", .str "g")]

/-- The parts of its cells. -/
def emptyParts : ProviderConfig :=
  [("name", .str "parts"), ("type", .str "grid5k"), ("provider", .str " grid ")]

theorem parse?_file : FeatureFile.parse? emptyText = some ⟨none, []⟩ := by
  have hsrid : (FeatureFile.parse? emptyText).map (·.srid) = some none := by decide +kernel
  have hfeatures : (FeatureFile.parse? emptyText).map (·.features.length) = some 0 := by
    decide +kernel
  cases hfile : FeatureFile.parse? emptyText with
  | none =>
      rw [hfile] at hsrid
      cases hsrid
  | some file =>
      obtain ⟨srid, features⟩ := file
      rw [hfile] at hsrid hfeatures
      cases hsrid
      cases List.length_eq_zero_iff.mp (Option.some.inj hfeatures)
      rfl

theorem loadOne_table (r : Registry (Provider Float) κ) :
    ((r.reading emptyFolder).loadOne (.obj emptyTable)).outcome
      = .ok ("grid", .table ⟨[], .fiftyThousand⟩) := by
  have hname : fieldText emptyTable "name" = "grid" := by decide +kernel
  have htype : fieldText emptyTable "type" = fileType := by decide +kernel
  have hread : (readTable emptyFolder "g" .fiftyThousand).outcome
      = .ok (.table ⟨[], .fiftyThousand⟩) :=
    outcome_readTable (Files.find_ofText emptyText) parse?_file rfl rfl
  have hbuilt : (buildTable emptyFolder emptyTable (r.reading emptyFolder).named).outcome
      = .ok (.table ⟨[], .fiftyThousand⟩) := hread
  have htypes : (r.reading emptyFolder).types = (builtin emptyFolder : Registry _ κ).types := rfl
  rw [loadOne_file htypes (by rw [hname]; decide) htype, hname, hbuilt]
  rfl

/-- The parts of a table without cells, loaded right after it. -/
theorem parts_refer_to_tables_empty :
    ((builtin emptyFolder : Registry _ Unit).reading emptyFolder).ComesTo
        [.obj emptyTable, .obj emptyParts] 1 emptyParts
      ∧ (((builtin emptyFolder : Registry _ Unit).reading emptyFolder).load
          [.obj emptyTable, .obj emptyParts]).1.named "parts"
        = .ok (.parts .eastAligned (.table ⟨[], .fiftyThousand⟩)) := by
  have hone := loadOne_table (builtin emptyFolder : Registry _ Unit)
  have hname : fieldText emptyParts "name" = "parts" := by decide +kernel
  have hcomes : ((builtin emptyFolder : Registry _ Unit).reading emptyFolder).ComesTo
      [.obj emptyTable, .obj emptyParts] 1 emptyParts := by
    refine ⟨rfl, ?_, by decide +kernel, (load_cons_of_ok hone []).2⟩
    rw [hname]
    decide
  have hmade : (builtin emptyFolder : Registry _ Unit).madeAll
      ([] ++ [(emptyFolder, [Json.obj emptyTable, .obj emptyParts].take 1)])
        = [("grid", .table ⟨[], .fiftyThousand⟩)] := by
    simp only [List.nil_append, madeAll, List.take_succ_cons, List.take_zero, made, hone]
    rfl
  have hsound := (parts_refer_to_tables (r := (builtin emptyFolder : Registry _ Unit)) rfl []).1
    emptyFolder _ _ _ hcomes
  have hrefers : Refers ((builtin emptyFolder : Registry _ Unit).madeAll
      ([] ++ [(emptyFolder, [Json.obj emptyTable, .obj emptyParts].take 1)])) emptyParts
      .eastAligned (.table ⟨[], .fiftyThousand⟩) := by
    have hgiven : fieldText emptyParts "provider" = "grid" := by decide +kernel
    rw [hmade]
    refine ⟨?_, ?_, Or.inl ⟨rfl, rfl⟩, rfl⟩
    · rw [hgiven]
      decide
    · rw [hgiven]
      rfl
  have hnamed := hsound.2.2 _ _ hrefers
  rw [hname] at hnamed
  exact ⟨hcomes, hnamed⟩

end Registry

end MapSheets
