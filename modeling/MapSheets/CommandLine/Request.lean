import MapSheets.CommandLine.Words
import MapSheets.Cell.Basic
import MapSheets.Number.Reading
import MapSheets.Sheet.Atlas

/-
What a command line asks for: a list of what there is, or the sheet of a
cell, which is told by its identifier or by a point.
-/

namespace MapSheets.CommandLine

/-- The options as they were given. -/
structure Options (α : Type) where
  config : String := Atlas.standardPath
  sheet : Option String := none
  mdgid : Option String := none
  lat : Option α := none
  lng : Option α := none
  srid : Int := geographicSrid
  output : Option String := none
  withoutBasemap : Bool := false
  pdf : Bool := false
  png : Bool := false
  list : Bool := false

/-- The cell whose sheet is asked for. -/
inductive Target (α : Type) where
  /-- The cell of an identifier, as it was written. -/
  | named (id : String)
  | point (p : LatLng α) (srid : Int)

/-- What is to be done. -/
inductive Task (α : Type) where
  | list
  | produce (sheet : String) (target : Target α)

/-- A task, and how it is to be done. -/
structure Request (α : Type) where
  task : Task α
  config : String
  /-- The output folder, where it is not that of the sheet. -/
  output : Option String
  withoutBasemap : Bool
  pdf : Bool
  png : Bool

namespace Options

/-- The options that there are. -/
def forms : List OptionForm :=
  [⟨["-h", "--help"], false⟩, ⟨["--config"], true⟩, ⟨["--sheet"], true⟩, ⟨["--mdgid"], true⟩,
   ⟨["--lat"], true⟩, ⟨["--lng"], true⟩, ⟨["--srid"], true⟩, ⟨["--output"], true⟩,
   ⟨["--no-basemap"], false⟩, ⟨["--pdf"], false⟩, ⟨["--png"], false⟩, ⟨["--list"], false⟩]

variable {α : Type} [NumberReading α]

/-- The number that a value writes. -/
def number (form : OptionForm) (value : String) : Except Stop α :=
  match NumberReading.read? value with
  | some x => .ok x
  | none => .error (.valueUnreadable form.label "float" value)

/-- The whole number that a value writes. -/
def whole (form : OptionForm) (value : String) : Except Stop Int :=
  match Reading.int? value with
  | some n => .ok n
  | none => .error (.valueUnreadable form.label "int" value)

/-- Takes an option; a later one counts more than an earlier one. -/
def take (o : Options α) (form : OptionForm) (value : String) : Except Stop (Options α) :=
  match form.name with
  | "--help" => .error .helpAsked
  | "--config" => .ok { o with config := value }
  | "--sheet" => .ok { o with sheet := some value }
  | "--mdgid" => .ok { o with mdgid := some value }
  | "--lat" => do return { o with lat := some (← number form value) }
  | "--lng" => do return { o with lng := some (← number form value) }
  | "--srid" => do return { o with srid := ← whole form value }
  | "--output" => .ok { o with output := some value }
  | "--no-basemap" => .ok { o with withoutBasemap := true }
  | "--pdf" => .ok { o with pdf := true }
  | "--png" => .ok { o with png := true }
  | "--list" => .ok { o with list := true }
  | _ => .ok o

/-- The cell that the options tell; an identifier counts more than a point. -/
def target (o : Options α) : Except Stop (Target α) :=
  match o.mdgid, o.lat, o.lng with
  | some id, _, _ => .ok (.named id)
  | none, some lat, some lng => .ok (.point ⟨lat, lng⟩ o.srid)
  | none, _, _ => .error .targetMissing

/-- The task that the options tell. -/
def task (o : Options α) : Except Stop (Task α) :=
  if o.list then .ok .list
  else match o.sheet with
    | none | some "" => .error .sheetMissing
    | some sheet => do return .produce sheet (← o.target)

end Options

variable {α : Type} [NumberReading α]

/-- The request of a command line. -/
def Request.ofWords (words : List String) : Except Stop (Request α) := do
  refuseAmbiguous Options.forms words
  let (options, left) ← collect Options.forms Options.take ({} : Options α) words
  if !left.isEmpty then throw (.wordsUnknown left)
  return {
    task := ← options.task
    config := options.config
    output := options.output
    withoutBasemap := options.withoutBasemap
    pdf := options.pdf
    png := options.png }

end MapSheets.CommandLine
