import MapSheets.Calendar.Fault
import MapSheets.Number.Fault

/-
Everything that can go wrong between a request and a printed sheet, one
constructor a cause. The wording is in one function, `Failure.message`, and
the family a cause belongs to in another, so the code that fails says why
and nothing about how it is told.

Coordinates in a cause are already text, since causes outlive the field of
measure in which they arose.
-/

namespace MapSheets

/-- Why a request came to nothing. -/
inductive Failure where
  -- calculation
  | fault (f : Fault)
  -- places on the globe
  | zoneOutOfRange (number : Int)
  | polarPoint (lng lat : String)
  | zoneRefused (zone : Int) (lng lat : String)
  | unprojectable (lng lat : String) (zone : Int)
  | polarFrame (topLeft bottomRight : String)
  | referenceUnknown (srid : Int)
  | ellipsoidRefused
  /-- The flattening of an ellipsoid vanishes against one. -/
  | ellipsoidTooRound
  | outsideMilitaryGrid
  -- frames and their bars
  | frameInvalid (topLeft bottomRight : String)
  | edgeBackward (start finish : String)
  | barsParallel
  /-- A box to cut to has a side that is not finite. -/
  | boundsUnlimited
  | interrupted (index : Int)
  -- lettered grids
  | rowsOutOfRange (rows : Int)
  | colsOutOfRange (cols : Int)
  -- layers
  | layerTaken (id : String)
  | attributeInvalid (value name tag : String)
  -- cells and their sources
  | cornerMissing (cell corner : String)
  | cornersInvalid (cell : String)
  | extentInvalid (extent : String)
  | noCell
  | noCellAt (lat lng : String)
  | noCellNamed (id : String)
  | noCellIn (extent : String)
  | noneFound (text : String)
  | partOutOfRange (part : Int)
  | sizeUnsupported (size : String)
  | sizeUnknown
  | baseNameBlank
  | partModeUnknown (shown : String)
  | fileUnnamed
  | scaleUnsupported (shown : String)
  | fileMissing (path : String)
  | date (f : DateFault)
  /-- The ring of a polygon does not end where it begins. -/
  | ringOpen
  -- the registry
  | typeTaken (name : String)
  | typeUnknown (name : String)
  | providerUnknown (name : String)
  | providerUnnamed (config : String)
  | providerUntyped (name : String)
  | unbuildable (tag : String)
  -- sheet settings
  | sheetNameBlank
  | scaleNotPositive (sheet : String)
  | pageNotPositive (sheet : String)
  | spacingNotPositive (sheet : String)
  | gratingNotDrawable (sheet : String)
  | settingsUnknown (names : List String)
  | settingsInvalid (shown : String)
  | sheetTwice (name : String)
  | sheetUnknown (name : String) (known : List String)
  | configUnreadable (path : String)
  | providerMissing (sheet : String)
  -- status events
  | statusUnreadable
  | statusNotObject (kind : String)
  | statusUnknown (name : String)
  -- base maps and converters
  | basemapSize (width height : Int)
  | noTiles (failed missing : Nat)
  | basemap (text : String)
  | windowTooLarge (pixels : Nat)
  | exportFailed (path : String)
  -- values of the wrong shape
  | nestedTooDeep
  | partAbsent (text : String)
  | wrongOperand (text : String)
  | keyAbsent (shown : String)
  | indexAbsent (text : String)
  | templateInvalid (text : String)
  /-- A number is the code of no character. -/
  | characterAbsent
  | countWrong (expected found : Nat)
  /-- A failure of a program outside, under its own name. -/
  | foreign (name text : String)
  deriving DecidableEq, Repr

namespace Failure

/-- The families of causes, by the part of the work that they stop. -/
inductive Family where
  | value
  | overflow
  | zeroDivision
  | wrongShape
  | wrongOperand
  | absentKey
  | absentIndex
  | projection
  | grating
  | grid
  | notFound
  | blankBase
  | partNumber
  | cellSize
  | typeTaken
  | typeUnknown
  | providerUnknown
  | sheet
  | status
  | basemap
  | conversion
  | imageSize
  | reference
  | transformation
  | geometry
  | militaryGrid
  | date
  | timeOfDay
  | nesting
  | foreign
  deriving DecidableEq, Repr

/-- The family of a cause. -/
def family : Failure → Family
  | fault .infinite | fault .tooLarge | fault .wholeTooLarge | characterAbsent => .overflow
  | fault .divisionByZero | fault .remainderByZero => .zeroDivision
  | fault _ | zoneOutOfRange _ | frameInvalid _ _ | edgeBackward _ _ | barsParallel
  | layerTaken _ | sizeUnknown | countWrong _ _ | templateInvalid _ => .value
  | polarPoint _ _ | zoneRefused _ _ _ | unprojectable _ _ _ | polarFrame _ _ => .projection
  | referenceUnknown _ | ellipsoidRefused => .reference
  | ellipsoidTooRound => .transformation
  | boundsUnlimited | ringOpen => .geometry
  | outsideMilitaryGrid => .militaryGrid
  | rowsOutOfRange _ | colsOutOfRange _ => .grating
  | interrupted _ | cornerMissing _ _ | cornersInvalid _ | extentInvalid _ | partModeUnknown _
  | fileUnnamed | scaleUnsupported _ | fileMissing _ | providerUnnamed _ | providerUntyped _
  | unbuildable _ => .grid
  | noCell | noCellAt _ _ | noCellNamed _ | noCellIn _ | noneFound _ => .notFound
  | baseNameBlank => .blankBase
  | partOutOfRange _ => .partNumber
  | sizeUnsupported _ => .cellSize
  | date (.number _) | date (.missing _ _) | date (.zoneUnknown _ _) | date .zoneTooFar => .value
  | date .yearTooLarge => .overflow
  | date (.timeOnly _) => .timeOfDay
  | date _ => .date
  | typeTaken _ => .typeTaken
  | typeUnknown _ => .typeUnknown
  | providerUnknown _ => .providerUnknown
  | sheetNameBlank | scaleNotPositive _ | pageNotPositive _ | spacingNotPositive _
  | gratingNotDrawable _ | settingsUnknown _ | settingsInvalid _ | sheetTwice _
  | sheetUnknown _ _ | configUnreadable _ | providerMissing _ => .sheet
  | statusUnreadable | statusNotObject _ | statusUnknown _ => .status
  | basemapSize _ _ | noTiles _ _ | basemap _ => .basemap
  | exportFailed _ => .conversion
  | windowTooLarge _ => .imageSize
  | partAbsent _ => .wrongShape
  | wrongOperand _ | attributeInvalid _ _ _ => .wrongOperand
  | keyAbsent _ => .absentKey
  | indexAbsent _ => .absentIndex
  | nestedTooDeep => .nesting
  | foreign _ _ => .foreign

/-- The name under which a family of causes is told. -/
def Family.name : Family → String
  | value => "ValueError"
  | overflow => "OverflowError"
  | zeroDivision => "ZeroDivisionError"
  | wrongShape => "AttributeError"
  | wrongOperand => "TypeError"
  | absentKey => "KeyError"
  | absentIndex => "IndexError"
  | projection => "ProjectionError"
  | grating => "GratingError"
  | grid => "GridError"
  | notFound => "NotFoundError"
  | blankBase => "BlankSubproviderError"
  | partNumber => "InvalidSheetNumberError"
  | cellSize => "UnsupportedCellSizeError"
  | typeTaken => "ProviderAlreadyRegisteredError"
  | typeUnknown => "ProviderNotRegisteredError"
  | providerUnknown => "ProviderNotFoundError"
  | sheet => "SheetError"
  | status => "StatusError"
  | basemap => "BasemapError"
  | conversion => "ExportError"
  | imageSize => "DecompressionBombError"
  | reference => "CRSError"
  | transformation => "ProjError"
  | geometry => "GEOSException"
  | militaryGrid => "MGRSError"
  | date => "DateParseError"
  | timeOfDay => "ParserError"
  | nesting => "RecursionError"
  | foreign => "RuntimeError"

/-- The name under which a cause is told. -/
def name : Failure → String
  | foreign name _ => name
  | f => f.family.name

/-- What is said of a cause. -/
def message : Failure → String
  | fault f => f.message
  | zoneOutOfRange n => "UTM zone must be between 1 and 60, got " ++ toString n
  | polarPoint lng lat =>
    "(" ++ lng ++ ", " ++ lat ++ ") is in a polar region; UPS applies, not UTM"
  | zoneRefused zone lng lat =>
    "invalid UTM zone " ++ toString zone ++ " for (" ++ lng ++ ", " ++ lat ++ ")"
  | unprojectable lng lat zone =>
    "could not project (" ++ lng ++ ", " ++ lat ++ ") to UTM zone " ++ toString zone
  | polarFrame topLeft bottomRight =>
    "frame " ++ topLeft ++ " " ++ bottomRight ++ " is in a polar region"
  | referenceUnknown srid =>
    "Invalid projection: EPSG:" ++ toString srid
      ++ ": (Internal Proj Error: proj_create: crs not found: EPSG:" ++ toString srid ++ ")"
  | ellipsoidRefused => "Invalid projection"
  | ellipsoidTooRound => "Error creating Transformer"
  | outsideMilitaryGrid => "outside the military grid"
  | frameInvalid topLeft bottomRight =>
    "invalid frame: top left " ++ topLeft ++ ", bottom right " ++ bottomRight
  | edgeBackward start finish => "edge must run forward, got " ++ start ++ " -> " ++ finish
  | barsParallel => "bars are parallel"
  | boundsUnlimited => "IllegalArgumentException: Invalid number of points in LinearRing found"
  | interrupted index => "stop " ++ toString index
  | rowsOutOfRange rows =>
    "Invalid number of rows: " ++ toString rows ++ "; rows must be between 2 and 40"
  | colsOutOfRange cols =>
    "Invalid number of cols: " ++ toString cols ++ "; cols must be between 2 and 40"
  | layerTaken id => "layer " ++ id ++ " is already registered"
  | attributeInvalid value name tag =>
    "'" ++ value ++ "' is not a valid value for attribute '" ++ name ++ "' at svg-element <"
      ++ tag ++ ">."
  | cornerMissing cell corner => "cell " ++ cell ++ " has no " ++ corner ++ " corner"
  | cornersInvalid cell => "cell " ++ cell ++ " has invalid corners"
  | extentInvalid extent => "invalid extent: " ++ extent
  | noCell => "grid not found"
  | noCellAt lat lng => "no grid cell at (" ++ lat ++ ", " ++ lng ++ ")"
  | noCellNamed id => "no grid cell with mdgid " ++ id
  | noCellIn extent => "no grid cell intersects " ++ extent
  | noneFound text => text
  | partOutOfRange part =>
    "invalid sheet number: " ++ toString part ++ ", must be between 1 and 100"
  | sizeUnsupported size => "unsupported cell size (" ++ size ++ "), only support 50K"
  | sizeUnknown => "not a valid cell size"
  | baseNameBlank => "grid5k: sub provider name is blank"
  | partModeUnknown shown => "grid5k: unknown part_mode " ++ shown
  | fileUnnamed => "geojson provider needs a 'file'"
  | scaleUnsupported shown => "geojson provider: unsupported scale " ++ shown
  | fileMissing path => "Grid file not found: " ++ path
  | date f => f.message
  | ringOpen =>
    "IllegalArgumentException: Points of LinearRing do not form a closed linestring"
  | typeTaken name => "grid provider type already registered: " ++ name
  | typeUnknown name => "grid provider type not registered: " ++ name
  | providerUnknown name => "no grid provider named: " ++ name
  | providerUnnamed config => "provider config is missing a name: " ++ config
  | providerUntyped name => "provider " ++ name ++ " is missing a type"
  | unbuildable tag => "cannot build " ++ tag
  | sheetNameBlank => "sheet name is blank"
  | scaleNotPositive sheet => "sheet " ++ sheet ++ ": scale and dpi must be positive"
  | pageNotPositive sheet => "sheet " ++ sheet ++ ": page size must be positive"
  | spacingNotPositive sheet => "sheet " ++ sheet ++ ": grid_spacing must be positive"
  | gratingNotDrawable sheet =>
    "sheet " ++ sheet ++ ": grating rows/cols must be between 2 and 40"
  | settingsUnknown names => "unknown sheet settings: " ++ ", ".intercalate names
  | settingsInvalid shown => "invalid sheet settings " ++ shown
  | sheetTwice name => "duplicate sheet name: " ++ name
  | sheetUnknown name known =>
    "no sheet named " ++ name ++ "; available: " ++ ", ".intercalate known
  | configUnreadable path => "invalid config " ++ path
  | providerMissing sheet => "sheet " ++ sheet ++ " has no provider"
  | statusUnreadable => "invalid status json"
  | statusNotObject kind => "status must be an object, got " ++ kind
  | statusUnknown name => "Unknown status type: " ++ name
  | basemapSize width height =>
    "invalid basemap size " ++ toString width ++ "x" ++ toString height
  | noTiles failed missing =>
    "no tiles downloaded (" ++ toString failed ++ " failed, " ++ toString missing ++ " not found)"
  | basemap text => text
  | windowTooLarge pixels =>
    "Image size (" ++ toString pixels ++ " pixels) exceeds limit of 178956970 pixels, "
      ++ "could be decompression bomb DOS attack."
  | exportFailed path => "could not export " ++ path
  | countWrong expected found =>
    toString expected ++ " values were expected, not " ++ toString found
  | nestedTooDeep => "values are nested too deeply"
  | characterAbsent => "%c arg not in range(0x110000)"
  | partAbsent text | wrongOperand text | keyAbsent text | indexAbsent text
  | templateInvalid text => text
  | foreign _ text => text

end Failure

/-- The outcome of work that may fail. -/
abbrev Outcome := Except Failure

/-- A calculation as a step of larger work. -/
def Outcome.ofFault {β : Type} (e : Except Fault β) : Outcome β := e.mapError .fault

instance {β : Type} : Coe (Except Fault β) (Outcome β) := ⟨Outcome.ofFault⟩

instance : MonadLift (Except Fault) Outcome := ⟨Outcome.ofFault⟩

end MapSheets
