import MapSheets.Basemap.Address
import MapSheets.Entries
import MapSheets.Files
import MapSheets.Json.Access
import MapSheets.Json.Reader
import MapSheets.Sheet.Settings
import MapSheets.Work

/-
Atlases: the providers and the kinds of sheets of one configuration file.
Sheets are found by name in any letter case.
-/

namespace MapSheets

/-- The content of a configuration file. -/
structure Atlas where
  providers : List Json := []
  sheets : List (String × Sheet Float) := []
  tileAddress : Json := .str Address.standard

namespace Atlas

/-- The names that a list of names holds; other values have no order. -/
def namesIn : List Json → Outcome (List String)
  | [] => .ok []
  | .str s :: rest => do return s :: (← namesIn rest)
  | v :: _ => .error (.wrongOperand ("sequence item 0: expected str instance, "
      ++ v.kindName ++ " found"))

/-- The settings of an entry. Anything but an object can name settings, but
give none. -/
def sheetOf : Json → Outcome (Sheet Float)
  | .obj fields => Sheet.ofFields fields
  | v => do
    Sheet.refuseUnknown (← namesIn (← v.members))
    throw (.settingsInvalid v.display)

/-- Adds the sheets of entries in order; a name can be given once. -/
def addSheets (sheets : List (String × Sheet Float)) :
    List Json → Outcome (List (String × Sheet Float))
  | [] => .ok sheets
  | entry :: rest => do
    let sheet ← sheetOf entry
    if (sheets.lookup sheet.name).isSome then throw (.sheetTwice sheet.name)
    addSheets (sheets ++ [(sheet.name, sheet)]) rest

/-- The atlas of a configuration. -/
def ofJson : Json → Outcome Atlas
  | .obj fields => do
    let field (name : String) (default : Json) : Json := (fields.lookup name).getD default
    let sheets ← addSheets [] (← (field "sheets" (.arr [])).members)
    let providers ← (field "providers" (.arr [])).members
    return { providers, sheets, tileAddress := field "tile_url" (.str Address.standard) }
  | v => .error (.partAbsent ("'" ++ v.kindName ++ "' object has no attribute 'get'"))

/-- The configuration file that is read where no other is named. -/
def standardPath : String := "map_config.json"

/-- Loads a configuration file, in which values may be nested up to a depth; there
may be none. -/
def load (deepest : Nat) (files : Files) (path : String) : Printing (Option Atlas) := do
  let path := FilePath.normal path
  let opening := Work.note ("Loading configuration from " ++ path ++ "...")
  match ← files.find path with
  | .file text =>
    opening
    let data ← Json.readOr deepest (.configUnreadable path) text
    return some (← ofJson data)
  | .folder =>
    opening
    files.refuseFile [] path
    return none
  | _ => return none

/-- The sheet of a name. -/
def sheet (a : Atlas) (name : String) : Outcome (Sheet Float) :=
  match a.sheets.lookup (Sheet.normalName name) with
  | some s => .ok s
  | none => .error (.sheetUnknown name (Entries.sortedNames a.sheets))

end Atlas

end MapSheets
