import MapSheets.Number.Amount
import MapSheets.Work

/-
Conversion of drawings to PDF and PNG. A command is tried first; where it is
not installed or does not succeed, a conversion library is asked. What the
two do is given as functions, so a conversion is a value.
-/

namespace MapSheets

/-- The formats that a drawing is converted to. -/
inductive ExportFormat where
  | pdf
  | png
  deriving DecidableEq, Repr

namespace ExportFormat

/-- The format in commands and file names. -/
def name : ExportFormat → String
  | pdf => "pdf"
  | png => "png"

/-- The format in messages. -/
def label : ExportFormat → String
  | pdf => "PDF"
  | png => "PNG"

end ExportFormat

/-- How a command ended. -/
inductive CommandEnd where
  | succeeded
  | failed
  | notFound
  deriving DecidableEq, Repr

/-- The resolution of an image as it was asked for. A text is handed on as it
stands. -/
inductive Resolution (α : Type) where
  | amount (a : Amount α)
  | text (s : String)

namespace Resolution

variable {α : Type}

instance : Coe (Amount α) (Resolution α) := ⟨amount⟩

/-- The resolution in print. -/
def shown [NumberText α] : Resolution α → String
  | amount a => a.text
  | text s => s

end Resolution

/-- A conversion that is asked for: the drawing, where the output goes, and
the resolution of an image. -/
structure Conversion (α : Type) where
  format : ExportFormat
  source : String
  target : String
  dpi : Option (Resolution α)

/-- How a library's conversion ended: well, with a reason against the
drawing, or with a failure of the library itself. -/
inductive LibraryEnd where
  | succeeded
  | refused (reason : String)
  | broken (f : Failure)

/-- The converters at hand; the library may be missing. -/
structure Converters (α : Type) where
  run : List String → CommandEnd
  library : Option (Conversion α → LibraryEnd)

/-- The note of a conversion. -/
inductive ConversionNote (α : Type) where
  | line (text : String)
  | ran (words : List String)
  | called (c : Conversion α)

namespace Conversion

variable {α : Type}

/-- The resolution of images where none is asked for. -/
def standardDpi : Amount α := .whole 150

/-- A conversion to PDF, at the size of the page. -/
def toPdf (source target : String) : Conversion α := ⟨.pdf, source, target, none⟩

/-- A conversion to PNG at a resolution. -/
def toPng (source target : String) (dpi : Resolution α) : Conversion α :=
  ⟨.png, source, target, some dpi⟩

variable [NumberText α]

/-- The words of the command. -/
def command (c : Conversion α) : List String :=
  ["rsvg-convert", "-f", c.format.name]
    ++ (match c.dpi with
      | none => []
      | some d => ["-d", d.shown, "-p", d.shown])
    ++ ["-o", c.target, c.source]

end Conversion

/-- Converts a drawing, and tells whether there is an output now. -/
def Converters.convert {α : Type} [NumberText α] (cs : Converters α) (c : Conversion α) :
    Work (ConversionNote α) Bool := do
  let saved : ConversionNote α := .line ("  Saved " ++ c.format.label ++ ": " ++ c.target)
  Work.note (.ran c.command)
  if cs.run c.command = .succeeded then
    Work.note saved
    return true
  match cs.library with
  | none =>
    Work.note (.line ("  Warning: Could not export " ++ c.format.label
      ++ " (install rsvg-convert or cairosvg)"))
    return false
  | some ask =>
    Work.note (.called c)
    match ask c with
    | .succeeded =>
      Work.note saved
      return true
    | .refused reason =>
      Work.note (.line ("  Warning: " ++ c.format.label ++ " export failed: " ++ reason))
      return false
    | .broken f => Work.fail f

end MapSheets
