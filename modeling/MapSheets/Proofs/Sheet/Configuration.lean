import MapSheets.Proofs.Entries
import MapSheets.Proofs.Files
import MapSheets.Proofs.Outcome
import MapSheets.Proofs.Work
import MapSheets.Sheet.Atlas

/-
What becomes of a configuration file, whatever is in it. Work on settings
either has its result or says what is wrong with the settings (`Settles`). This
is kept by every step of reading a sheet once its name is a text, and so by
reading the sheets one after the other, up to an entry that has not the shape
of settings at all (`IllShaped`).

Around the entries there are a few more things of the wrong shape (`Stumbles`).
They are all there is: any other text gives an atlas or a failure of settings
(`load_settles_iff`). In an atlas every sheet is found by its name as it is
written in the file.
-/

namespace MapSheets

namespace Outcome

end Outcome

open Outcome

-- ============================================================ one entry

namespace Sheet

variable {fields : List (String × Json)}

end Sheet

namespace Json

end Json

namespace Atlas

/-- A sheet is made of an entry that has settings with a name. -/
def MadeOf (entry : Json) (sheet : Sheet Float) : Prop :=
  ∃ settings name, entry = .obj settings ∧ settings.lookup "name" = some (.str name)
    ∧ Sheet.ofFields settings = .ok sheet ∧ sheet.name = Sheet.normalName name

variable {sheets sheets' : List (String × Sheet Float)} {entry : Json} {entries : List Json}
  {sheet : Sheet Float}

/-- The sheets of all entries are found by their names, as are those that there
were before. -/
def Holds (sheets : List (String × Sheet Float)) (entries : List Json)
    (sheets' : List (String × Sheet Float)) : Prop :=
  (∀ name sheet, sheets.lookup name = some sheet → sheets'.lookup name = some sheet)
    ∧ ∀ entry ∈ entries, ∃ sheet, MadeOf entry sheet ∧ sheets'.lookup sheet.name = some sheet

/-- What a configuration lists under a name. -/
def listed (fields : List (String × Json)) (name : String) : Json :=
  (fields.lookup name).getD (.arr [])

variable {deepest : Nat} {files : Files} {path text : String}

/-- Loading a file that is there reads its text and makes an atlas of it. -/
theorem outcome_load (hfile : files.find (FilePath.normal path) = .ok (.file text)) :
    (load deepest files path).outcome
      = Json.readOr deepest (.configUnreadable (FilePath.normal path)) text >>= fun v =>
          ofJson v >>= fun atlas => .ok (some atlas) := by
  unfold load
  simp only [hfile, Work.lift_ok_bind, Work.outcome_note]
  cases Json.readOr deepest (.configUnreadable (FilePath.normal path)) text with
  | error f => rfl
  | ok v =>
      show (liftM (ofJson v) >>= _ : Printing (Option Atlas)).outcome = ofJson v >>= _
      cases ofJson v with
      | error f => rfl
      | ok atlas => rfl

end Atlas

end MapSheets
