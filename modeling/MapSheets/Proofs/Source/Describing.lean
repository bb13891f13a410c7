import MapSheets.Proofs.Cell.Describing
import MapSheets.Source.Feature

/-
Reading a feature fails for causes that lie in what its cell is made of: an
entry of its row is not of the kind that is asked for, a date is unreadable, or
there is no shape to take a corner from. A feature that is found is never
reported as one that is not (`Feature.cell_describes`).
-/

namespace MapSheets

open Outcome

-- ==================================================================== rows

theorem Entry.isMissing_describes {α : Type} [Scalar α] (e : Entry α) :
    Describes e.isMissing := by
  unfold isMissing
  split
  case h_5 => exact ends_error rfl
  case h_6 => exact ends_error rfl
  all_goals exact describes_ok _

theorem Stamp.parse_describes (text : String) : Describes (parse text) := by
  unfold parse
  cases read text with
  | error f => exact ends_error rfl
  | ok s => exact describes_ok _

namespace Row

variable {α : Type} [Scalar α] (r : Row α) (name : String)

section
variable [NumberText α]

theorem text?_describes : Describes (r.text? name) :=
  (Entry.isMissing_describes _).bind fun _ => .ite (fun _ => describes_ok _) fun _ => describes_ok _

theorem textAt_describes : Describes (r.textAt name) :=
  (r.text?_describes name).bind fun _ => describes_ok _

theorem stampAt_describes : Describes (r.stampAt name) := by
  unfold stampAt
  split
  case h_1 => exact describes_ok _
  case h_2 => exact (r.text?_describes name).bind fun _ => .mapM_option Stamp.parse_describes _

end

theorem numberAt_describes [NumberReading α] : Describes (r.numberAt name) := by
  unfold numberAt
  refine (Entry.isMissing_describes _).bind fun missing => ?_
  refine .ite (fun _ => describes_ok _) fun _ => ?_
  cases r.entry name with
  | text s =>
      dsimp only
      cases (NumberReading.read? s : Option α) with
      | some x => exact describes_ok _
      | none => exact ends_error rfl
  | whole n => exact (describes_lift _).bind fun _ => describes_ok _
  | moment m => exact ends_error rfl
  | compound v => exact ends_error rfl
  | missing => exact describes_ok _
  | number x => exact describes_ok _
  | flag b => exact describes_ok _

end Row

-- ================================================================ features

namespace Feature

variable {α : Type} [Scalar α] [NumberText α]

theorem metadata_describes (r : Row α) : Describes (metadata r) := by
  have hentries : Describes (metadataColumns.mapM fun name => do
      return (name, ← r.textAt name)) :=
    .mapM fun name _ => (r.textAt_describes name).bind fun _ => describes_ok _
  exact hentries.bind fun _ => describes_ok _

variable [NumberReading α] (f : Feature α)

theorem corners_describes : Describes f.corners := by
  have hrefused : ∀ {β : Type},
      Describes (f.row.textAt idColumn >>= fun id => throw (.cornersInvalid id) : Outcome β) :=
    fun {_} => (f.row.textAt_describes _).bind fun _ => ends_error rfl
  unfold corners
  cases f.shape with
  | none => exact ends_error rfl
  | some shape =>
      refine (f.row.numberAt_describes _).bind fun south => ?_
      refine (f.row.numberAt_describes _).bind fun west => ?_
      refine (f.row.numberAt_describes _).bind fun north => ?_
      refine (f.row.numberAt_describes _).bind fun east => ?_
      dsimp only
      split
      case h_1 => exact .ite (fun _ => describes_ok _) fun _ => hrefused
      case h_2 => exact hrefused

theorem cell_describes [Elementary α] : Describes f.cell := by
  have htext := f.row.textAt_describes
  unfold cell
  refine f.corners_describes.bind fun ⟨southWest, northEast⟩ => ?_
  refine (htext _).bind fun editor => (f.row.stampAt_describes _).bind fun edited => ?_
  refine (metadata_describes _).bind fun metadata => (htext _).bind fun id => ?_
  -- the columns that are copied
  refine (htext _).bind fun country => (htext _).bind fun city => ?_
  refine (f.row.stampAt_describes _).bind fun published => (htext _).bind fun nrn => ?_
  refine (htext _).bind fun sheet => (htext _).bind fun series => ?_
  -- the printed corners
  refine (htext _).bind fun _ => (htext _).bind fun _ => ?_
  refine (htext _).bind fun _ => (htext _).bind fun _ => ?_
  exact (Cell.make_describes _ _ _ _).bind fun _ => describes_ok _

end Feature

end MapSheets
