import MapSheets.Drawing.GratingMarks
import MapSheets.Proofs.Grating.Counts
import MapSheets.Proofs.Outcome

/-
The marks of a grating, counted. A grating has one line more than rows and one
more than columns, and a label in every cell. No mark is refused where the places
of the labels are finite, and so can be written.
-/

namespace MapSheets

variable {α : Type} [Scalar α]

namespace Grating

theorem length_lines {g : Grating α} (hrows : 0 ≤ g.rows) (hcols : 0 ≤ g.cols) :
    (g.lines.length : Int) = g.rows + g.cols + 2 := by
  unfold lines
  rw [List.length_append, List.length_map, List.length_map, length_below, length_below]
  omega

theorem length_centers {g : Grating α} (hrows : 0 ≤ g.rows) (hcols : 0 ≤ g.cols) :
    (g.centers.length : Int) = g.rows * g.cols := length_cellwise hrows hcols _

/-- The center of every cell comes to a place that can be written. -/
def IsWritable (g : Grating α) (box : PixelBox α) : Prop :=
  ∀ c ∈ g.centers,
    Scalar.isFinite (box.pixel c.2).x = true ∧ Scalar.isFinite (box.pixel c.2).y = true

instance (g : Grating α) (box : PixelBox α) : Decidable (g.IsWritable box) :=
  inferInstanceAs (Decidable (∀ c ∈ g.centers,
    Scalar.isFinite (box.pixel c.2).x = true ∧ Scalar.isFinite (box.pixel c.2).y = true))

end Grating

variable [NumberText α]

/-- An element is refused for nothing if each of its attributes has a value of the
kind that it takes. -/
theorem Element.refuseInvalid_eq_ok {e : Element α} (h : ∀ a ∈ e.attributes, ∀ kind,
    AttributeKind.ofName? e.tag a.1 = some kind → kind.accepts a.2 = true) :
    e.refuseInvalid = .ok () := by
  unfold Element.refuseInvalid
  refine Outcome.forM_eq_ok fun a ha => ?_
  obtain ⟨name, value⟩ := a
  dsimp only
  cases hkind : AttributeKind.ofName? e.tag name with
  | none => rfl
  | some kind => exact if_pos (h _ ha kind hkind)

namespace Grating

/-- A label is refused for nothing if its place can be written. -/
theorem refuseInvalid_label {g : Grating α} {box : PixelBox α} (hwritable : g.IsWritable box)
    {size : Int} {e : Element α} (he : e ∈ g.labelElements box gratingColor (.whole size)) :
    e.refuseInvalid = .ok () := by
  obtain ⟨⟨label, p⟩, hcenter, rfl⟩ := List.mem_map.mp he
  obtain ⟨hx, hy⟩ := hwritable _ hcenter
  refine Element.refuseInvalid_eq_ok fun a ha kind hkind => ?_
  simp only [Element.textAt, Element.attributes, List.mem_cons, List.not_mem_nil,
    or_false] at ha
  rcases ha with rfl | rfl | rfl | rfl | rfl | rfl | rfl | rfl
  all_goals cases hkind
  · exact hx
  · exact hy
  · show AttributeKind.anchors.contains "middle" = true
    decide
  · rfl
  · show Color.isPaint gratingColor = true
    decide +kernel

/-- All lines and labels of a grating are drawn whose places can be written. -/
theorem exists_marks {g : Grating α} (hrows : 0 ≤ g.rows) (hcols : 0 ≤ g.cols)
    {box : PixelBox α} (hwritable : g.IsWritable box) (width : AttributeValue α) (size : Int) :
    ∃ marks, g.marks box gratingColor width (.whole size) = .ok marks
      ∧ (marks.lines.length : Int) = g.rows + g.cols + 2
      ∧ (marks.labels.length : Int) = g.rows * g.cols := by
  have hvalid : Element.allValid (g.labelElements box gratingColor (.whole size))
      = .ok (g.labelElements box gratingColor (.whole size)) := by
    unfold Element.allValid
    rw [Outcome.forM_eq_ok fun e he => refuseInvalid_label hwritable he]
    rfl
  refine ⟨⟨g.lineElements box gratingColor width, g.labelElements box gratingColor (.whole size)⟩,
    ?_, ?_, ?_⟩
  · unfold marks
    rw [hvalid]
    rfl
  · unfold lineElements
    rw [List.length_map, length_lines hrows hcols]
  · unfold labelElements
    rw [List.length_map, length_centers hrows hcols]

end Grating

end MapSheets
