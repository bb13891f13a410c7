import MapSheets.Failure

/-
Work that leaves notes. Printing a line, telling a job's progress or asking a
server for a tile is a note; a piece of work is the notes that it left, in
order, and its outcome. The notes of work that fails are those it left until
then. Nothing else of the world is in it, so what a run does is a value.
-/

namespace MapSheets

/-- The notes that a piece of work left, and how it ended. -/
structure Work (ν : Type) (β : Type) where
  notes : List ν
  outcome : Outcome β

namespace Work

variable {ν μ β γ : Type}

/-- Work that is done. -/
def done (b : β) : Work ν β := ⟨[], .ok b⟩

/-- Goes on with the result of the first part; not if that failed. -/
def andThen (w : Work ν β) (next : β → Work ν γ) : Work ν γ :=
  match w.outcome with
  | .error f => ⟨w.notes, .error f⟩
  | .ok b => ⟨w.notes ++ (next b).notes, (next b).outcome⟩

instance : Monad (Work ν) where
  pure := done
  bind := andThen

/-- Work that fails at once. -/
def fail (f : Failure) : Work ν β := ⟨[], .error f⟩

/-- A calculation as work without notes. -/
def ofOutcome (o : Outcome β) : Work ν β := ⟨[], o⟩

instance : MonadLift Outcome (Work ν) := ⟨ofOutcome⟩

/-- Leaves a note. -/
def note (n : ν) : Work ν Unit := ⟨[n], .ok ()⟩

/-- The same work with its notes told in another way. -/
def relabel (f : ν → μ) (w : Work ν β) : Work μ β := ⟨w.notes.map f, w.outcome⟩

/-- After work that ends well come the notes of what follows. -/
theorem notes_bind_ok {w : Work ν β} {b : β} (h : w.outcome = .ok b) (next : β → Work ν γ) :
    (w >>= next).notes = w.notes ++ (next b).notes := by
  simp [bind, andThen, h]

/-- After a failure nothing follows. -/
theorem notes_bind_error {w : Work ν β} {f : Failure} (h : w.outcome = .error f)
    (next : β → Work ν γ) : (w >>= next).notes = w.notes := by
  simp [bind, andThen, h]

end Work

/-- Work that prints lines. -/
abbrev Printing := Work String

end MapSheets
