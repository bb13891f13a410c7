import MapSheets.Failure
import MapSheets.Number.Logarithm

/-
Grid spacing. A coordinate in whole meters is split at the spacing: the rest
below it, a label of two digits in steps of it, and the digits above the
label. Division is toward the floor, so the rest and the label are never
negative for a positive spacing.
-/

namespace MapSheets

/-- The meters between neighbouring bars. -/
structure Spacing where
  size : Int
  deriving DecidableEq, Repr

/-- A coordinate split into the digits above the label, the label, and the
meters below the spacing. -/
structure SplitCoord where
  leading : Int
  label : Int
  trailing : Int
  deriving DecidableEq, Repr

namespace Spacing

/-- The spacing of a sheet of a large scale. -/
def hundred : Spacing := ⟨100⟩

/-- The spacing of a sheet of a middle scale. -/
def thousand : Spacing := ⟨1000⟩

/-- Splits a coordinate. -/
def split (s : Spacing) (meters : Int) : Except Fault SplitCoord :=
  if s.size = 0 then .error .remainderByZero
  else
    let steps := meters.fdiv s.size
    .ok { leading := steps.fdiv 100, label := steps.fmod 100, trailing := meters.fmod s.size }

/-- The digits that the meters below the spacing are printed with: the whole
part of its logarithm to base ten. -/
def width [DecimalLogarithm] (s : Spacing) : Except Fault Nat :=
  if s.size ≤ 0 then .error .outsideDomain else .ok (DecimalLogarithm.whole s.size.toNat)

end Spacing

end MapSheets
