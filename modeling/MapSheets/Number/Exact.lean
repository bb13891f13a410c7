import MapSheets.Number.Binary

/-
Quantities as exact rationals. A question about position whose answer must
not hang on rounding, such as whether a point lies on the border of a
polygon or where two lines meet, is settled over the rationals; an answer
that is a position is rounded once, at the end. Quantities of limited size
lose products that are larger still, and say so.
-/

namespace MapSheets

/-- A field of measure whose finite quantities have an exact value. -/
class Exact (α : Type) where
  /-- The exact value of a finite quantity. -/
  toRat? : α → Option Rat
  /-- The quantity nearest to a rational. -/
  ofRat : Rat → α
  /-- Whether calculations keep products of this size. -/
  isKept : Rat → Bool

/-- Where calculations with products of doubles go out of range. -/
def leastLostProduct : Rat := (twoTo 997 : Int)

instance : Exact Float where
  toRat? x := (Binary.decode x).toRat?
  ofRat r := Binary.nearest (decide (r < 0)) r.num.natAbs r.den
  isKept r := decide (-leastLostProduct < r) && decide (r < leastLostProduct)

instance : Exact Rat := ⟨some, id, fun _ => true⟩

/-- Quantities that are told in writing as doubles. -/
class OfDouble (α : Type) where
  /-- The quantity of a double, if it has one. -/
  ofDouble? : Float → Option α

@[default_instance]
instance : OfDouble Float := ⟨some⟩

instance : OfDouble Rat := ⟨Exact.toRat?⟩

end MapSheets
