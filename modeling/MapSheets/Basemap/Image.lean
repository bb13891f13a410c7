/-
Images as functions from pixels to colors. Pasting and cutting say where each
pixel comes from; nothing is copied.
-/

namespace MapSheets

/-- A color in red, green and blue, from 0 to 255. -/
structure Color where
  red : Nat
  green : Nat
  blue : Nat
  deriving DecidableEq, Repr

namespace Color

/-- What shows where nothing was painted. -/
def black : Color := ⟨0, 0, 0⟩

/-- The ground that tiles are pasted on. -/
def white : Color := ⟨255, 255, 255⟩

end Color

/-- An image: a size, and the color of every pixel. -/
structure Image where
  width : Nat
  height : Nat
  pixel : Int → Int → Color

namespace Image

/-- An image of one color. -/
def even (width height : Nat) (color : Color) : Image := ⟨width, height, fun _ _ => color⟩

/-- Whether a pixel lies in the image. -/
def has (i : Image) (x y : Int) : Bool := 0 ≤ x && x < i.width && 0 ≤ y && y < i.height

/-- The part of an image between two columns and two rows. What lies outside
the image is black. -/
def crop (i : Image) (left top right bottom : Int) : Image where
  width := (right - left).toNat
  height := (bottom - top).toNat
  pixel x y := if i.has (left + x) (top + y) then i.pixel (left + x) (top + y) else .black

/-- The image with another one pasted over it, whose upper left corner comes to a
pixel. The size stays. -/
def paste (i other : Image) (x y : Int) : Image where
  width := i.width
  height := i.height
  pixel u v := if other.has (u - x) (v - y) then other.pixel (u - x) (v - y) else i.pixel u v

end Image

end MapSheets
