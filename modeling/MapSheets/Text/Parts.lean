import MapSheets.Text.Blank

/-
Texts in parts. A text is cut at every separator, into the words between its
blanks, or into lines; a line may end in any of the characters that begin a
new line or page.
-/

namespace MapSheets.Text

/-- Characters cut at every one of a class; there is one part more than cuts. -/
def cutAt (p : Char → Bool) : List Char → List (List Char)
  | [] => [[]]
  | c :: rest =>
    match cutAt p rest with
    | [] => [[]]
    | part :: parts => if p c then [] :: part :: parts else (c :: part) :: parts

/-- There is always a part. -/
theorem cutAt_ne_nil (p : Char → Bool) (cs : List Char) : cutAt p cs ≠ [] := by
  induction cs with
  | nil => simp [cutAt]
  | cons c rest ih =>
    rw [cutAt]
    split
    · contradiction
    · split <;> simp

/-- The words between blanks. -/
def words (cs : List Char) : List (List Char) := (cutAt isBlank cs).filter (!·.isEmpty)

/-- The characters that end a line. -/
def isLineEnd (c : Char) : Bool :=
  decide ((0x0A ≤ c.toNat ∧ c.toNat ≤ 0x0D) ∨ (0x1C ≤ c.toNat ∧ c.toNat ≤ 0x1E))
    || c.toNat == 0x85 || c.toNat == 0x2028 || c.toNat == 0x2029

/-- The lines of characters. What ends a line belongs to no line, and behind
the last end there is a line only if something stands there. -/
def linesOf : List Char → List (List Char)
  | [] => []
  | '\r' :: '\n' :: rest => [] :: linesOf rest
  | c :: rest =>
    if isLineEnd c then [] :: linesOf rest
    else match linesOf rest with
      | [] => [[c]]
      | line :: lines => (c :: line) :: lines

/-- The lines of a text. -/
def lines (s : String) : List String := (linesOf s.toList).map String.ofList

end MapSheets.Text
