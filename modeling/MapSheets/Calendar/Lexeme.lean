import MapSheets.Text.Blank
import MapSheets.Text.Digit

/-
The lexemes of a date that is written freely: words, numbers with their
places, and single marks. A word with points in it, and a number with several
points, fall apart at the points.
-/

namespace MapSheets.Lexeme

/-- What a lexeme is made of so far. -/
inductive Mode where
  | word
  | number
  /-- Letters, with a point among them. -/
  | pointedWord
  /-- Digits, with a point or a comma among them. -/
  | pointedNumber
  deriving DecidableEq

/-- A letter of the names in a date. -/
def isLetter (c : Char) : Bool := c.isAlpha

/-- A decimal digit of any script. -/
def isDigit (c : Char) : Bool := (Text.digitValue? c).isSome

/-- What a lexeme is that begins with a character; a mark stands alone. -/
def Mode.ofFirst? (c : Char) : Option Mode :=
  if isLetter c then some .word else if isDigit c then some .number else none

/-- A lexeme that is being read, its last character first. -/
structure Open where
  mode : Mode
  /-- Whether letters were read before its last character. -/
  lettered : Bool := false
  chars : List Char

/-- What a lexeme becomes with a further character, if it goes on. -/
def Open.next? (o : Open) (c : Char) : Option Mode :=
  let afterPoint := o.chars.head? == some '.'
  match o.mode with
  | .word => if isLetter c then some .word else if c == '.' then some .pointedWord else none
  | .number =>
    if isDigit c then some .number
    else if c == '.' || (c == ',' && 2 ≤ o.chars.length) then some .pointedNumber else none
  | .pointedWord =>
    if c == '.' || isLetter c then some .pointedWord
    else if isDigit c && afterPoint then some .pointedNumber else none
  | .pointedNumber =>
    if c == '.' || isDigit c then some .pointedNumber
    else if isLetter c && afterPoint then some .pointedWord else none

/-- The lexeme once a further character was looked at. -/
def Open.looked (o : Open) : Open :=
  { o with lettered := o.lettered || o.mode == .word || o.mode == .pointedWord }

/-- A point or a comma. -/
def isPoint (c : Char) : Bool := c == '.' || c == ','

/-- The parts between points, and the points. -/
def atPoints : List Char → List (List Char)
  | [] => [[]]
  | c :: rest =>
    match atPoints rest with
    | [] => [[c]]
    | part :: parts => if isPoint c then [] :: [c] :: part :: parts else (c :: part) :: parts

/-- The lexemes that a finished one gives. A single comma is a point. -/
def Open.finished (o : Open) : List String :=
  let cs := o.chars.reverse
  let points := (cs.filter (· == '.')).length
  let isPointed := o.mode == .pointedWord || o.mode == .pointedNumber
  if isPointed && (o.lettered || 1 < points || o.chars.head?.any isPoint) then
    match atPoints cs with
    | [] => []
    | first :: rest => (first :: rest.filter (!·.isEmpty)).map String.ofList
  else if o.mode == .pointedNumber && points = 0 then
    [String.ofList (cs.map fun c => if c == ',' then '.' else c)]
  else [String.ofList cs]

/-- Lexemes that are read, and one that may still go on. -/
structure Progress where
  done : List String := []
  current : Option Open := none

/-- Ends the current lexeme. -/
def Progress.close (p : Progress) : List String :=
  match p.current with
  | none => p.done
  | some o => p.done ++ o.finished

/-- Begins a lexeme; every blank is one. -/
def Progress.start (done : List String) (c : Char) : Progress :=
  match Mode.ofFirst? c with
  | some mode => ⟨done, some { mode, chars := [c] }⟩
  | none => ⟨done ++ [if Text.isBlank c then " " else c.toString], none⟩

/-- Reads a character. -/
def Progress.read (p : Progress) (c : Char) : Progress :=
  match p.current with
  | none => .start p.done c
  | some o =>
    match o.next? c with
    | some mode => { p with current := some { o.looked with mode, chars := c :: o.chars } }
    | none => .start (p.done ++ o.looked.finished) c

/-- The lexemes of a text. -/
def ofText (s : String) : List String :=
  ((s.toList.filter (· != '\x00')).foldl Progress.read {}).close

end MapSheets.Lexeme
