import MapSheets.Drawing.Element
import MapSheets.Exchange.Number

/-
Drawings in exchange. A tree of elements is told as its elements in document
order, each with its depth, and decimal numbers inside attributes are rounded
to three places. Embedded data is cut off.
-/

namespace MapSheets.Exchange

/-- Whether a number may not begin behind a character. -/
def holdsNumber (c : Char) : Bool := c.isAlphanum || c == '_' || c == '#' || c == '.'

/-- Cuts off the digits in front. -/
def digits (cs : List Char) : List Char × List Char :=
  (cs.takeWhile Char.isDigit, cs.dropWhile Char.isDigit)

/-- A point and the digits behind it, if there are any. -/
def fractionOf (cs : List Char) : List Char × List Char :=
  match cs with
  | '.' :: after =>
    match digits after with
    | ([], _) => ([], cs)
    | (ds, rest) => ('.' :: ds, rest)
  | _ => ([], cs)

/-- A power of ten, if there is one. -/
def powerOf (cs : List Char) : List Char × List Char :=
  match cs with
  | c :: after =>
    if c == 'e' || c == 'E' then
      let (mark, after) := match after with
        | '-' :: ds => (['-'], ds)
        | '+' :: ds => (['+'], ds)
        | ds => ([], ds)
      match digits after with
      | ([], _) => ([], cs)
      | (ds, rest) => (c :: mark ++ ds, rest)
    else ([], cs)
  | [] => ([], cs)

/-- The decimal number in front and what follows; a whole number is none. -/
def decimalHead? (cs : List Char) : Option (List Char × List Char) :=
  let (sign, rest) := match cs with
    | '-' :: rest => (['-'], rest)
    | _ => ([], cs)
  let (whole, rest) := digits rest
  let (places, rest) := fractionOf rest
  let (power, rest) := powerOf rest
  if whole.isEmpty || (places.isEmpty && power.isEmpty) then none
  else some (sign ++ whole ++ places ++ power, rest)

/-- Rounds the decimal numbers of a text to three places, as far as the
fuel reaches; each step takes one character at least. -/
def roundDecimals (fuel : Nat) (before : Char) (cs : List Char) : List Char :=
  match fuel, cs with
  | 0, _ => cs
  | _, [] => []
  | fuel + 1, c :: rest =>
    if holdsNumber before then c :: roundDecimals fuel c rest
    else match decimalHead? cs with
      | some (word, left) =>
        match Reading.float? (String.ofList word) with
        | some x => (unsigned (Decimal.fixed 3 x)).toList ++ roundDecimals fuel '0' left
        | none => c :: roundDecimals fuel c rest
      | none => c :: roundDecimals fuel c rest

/-- The value of an attribute. -/
def attributeText (name : String) (v : AttributeValue Float) : Json :=
  let s := v.toText
  if name.endsWith "href" then (s.splitOn ",").headD ""
  else String.ofList (roundDecimals s.length ' ' s.toList)

mutual
/-- An element and those inside it, in document order. -/
def elementRows (depth : Nat) : Element Float → List Json
  | .node tag attributes content children =>
    let written := attributes.filter (·.2.isWritten)
    .arr [depth, tag, .obj (written.map fun (n, v) => (n, attributeText n v)),
      Json.ofOption .str content] :: childRows (depth + 1) children

/-- The elements inside an element. -/
def childRows (depth : Nat) : List (Element Float) → List Json
  | [] => []
  | e :: rest => elementRows depth e ++ childRows depth rest
end

/-- Elements with all that is inside them. -/
def elements (es : List (Element Float)) : Json := .arr (childRows 0 es)

end MapSheets.Exchange
