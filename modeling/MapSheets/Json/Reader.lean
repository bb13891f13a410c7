import MapSheets.Failure
import MapSheets.Json.Value
import MapSheets.Number.Reading

/-
Reading JSON text. A reader takes the characters that are left and answers
with what it read and the rest, or with the reason why the text is refused at
this place: it is not JSON, a whole number has too many digits, or values are
nested too deeply. The first reason in the text is the one that is told. How
deeply lists and objects may be nested is up to the caller.
Beyond the standard the words for infinite and undefined numbers are read.
-/

namespace MapSheets.Json

/-- Characters between two tokens. -/
def isGap (c : Char) : Bool := c = ' ' || c = '\t' || c = '\n' || c = '\r'

/-- Passes over the gap in front. -/
def skipGap (cs : List Char) : List Char := cs.dropWhile isGap

/-- Why a text is not read. -/
inductive Refusal where
  | malformed
  | tooManyDigits (count : Nat)
  | tooDeep
  deriving DecidableEq, Repr

/-- What was read, and the rest of the text. -/
abbrev Step (β : Type) := Except Refusal (β × List Char)

-- ================================================================ strings

/-- What a hexadecimal digit counts. -/
def hexDigit? (c : Char) : Option Nat :=
  if c.isDigit then some (c.toNat - 48)
  else if 'a' ≤ c ∧ c ≤ 'f' then some (c.toNat - 87)
  else if 'A' ≤ c ∧ c ≤ 'F' then some (c.toNat - 55)
  else none

/-- Four hexadecimal digits. -/
def unit? : Char → Char → Char → Char → Option Nat
  | a, b, c, d => do
    let a ← hexDigit? a
    let b ← hexDigit? b
    let c ← hexDigit? c
    let d ← hexDigit? d
    return ((a * 16 + b) * 16 + c) * 16 + d

/-- The character after a backslash, for the escapes of one letter. -/
def escaped? : Char → Option Char
  | '"' => some '"'
  | '\\' => some '\\'
  | '/' => some '/'
  | 'b' => some '\x08'
  | 'f' => some '\x0c'
  | 'n' => some '\n'
  | 'r' => some '\r'
  | 't' => some '\t'
  | _ => none

/-- The units of a string after its first quote: a character by its code
point, an escape of four digits by the number it names. -/
def readUnits : List Char → Option (List Nat × List Char)
  | [] => none
  | '"' :: rest => some ([], rest)
  | '\\' :: 'u' :: a :: b :: c :: d :: rest =>
    match unit? a b c d with
    | none => none
    | some n => (readUnits rest).map fun (ns, left) => (n :: ns, left)
  | '\\' :: c :: rest =>
    match escaped? c with
    | none => none
    | some e => (readUnits rest).map fun (ns, left) => (e.toNat :: ns, left)
  | c :: rest =>
    if c.toNat < 32 ∨ c = '\\' then none
    else (readUnits rest).map fun (ns, left) => (c.toNat :: ns, left)

/-- The characters of a row of units. An upper half and the lower half after
it make one character; half a character alone is replaced. -/
def joinUnits : List Nat → List Char
  | [] => []
  | [n] => [single n]
  | high :: low :: rest =>
    if 0xD800 ≤ high ∧ high < 0xDC00 ∧ 0xDC00 ≤ low ∧ low < 0xE000 then
      Char.ofNat (0x10000 + (high - 0xD800) * 0x400 + (low - 0xDC00)) :: joinUnits rest
    else single high :: joinUnits (low :: rest)
where
  /-- The character of one unit. -/
  single (n : Nat) : Char :=
    if 0xD800 ≤ n ∧ n < 0xE000 then Char.ofNat 0xFFFD else Char.ofNat n

/-- The rest of a string after its first quote. -/
def readString (cs : List Char) : Option (List Char × List Char) :=
  (readUnits cs).map fun (ns, left) => (joinUnits ns, left)

-- ================================================================ numbers

/-- The ASCII digits in front. -/
def digits (cs : List Char) : List Nat × List Char :=
  ((cs.takeWhile Char.isDigit).map (·.toNat - 48), cs.dropWhile Char.isDigit)

/-- The places after a point: one digit at least, or there is no point. -/
def readPlaces : List Char → List Nat × List Char
  | '.' :: rest =>
    match digits rest with
    | ([], _) => ([], '.' :: rest)
    | found => found
  | rest => ([], rest)

/-- The power after a mark: one digit at least, or there is no mark. -/
def readPower : List Char → Option Int × List Char
  | c :: rest =>
    if c = 'e' ∨ c = 'E' then
      let (negative, after) := Reading.sign rest
      match digits after with
      | ([], _) => (none, c :: rest)
      | (ds, left) =>
        (some (if negative then -(Text.numeral ds : Int) else Text.numeral ds), left)
    else (none, c :: rest)
  | [] => (none, [])

/-- A number. It is whole if it has neither a point nor a power; a zero in
front stands alone. -/
def readNumber (cs : List Char) : Step Json :=
  let (negative, rest) :=
    match cs with
    | '-' :: rest => (true, rest)
    | _ => (false, cs)
  let (whole, rest) :=
    match rest with
    | '0' :: rest => ([0], rest)
    | _ => digits rest
  if whole.isEmpty then .error .malformed
  else
    let (places, rest) := readPlaces rest
    let (power, rest) := readPower rest
    if places.isEmpty && power.isNone then
      if Text.mostDigits < whole.length then .error (.tooManyDigits whole.length)
      else
        let n : Int := Text.numeral whole
        .ok (int (if negative then -n else n), rest)
    else
      let d : Decimal := ⟨Text.numeral (whole ++ places), power.getD 0 - places.length⟩
      .ok (float (d.toFloat negative), rest)

-- ================================================================= values

/-- The words for values, with what they stand for. -/
def words : List (List Char × Json) :=
  [("null".toList, null), ("true".toList, bool true), ("false".toList, bool false),
   ("NaN".toList, float (0.0 / 0.0)), ("Infinity".toList, float (1.0 / 0.0)),
   ("-Infinity".toList, float (-1.0 / 0.0))]

/-- A value that is neither a list nor an object. -/
def readPlain (cs : List Char) : Step Json :=
  match words.find? fun (word, _) => word.isPrefixOf cs with
  | some (word, v) => .ok (v, cs.drop word.length)
  | none => readNumber cs

/-- The name of a field, after its first quote, up to the colon. -/
def readName (cs : List Char) : Step String :=
  match readString cs with
  | none => .error .malformed
  | some (name, rest) =>
    match skipGap rest with
    | ':' :: rest => .ok (String.ofList name, skipGap rest)
    | _ => .error .malformed

/-- Reads one item after another, up to the closing bracket or brace, as far
as the fuel reaches; each item takes one character at least. -/
def readItems {β : Type} (close : Char) (item : List Char → Step β) :
    Nat → List Char → Step (List β)
  | 0, _ => .error .malformed
  | fuel + 1, cs =>
    match item (skipGap cs) with
    | .error r => .error r
    | .ok (v, rest) =>
      match skipGap rest with
      | [] => .error .malformed
      | c :: rest =>
        if c = close then .ok ([v], rest)
        else if c = ',' then
          match readItems close item fuel rest with
          | .error r => .error r
          | .ok (vs, left) => .ok (v :: vs, left)
        else .error .malformed

/-- A field: its name and its value. -/
def readField (value : List Char → Step Json) : List Char → Step (String × Json)
  | '"' :: rest =>
    match readName rest with
    | .error r => .error r
    | .ok (name, rest) =>
      match value rest with
      | .error r => .error r
      | .ok (v, left) => .ok ((name, v), left)
  | _ => .error .malformed

/-- A value that may be nested up to a depth; nothing but the value is read. -/
def readValue : Nat → List Char → Step Json
  | _, '"' :: rest =>
    match readString rest with
    | none => .error .malformed
    | some (s, left) => .ok (str (String.ofList s), left)
  | 0, '[' :: _ => .error .tooDeep
  | depth + 1, '[' :: rest =>
    match skipGap rest with
    | ']' :: left => .ok (arr [], left)
    | _ =>
      match readItems ']' (readValue depth) (rest.length + 1) rest with
      | .error r => .error r
      | .ok (vs, left) => .ok (arr vs, left)
  | 0, '\x7b' :: _ => .error .tooDeep
  | depth + 1, '\x7b' :: rest =>
    match skipGap rest with
    | '\x7d' :: left => .ok (obj [], left)
    | _ =>
      match readItems '\x7d' (readField (readValue depth)) (rest.length + 1) rest with
      | .error r => .error r
      | .ok (fs, left) => .ok (obj (Entries.setAll fs), left)
  | _, cs => readPlain cs

/-- Reads a text that holds one value and nothing else, with lists and objects
nested up to a depth. -/
def read (deepest : Nat) (s : String) : Except Refusal Json :=
  match readValue deepest (skipGap s.toList) with
  | .error r => .error r
  | .ok (v, rest) => if (skipGap rest).isEmpty then .ok v else .error .malformed

/-- A value, if the text holds one, however deeply it is nested: no text is nested
more deeply than it is long. -/
def read? (s : String) : Option Json := (read s.length s).toOption

/-- A value as a step of larger work; a text that is no JSON is the failure
that the work names for it. -/
def readOr (deepest : Nat) (malformed : Failure) (s : String) : Outcome Json :=
  match read deepest s with
  | .ok v => .ok v
  | .error .malformed => .error malformed
  | .error (.tooManyDigits count) => .error (.fault (.tooManyDigits count))
  | .error .tooDeep => .error .nestedTooDeep

end MapSheets.Json
