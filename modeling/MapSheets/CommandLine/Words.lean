import MapSheets.Text.Digit
import MapSheets.Text.Quoted

/-
The words of a command line. A word with hyphens in front names an option, in
full or by a beginning that no other option has. The value of an option is
the next word, or stands behind an equals sign. What looks like a negative
number is a value, and so is every word behind two lone hyphens.

An ambiguous word is reported before anything else. Otherwise words are read
in order, and the first that cannot be read ends the reading; what no option
asked for is left over.
-/

namespace MapSheets.CommandLine

/-- Why there is nothing to do: the help was asked for, or the words do not
say what is wanted. -/
inductive Stop where
  | helpAsked
  | ambiguous (word : String) (options : List String)
  | valueMissing (option : String)
  | valueUnwanted (option value : String)
  | valueUnreadable (option kind value : String)
  | wordsUnknown (words : List String)
  | sheetMissing
  | targetMissing
  deriving DecidableEq, Repr

namespace Stop

/-- What is said of a mistake; asking for help is none. -/
def message : Stop → Option String
  | helpAsked => none
  | ambiguous word options =>
    some ("ambiguous option: " ++ word ++ " could match " ++ ", ".intercalate options)
  | valueMissing option => some ("argument " ++ option ++ ": expected one argument")
  | valueUnwanted option value =>
    some ("argument " ++ option ++ ": ignored explicit argument " ++ Text.quoted value)
  | valueUnreadable option kind value =>
    some ("argument " ++ option ++ ": invalid " ++ kind ++ " value: " ++ Text.quoted value)
  | wordsUnknown words => some ("unrecognized arguments: " ++ " ".intercalate words)
  | sheetMissing => some "--sheet is required"
  | targetMissing => some "give --mdgid or both --lat and --lng"

end Stop

/-- An option: its names, the last of them the full one, and whether a value
belongs to it. -/
structure OptionForm where
  names : List String
  takesValue : Bool
  deriving DecidableEq, Repr

namespace OptionForm

/-- The full name. -/
def name (f : OptionForm) : String := f.names.getLast?.getD ""

/-- The names together, as messages tell them. -/
def label (f : OptionForm) : String := "/".intercalate f.names

end OptionForm

/-- What a word is: a value, or an option by the names that it may stand for,
with the value attached to it. -/
inductive Word where
  | value
  | option (candidates : List String) (attached : Option String)

-- ================================================================= reading

/-- Whether characters are a hyphen and a number without a sign or an exponent. -/
def isNegativeNumber : List Char → Bool
  | '-' :: rest =>
    let isDigit (c : Char) : Bool := (Text.digitValue? c).isSome
    match rest.takeWhile isDigit, rest.dropWhile isDigit with
    | whole, [] => !whole.isEmpty
    | _, '.' :: places => !places.isEmpty && places.all isDigit
    | _, _ => false
  | _ => false

/-- A word before its first equals sign, and what stands behind it. -/
def splitAtEquals (word : String) : String × Option String :=
  let cs := word.toList
  match cs.dropWhile (· != '=') with
  | _ :: value => (String.ofList (cs.takeWhile (· != '=')), some (String.ofList value))
  | [] => (word, none)

/-- The names that a word may stand for, where it is none of them in full. -/
def candidates (names : List String) (word : String) : List String × Option String :=
  if word.startsWith "--" then
    let (start, attached) := splitAtEquals word
    (names.filter (·.startsWith start), attached)
  else
    (names.filter (· == (word.take 2).toString), some (word.drop 2).toString)

/-- Reads a word. -/
def Word.read (names : List String) (word : String) : Word :=
  if !word.startsWith "-" || word == "-" then .value
  else if names.contains word then .option [word] none
  else
    let (start, attached) := splitAtEquals word
    if attached.isSome && names.contains start then .option [start] attached
    else match candidates names word with
      | ([], _) =>
        if isNegativeNumber word.toList || word.toList.contains ' ' then .value else .option [] none
      | (found, attached) => .option found attached

/-- Whether a word can be the value of the option before it. -/
def isValue (names : List String) (word : String) : Bool :=
  word != "--" && match Word.read names word with
    | .value => true
    | .option _ _ => false

-- ============================================================== collecting

/-- What stands at a place of the command line: a word that no option asked
for, or an option with its value, which may be the next word. -/
inductive Item where
  | leftOver
  | option (form : OptionForm) (value : String)
  | optionAndNext (form : OptionForm) (value : String)

/-- The option that the flags behind a single hyphen end with, from the first
one and the characters behind it. Every character must be a flag. -/
def lastFlag (forms : List OptionForm) (form : OptionForm) : List Char → Except Stop OptionForm
  | [] => .ok form
  | c :: rest =>
    match forms.find? (·.names.contains (String.ofList ['-', c])) with
    | some next => lastFlag forms next rest
    | none => .error (.valueUnwanted form.label (String.ofList (c :: rest)))

/-- Reads the item at a word, with the word behind it. An option without a
value has an empty one. -/
def Item.read (forms : List OptionForm) (word : String) (next : Option String) :
    Except Stop Item :=
  let names := forms.flatMap (·.names)
  match Word.read names word with
  | .value | .option [] _ => .ok .leftOver
  | .option [name] attached =>
    match forms.find? (·.names.contains name) with
    | none => .ok .leftOver
    | some form =>
      match form.takesValue, attached with
      | false, none => .ok (.option form "")
      | false, some value =>
        if value.isEmpty || name.startsWith "--" then .error (.valueUnwanted form.label value)
        else do return .option (← lastFlag forms form value.toList) ""
      | true, some value => .ok (.option form value)
      | true, none =>
        match next.filter (isValue names) with
        | some value => .ok (.optionAndNext form value)
        | none => .error (.valueMissing form.label)
  | .option several _ => .error (.ambiguous word several)

/-- Refuses words of which one may stand for several options. -/
def refuseAmbiguous (forms : List OptionForm) (words : List String) : Except Stop Unit :=
  (words.takeWhile (· != "--")).forM fun word =>
    match Word.read (forms.flatMap (·.names)) word with
    | .option (first :: second :: others) _ => .error (.ambiguous word (first :: second :: others))
    | _ => .ok ()

/-- Reads words in order. Every option is handed to `take` with its value; the
words that are left over come back. -/
def collect {σ : Type} (forms : List OptionForm) (take : σ → OptionForm → String → Except Stop σ)
    (state : σ) : List String → Except Stop (σ × List String)
  | [] => .ok (state, [])
  | "--" :: rest => .ok (state, "--" :: rest)
  | word :: rest => do
    match ← Item.read forms word rest.head? with
    | .leftOver =>
      let (state, left) ← collect forms take state rest
      return (state, word :: left)
    | .option form value => collect forms take (← take state form value) rest
    | .optionAndNext form value => collect forms take (← take state form value) rest.tail
termination_by words => words.length
decreasing_by all_goals simp only [List.length_cons, List.length_tail]; omega

end MapSheets.CommandLine
