import MapSheets.Json.Reader
import MapSheets.Json.Writer
import MapSheets.Proofs.Entries

/-
Written texts read back. A character is written as itself, behind a backslash,
or in units of sixteen bits of four digits each; whichever it is, what is read
are its units (`readUnits_writeChar`), and the units of a text join to its
characters again (`joinUnits_units`). So a string is read back with whatever
stands behind it left over (`readString_written`).

Items between commas are read back one by one if each of them is, whatever
comes after it (`readItems_joined`). Put together, an object of texts under
names of their own is read back as it was (`read_write_textFields`).
-/

namespace MapSheets

-- ================================================================ digits

namespace Text

/-- In one place more the last digit stands behind the others. -/
theorem hexadecimal_succ {width n : Nat} (hwidth : 0 < width) :
    hexadecimal (width + 1) n = hexadecimal width (n / 16) ++ [Nat.digitChar (n % 16)] := by
  unfold hexadecimal
  by_cases hn : n < 16
  · rw [Nat.div_eq_of_lt hn, Nat.mod_eq_of_lt hn, Nat.toDigits_of_lt_base hn, Nat.toDigits_zero]
    have hzeros : List.replicate width '0' = List.replicate (width - 1) '0' ++ ['0'] := by
      rw [← List.replicate_succ', Nat.sub_add_cancel hwidth]
    simp [hzeros]
  · have hlast := Nat.toDigits_of_base_le (b := 16) (by decide) (Nat.le_of_not_lt hn)
    simp [hlast]

theorem hexadecimal_four {n : Nat} (hn : n < 0x10000) :
    hexadecimal 4 n = [Nat.digitChar (n / 4096), Nat.digitChar (n / 256 % 16),
      Nat.digitChar (n / 16 % 16), Nat.digitChar (n % 16)] := by
  have hfirst : n / 4096 < 16 := by omega
  have hone : hexadecimal 1 (n / 4096) = [Nat.digitChar (n / 4096)] := by
    unfold hexadecimal
    rw [Nat.toDigits_of_lt_base hfirst]
    rfl
  rw [hexadecimal_succ (by decide), hexadecimal_succ (by decide), hexadecimal_succ (by decide)]
  simp only [Nat.div_div_eq_div_mul]
  rw [hone]
  rfl

end Text

namespace Json

theorem hexDigit?_digitChar : ∀ d < 16, hexDigit? (Nat.digitChar d) = some d := by
  decide

/-- Four digits are read as the unit that they write. -/
theorem readUnits_unitEscape {n : Nat} (hn : n < 0x10000) (rest : List Char) :
    readUnits (unitEscape n ++ rest)
      = (readUnits rest).map fun (ns, left) => (n :: ns, left) := by
  have hunit : unit? (Nat.digitChar (n / 4096)) (Nat.digitChar (n / 256 % 16))
      (Nat.digitChar (n / 16 % 16)) (Nat.digitChar (n % 16)) = some n := by
    have hfirst := hexDigit?_digitChar (n / 4096) (by omega)
    have hsecond := hexDigit?_digitChar (n / 256 % 16) (by omega)
    have hthird := hexDigit?_digitChar (n / 16 % 16) (by omega)
    have hfourth := hexDigit?_digitChar (n % 16) (by omega)
    simp only [unit?, hfirst, hsecond, hthird, hfourth, Option.bind_eq_bind, Option.bind_some,
      Option.pure_def, Option.some.injEq]
    omega
  unfold unitEscape
  rw [Text.hexadecimal_four hn]
  simp only [List.cons_append, List.nil_append]
  rw [readUnits, hunit]

-- ================================================================ strings

/-- The units of sixteen bits of a character: its code point, or an upper and
a lower half. -/
def units (c : Char) : List Nat :=
  if c.toNat < 0x10000 then [c.toNat]
  else [0xD800 + (c.toNat - 0x10000) / 0x400, 0xDC00 + (c.toNat - 0x10000) % 0x400]

theorem units_of_small {c : Char} (hc : c.toNat < 0x10000) : units c = [c.toNat] :=
  if_pos hc

theorem toNat_range (c : Char) :
    c.toNat < 0xD800 ∨ 0xDFFF < c.toNat ∧ c.toNat < 0x110000 :=
  c.valid

/-- A character without an escape is its own unit. -/
theorem readUnits_plain {c : Char} (hquote : c ≠ '"') (hslash : c ≠ '\\') (hlow : 32 ≤ c.toNat)
    (rest : List Char) :
    readUnits (c :: rest) = (readUnits rest).map fun (ns, left) => (c.toNat :: ns, left) := by
  rw [readUnits]
  · have hnot : ¬(c.toNat < 32 ∨ c = '\\') := by
      rintro (hc | hc)
      · omega
      · exact hslash hc
    rw [if_neg hnot]
  · exact hquote
  · exact fun _ _ _ _ _ hc _ => hslash hc
  · exact fun _ _ hc _ => hslash hc

/-- A character in front of a string is read as its units. -/
theorem readUnits_writeChar (c : Char) (rest : List Char) :
    readUnits (writeChar c ++ rest)
      = (readUnits rest).map fun (ns, left) => (units c ++ ns, left) := by
  rcases eq_or_ne c '"' with rfl | hquote
  · rfl
  rcases eq_or_ne c '\\' with rfl | hslash
  · rfl
  unfold writeChar
  rw [if_neg hquote, if_neg hslash]
  -- the other characters with an escape of one letter
  iterate 5
    split
    · subst_vars
      rfl
  split
  case isTrue hplain =>
    rw [units_of_small (by omega)]
    exact readUnits_plain hquote hslash hplain.1 rest
  split
  case isTrue hsmall =>
    rw [units_of_small hsmall]
    exact readUnits_unitEscape hsmall rest
  case isFalse hlarge =>
    have hrange := toNat_range c
    dsimp only
    rw [List.append_assoc, readUnits_unitEscape (by omega), readUnits_unitEscape (by omega)]
    unfold units
    rw [if_neg hlarge, Option.map_map]
    rfl

theorem readUnits_written (cs rest : List Char) :
    readUnits (cs.flatMap writeChar ++ '"' :: rest) = some (cs.flatMap units, rest) := by
  induction cs with
  | nil => rfl
  | cons c cs ih =>
      rw [List.flatMap_cons, List.append_assoc, readUnits_writeChar, ih]
      rfl

theorem single_toNat (c : Char) : joinUnits.single c.toNat = c := by
  have hrange := toNat_range c
  unfold joinUnits.single
  rw [if_neg (by omega), Char.ofNat_toNat]

/-- The units of a character in front join to it. -/
theorem joinUnits_units_append (c : Char) (ns : List Nat) :
    joinUnits (units c ++ ns) = c :: joinUnits ns := by
  have hrange := toNat_range c
  by_cases hsmall : c.toNat < 0x10000
  · rw [units_of_small hsmall]
    cases ns with
    | nil =>
        show [joinUnits.single c.toNat] = _
        rw [single_toNat]
        rfl
    | cons low ns =>
        show joinUnits (c.toNat :: low :: ns) = _
        rw [joinUnits, if_neg (by omega), single_toNat]
  · unfold units
    rw [if_neg hsmall]
    show joinUnits (_ :: _ :: ns) = _
    rw [joinUnits, if_pos (by omega)]
    refine congrArg (· :: joinUnits ns) ((congrArg Char.ofNat ?_).trans (Char.ofNat_toNat c))
    omega

theorem joinUnits_units (cs : List Char) : joinUnits (cs.flatMap units) = cs := by
  induction cs with
  | nil => rfl
  | cons c cs ih => rw [List.flatMap_cons, joinUnits_units_append, ih]

/-- A string is read back up to its last quote. -/
theorem readString_written (cs rest : List Char) :
    readString (cs.flatMap writeChar ++ '"' :: rest) = some (cs, rest) := by
  unfold readString
  rw [readUnits_written]
  show some (joinUnits (cs.flatMap units), rest) = _
  rw [joinUnits_units]

-- ================================================================== items

/-- A text in print, with what comes after it. -/
theorem toList_writeString_append (s : String) (rest : List Char) :
    (writeString s).toList ++ rest = '"' :: (s.toList.flatMap writeChar ++ '"' :: rest) := by
  unfold writeString
  simp

theorem skipGap_of_not_gap {c : Char} (hc : isGap c = false) (rest : List Char) :
    skipGap (c :: rest) = c :: rest :=
  List.dropWhile_cons_of_neg (by simp [hc])

/-- A blank in front of the first item is passed over. -/
theorem readItems_blank {β : Type} (close : Char) (item : List Char → Step β) (fuel : Nat)
    (cs : List Char) :
    readItems close item fuel (' ' :: cs) = readItems close item fuel cs := by
  cases fuel with
  | zero => rfl
  | succ fuel => rfl

/-- Items between commas are read back if each of them is, whatever follows it. -/
theorem readItems_joined {β : Type} {close : Char} {item : List Char → Step β}
    (hgap : isGap close = false) (hcomma : close ≠ ',') {items : List (β × String)}
    (hitem : ∀ p ∈ items, ∀ rest, item (skipGap (p.2.toList ++ rest)) = .ok (p.1, rest))
    (hne : items ≠ []) {fuel : Nat} (hfuel : items.length ≤ fuel) (rest : List Char) :
    readItems close item fuel ((", ".intercalate (items.map (·.2))).toList ++ close :: rest)
      = .ok (items.map (·.1), rest) := by
  induction items generalizing fuel with
  | nil => exact absurd rfl hne
  | cons p items ih =>
      obtain ⟨hfirst, hothers⟩ := List.forall_mem_cons.mp hitem
      obtain ⟨fuel, rfl⟩ : ∃ k, fuel = k + 1 := ⟨fuel - 1, by simp at hfuel; omega⟩
      cases items with
      | nil =>
          show readItems close item (fuel + 1) ((", ".intercalate [p.2]).toList ++ _) = _
          rw [String.intercalate_singleton, readItems, hfirst]
          dsimp only
          rw [skipGap_of_not_gap hgap]
          exact if_pos rfl
      | cons q items =>
          have hmore := @ih hothers (List.cons_ne_nil q items) fuel
            (Nat.le_of_succ_le_succ hfuel)
          have hjoined : (", ".intercalate ((p :: q :: items).map (·.2))).toList ++ close :: rest
              = p.2.toList ++ ',' :: ' '
                :: ((", ".intercalate ((q :: items).map (·.2))).toList ++ close :: rest) := by
            rw [List.map_cons, List.map_cons, String.intercalate_cons_cons]
            simp
          rw [hjoined, readItems, hfirst]
          dsimp only
          rw [skipGap_of_not_gap (by decide)]
          dsimp only
          rw [if_neg hcomma.symm, if_pos rfl, readItems_blank, hmore]
          rfl

/-- Between commas there is room for at least one character an item but one. -/
theorem length_le_joined (texts : List String) :
    texts.length ≤ (", ".intercalate texts).length + 1 := by
  induction texts with
  | nil => exact Nat.zero_le _
  | cons text texts ih =>
      cases texts with
      | nil => simp
      | cons next texts =>
          rw [String.intercalate_cons_cons]
          simp only [List.length_cons, String.length_append] at ih ⊢
          have hcomma : (", " : String).length = 2 := by decide
          omega

theorem exists_joined_cons (first : String) (others : List String) :
    ∃ later, (", ".intercalate (first :: others)).toList = first.toList ++ later := by
  cases others with
  | nil => exact ⟨[], by simp⟩
  | cons next others => exact ⟨_, by rw [String.intercalate_cons_cons]; simp; rfl⟩

-- ================================================================ objects

theorem readField_written (depth : Nat) (name text : String) (rest : List Char) :
    readField (readValue depth)
        (skipGap ((writeString name ++ ": " ++ writeString text).toList ++ rest))
      = .ok ((name, str text), rest) := by
  have hwritten : (writeString name ++ ": " ++ writeString text).toList ++ rest
      = '"' :: (name.toList.flatMap writeChar
        ++ '"' :: ':' :: ' ' :: ((writeString text).toList ++ rest)) := by
    rw [String.toList_append, String.toList_append, List.append_assoc, List.append_assoc,
      toList_writeString_append]
    rfl
  have hname : readName (name.toList.flatMap writeChar
        ++ '"' :: ':' :: ' ' :: ((writeString text).toList ++ rest))
      = .ok (name, (writeString text).toList ++ rest) := by
    rw [toList_writeString_append, readName, readString_written]
    dsimp only
    rw [skipGap_of_not_gap (by decide)]
    simp [skipGap, isGap]
  rw [hwritten, skipGap_of_not_gap (by decide), readField, hname, toList_writeString_append]
  dsimp only
  rw [readValue, readString_written]
  simp

/-- Texts under names, as the fields of an object. -/
def textFields (texts : List (String × String)) : List (String × Json) :=
  texts.map fun (name, text) => (name, str text)

theorem names_textFields (texts : List (String × String)) :
    (textFields texts).map (·.1) = texts.map (·.1) := by
  simp [textFields]

theorem writeFields_textFields (texts : List (String × String)) :
    writeFields (textFields texts)
      = texts.map fun (name, text) => writeString name ++ ": " ++ writeString text := by
  induction texts with
  | nil => rfl
  | cons field rest ih =>
      show _ :: writeFields (textFields rest) = _
      rw [ih]
      rfl

theorem readItems_textFields (depth : Nat) {texts : List (String × String)} (hne : texts ≠ [])
    {fuel : Nat} (hfuel : texts.length ≤ fuel) (rest : List Char) :
    readItems '\x7d' (readField (readValue depth)) fuel
        ((", ".intercalate (writeFields (textFields texts))).toList ++ '\x7d' :: rest)
      = .ok (textFields texts, rest) := by
  let items := texts.map fun (name, text) =>
    ((name, str text), writeString name ++ ": " ++ writeString text)
  have hitem : ∀ p ∈ items, ∀ rest,
      readField (readValue depth) (skipGap (p.2.toList ++ rest)) = .ok (p.1, rest) := by
    intro p hp rest
    obtain ⟨field, -, rfl⟩ := List.mem_map.mp hp
    exact readField_written depth field.1 field.2 rest
  have hvalues : items.map (·.1) = textFields texts := by
    simp [items, textFields]
  have hwritten : items.map (·.2) = writeFields (textFields texts) := by
    rw [writeFields_textFields]
    simp [items]
  rw [← hwritten, ← hvalues]
  exact readItems_joined (by decide) (by decide) hitem (by simpa [items] using hne)
    (by simpa [items] using hfuel) rest

/-- Fields in print open with the quote of the first name. -/
theorem exists_quote_textFields {texts : List (String × String)} (hne : texts ≠ []) :
    ∃ later, (", ".intercalate (writeFields (textFields texts))).toList = '"' :: later := by
  obtain ⟨⟨name, text⟩, others, rfl⟩ := List.exists_cons_of_ne_nil hne
  rw [writeFields_textFields, List.map_cons]
  obtain ⟨later, hlater⟩ := exists_joined_cons (writeString name ++ ": " ++ writeString text)
    (others.map fun (name, text) => writeString name ++ ": " ++ writeString text)
  rw [hlater, String.toList_append, String.toList_append, List.append_assoc, List.append_assoc,
    toList_writeString_append]
  exact ⟨_, rfl⟩

/-- An object of texts under names of their own is read back as it was. -/
theorem read_write_textFields {texts : List (String × String)} (hne : texts ≠ [])
    (hnames : (texts.map (·.1)).Nodup) (deepest : Nat) :
    read (deepest + 1) (obj (textFields texts)).write = .ok (obj (textFields texts)) := by
  let inside := (", ".intercalate (writeFields (textFields texts))).toList ++ ['\x7d']
  have hwritten : (obj (textFields texts)).write.toList = '\x7b' :: inside := by
    rw [write]
    simp [inside]
  have hfuel : texts.length ≤ inside.length + 1 := by
    have hlength := length_le_joined (writeFields (textFields texts))
    rw [writeFields_textFields, List.length_map, ← writeFields_textFields,
      ← String.length_toList] at hlength
    simp only [inside, List.length_append, List.length_singleton]
    omega
  have hvalue : readValue (deepest + 1) ('\x7b' :: inside)
      = .ok (obj (textFields texts), []) := by
    -- a brace would close the object at once, but a name comes first
    obtain ⟨later, hlater⟩ := exists_quote_textFields hne
    have hskip : skipGap inside = '"' :: (later ++ ['\x7d']) := by
      simp only [inside, hlater, List.cons_append]
      exact skipGap_of_not_gap (by decide) _
    rw [readValue, readItems_textFields deepest hne hfuel [], hskip]
    dsimp only
    rw [Entries.setAll_of_nodup (by rw [names_textFields]; exact hnames)]
    rfl
  unfold read
  rw [hwritten, skipGap_of_not_gap (by decide), hvalue]
  rfl

end Json

end MapSheets
