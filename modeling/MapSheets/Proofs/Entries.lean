import MapSheets.Entries
import Mathlib.Data.List.Nodup

/-
Laws of named entries. Setting and dropping are told by what a look-up finds
afterwards (`lookup_set`, `lookup_drop`), and both keep every name single.
Entries whose names are all different are left as they are when they are set
one after the other (`setAll_of_nodup`).
-/

namespace MapSheets.Entries

variable {β : Type} {entries : List (String × β)}

-- =============================================================== look-ups

theorem lookup_cons_eq (name : String) (value : β) (entries : List (String × β)) (n : String) :
    ((name, value) :: entries).lookup n = if n = name then some value else entries.lookup n := by
  by_cases hn : n = name
  · subst hn
    simp
  · rw [List.lookup_cons, beq_false_of_ne hn, if_neg hn]

theorem lookup_set (name : String) (value : β) (entries : List (String × β)) (n : String) :
    (set name value entries).lookup n = if n = name then some value else entries.lookup n := by
  induction entries with
  | nil => exact lookup_cons_eq name value [] n
  | cons entry rest ih =>
      obtain ⟨m, v⟩ := entry
      unfold set
      by_cases hm : m = name
      · rw [if_pos hm, lookup_cons_eq, lookup_cons_eq, hm]
        by_cases hn : n = name
        · simp [hn]
        · simp [hn]
      · rw [if_neg hm, lookup_cons_eq, lookup_cons_eq, ih]
        by_cases hn : n = m
        · simp [hn, hm]
        · simp [hn]

theorem lookup_drop (name : String) (entries : List (String × β)) (n : String) :
    (drop name entries).lookup n = if n = name then none else entries.lookup n := by
  unfold drop
  induction entries with
  | nil => simp
  | cons entry rest ih =>
      obtain ⟨m, v⟩ := entry
      by_cases hm : m = name
      · rw [List.filter_cons_of_neg (by simp [hm]), ih, lookup_cons_eq, hm]
        by_cases hn : n = name
        · simp [hn]
        · simp [hn]
      · rw [List.filter_cons_of_pos (by simp [hm]), lookup_cons_eq, lookup_cons_eq, ih]
        by_cases hn : n = m
        · simp [hn, hm]
        · simp [hn]

/-- An entry is what the look-up of its name finds, if no other has that name. -/
theorem lookup_of_mem (hnames : (entries.map (·.1)).Nodup) {name : String} {value : β}
    (hmem : (name, value) ∈ entries) : entries.lookup name = some value := by
  induction entries with
  | nil => cases hmem
  | cons entry rest ih =>
      obtain ⟨m, v⟩ := entry
      obtain ⟨hm, hrest⟩ := List.nodup_cons.mp hnames
      rcases List.mem_cons.mp hmem with heq | hlater
      · cases heq
        exact List.lookup_cons_self
      · have hne : name ≠ m := by
          rintro rfl
          exact hm (List.mem_map.mpr ⟨_, hlater, rfl⟩)
        rw [lookup_cons_eq, if_neg hne]
        exact ih hrest hlater

-- ================================================================== names

theorem set_of_not_mem {name : String} (hname : name ∉ entries.map (·.1)) (value : β) :
    set name value entries = entries ++ [(name, value)] := by
  induction entries with
  | nil => rfl
  | cons entry rest ih =>
      obtain ⟨m, v⟩ := entry
      rw [List.map_cons, List.mem_cons, not_or] at hname
      unfold set
      rw [if_neg (Ne.symm hname.1), ih hname.2]
      rfl

theorem names_set_of_mem {name : String} (hname : name ∈ entries.map (·.1)) (value : β) :
    (set name value entries).map (·.1) = entries.map (·.1) := by
  induction entries with
  | nil => cases hname
  | cons entry rest ih =>
      obtain ⟨m, v⟩ := entry
      unfold set
      by_cases hm : m = name
      · rw [if_pos hm]
        rfl
      · rw [List.map_cons, List.mem_cons] at hname
        rw [if_neg hm, List.map_cons, ih (hname.resolve_left (Ne.symm hm))]
        rfl

/-- An entry that is set makes no name stand twice. -/
theorem nodup_set (hnames : (entries.map (·.1)).Nodup) (name : String) (value : β) :
    ((set name value entries).map (·.1)).Nodup := by
  by_cases hname : name ∈ entries.map (·.1)
  · rw [names_set_of_mem hname]
    exact hnames
  · rw [set_of_not_mem hname, List.map_append]
    exact List.Nodup.append hnames (List.nodup_singleton _) (by simpa using hname)

theorem nodup_drop (hnames : (entries.map (·.1)).Nodup) (name : String) :
    ((drop name entries).map (·.1)).Nodup :=
  hnames.sublist (List.filter_sublist.map _)

/-- Entries under names of their own stay as they are when they are set in turn. -/
theorem setAll_of_nodup (hnames : (entries.map (·.1)).Nodup) : setAll entries = entries := by
  have hfold : ∀ later earlier : List (String × β), ((earlier ++ later).map (·.1)).Nodup →
      later.foldl (fun acc entry => set entry.1 entry.2 acc) earlier = earlier ++ later := by
    intro later
    induction later with
    | nil => intro earlier _; simp
    | cons entry later ih =>
        intro earlier hnames
        obtain ⟨n, v⟩ := entry
        have hn : n ∉ earlier.map (·.1) := by
          rw [List.map_append, List.nodup_append] at hnames
          exact fun hmem => hnames.2.2 n hmem n (by simp) rfl
        show later.foldl _ (set n v earlier) = _
        rw [set_of_not_mem hn, ih _ (by simpa using hnames)]
        simp
  exact hfold entries [] hnames

end MapSheets.Entries
