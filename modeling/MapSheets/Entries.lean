/-
Lists of named entries. Names are unique in what these functions build: an
entry set under an old name takes the place of the old one, a new name comes
last.
-/

namespace MapSheets.Entries

variable {β : Type}

/-- Sets an entry. -/
def set (name : String) (value : β) : List (String × β) → List (String × β)
  | [] => [(name, value)]
  | (n, v) :: rest => if n = name then (n, value) :: rest else (n, v) :: set name value rest

/-- All entries of a list set in turn. -/
def setAll (entries : List (String × β)) : List (String × β) :=
  entries.foldl (fun acc (n, v) => set n v acc) []

/-- Drops the entries of a name. -/
def drop (name : String) (entries : List (String × β)) : List (String × β) :=
  entries.filter (·.1 != name)

/-- The names in the order of their code points. -/
def sortedNames (entries : List (String × β)) : List String :=
  (entries.map (·.1)).mergeSort fun a b => decide (a ≤ b)

end MapSheets.Entries
