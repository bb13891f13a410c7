import MapSheets.Files

/-
A folder with one file. What a path leads to is found name by name; here there
is one name to follow.
-/

namespace MapSheets.Files

/-- The folder with one file, which is called g. -/
def ofText (text : String) : Files := ⟨[("g", text)]⟩

theorem names_letter : FilePath.names "g" = ["g"] := by
  have hsplit : "g".splitOn "/" = ["g"] := by
    rw [String.splitOn, if_neg (by decide), String.splitOnAux, if_neg (by decide +kernel),
      if_neg (by decide +kernel), String.splitOnAux, if_pos (by decide +kernel)]
    decide +kernel
  rw [FilePath.names, hsplit]
  decide

theorem find_ofText (text : String) :
    (ofText text).find (FilePath.normal "g") = .ok (.file text) := by
  have hnormal : FilePath.normal "g" = "g" := by
    rw [FilePath.normal, names_letter]
    decide +kernel
  have hresolved : FilePath.resolved "g" = ["g"] := by
    rw [FilePath.resolved, names_letter]
    decide
  have hlength : "g".utf8ByteSize = 1 := by decide +kernel
  have hplace : (ofText text).place "g" = .file text := by
    simp [Files.place, Files.placeWith, names_letter, Files.follow, Files.fileAt?, hresolved,
      ofText, Files.pathLimit, Files.nameLimit, hlength]
  rw [hnormal, Files.find, hplace]

end MapSheets.Files
