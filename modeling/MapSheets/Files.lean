import MapSheets.Failure
import MapSheets.Text.Quoted

/-
Files and their paths. A path is a text with slashes; doubled slashes and
single points in it mean nothing and are left out of its normal form. The
files that work can read are given as a value.
-/

namespace MapSheets

namespace FilePath

/-- The names between the slashes that count. -/
def names (path : String) : List String :=
  (path.splitOn "/").filter fun n => n != "" && n != "."

/-- What a path begins with: nothing, one slash, or exactly two. -/
def root (path : String) : String :=
  if path.startsWith "//" && !path.startsWith "///" then "//"
  else if path.startsWith "/" then "/" else ""

/-- The normal form of a path; the path of nothing is a point. -/
def normal (path : String) : String :=
  let s := root path ++ "/".intercalate (names path)
  if s = "" then "." else s

/-- The path of a file in a folder; the folder of nothing is where one stands. -/
def inFolder (folder name : String) : String :=
  if folder = "" then normal name else normal (folder ++ "/" ++ name)

/-- The last name of a path. -/
def lastName (path : String) : String := (names path).getLast?.getD ""

/-- The folder that a path lies in. -/
def folder (path : String) : String :=
  normal (root path ++ "/".intercalate (names path).dropLast)

/-- Names with every step upwards taken back. -/
def resolved (path : String) : List String :=
  (names path).foldl (fun acc n => if n = ".." then acc.dropLast else acc ++ [n]) []

end FilePath

/-- Files that can be read, by their paths. A folder is there if a file lies
somewhere below it. -/
structure Files where
  texts : List (String × String)

/-- What a path leads to. -/
inductive Place where
  | file (text : String)
  | folder
  | missing
  /-- A file stands where the path goes on. -/
  | blocked
  /-- The path or a name in it is longer than any can be. -/
  | tooLong
  deriving DecidableEq, Repr

namespace Files

/-- The longest name, in bytes. -/
def nameLimit : Nat := 255

/-- The longest path, in bytes. -/
def pathLimit : Nat := 4095

/-- The text of the file at a position: what its path begins with, and its names. -/
def fileAt? (files : Files) (root : String) (names : List String) : Option String :=
  (files.texts.find? fun (p, _) =>
    FilePath.resolved p == names && FilePath.root p == root).map (·.2)

/-- Whether there is a folder at a position. -/
def folderAt (files : Files) (root : String) (names : List String) : Bool :=
  names.isEmpty || files.texts.any fun (p, _) =>
    names.isPrefixOf (FilePath.resolved p) && names.length < (FilePath.resolved p).length
      && FilePath.root p == root

/-- Where names lead that are followed one by one from a folder. A step upwards
is a step like any other: what it leaves must be there. -/
def follow (files : Files) (made : List (List String)) (root : String) :
    List String → List String → Place
  | _, [] => .folder
  | here, n :: rest =>
    if n = ".." then follow files made root here.dropLast rest
    else if nameLimit < n.utf8ByteSize then .tooLong
    else
      let there := here ++ [n]
      match fileAt? files root there with
      | some text => if rest.isEmpty then .file text else .blocked
      | none =>
        if folderAt files root there || made.contains there then
          follow files made root there rest
        else .missing

/-- What a path leads to, where some folders were made besides. -/
def placeWith (files : Files) (made : List (List String)) (path : String) : Place :=
  if pathLimit < path.utf8ByteSize then .tooLong
  else follow files made (FilePath.root path) [] (FilePath.names path)

/-- What a path leads to. -/
def place (files : Files) (path : String) : Place := files.placeWith [] path

/-- The refusal of a path that is too long. -/
def tooLong (path : String) : Failure :=
  .foreign "OSError" ("[Errno 36] File name too long: " ++ Text.quoted path)

/-- The refusal of a path that holds the character zero. -/
def zeroByte : Failure := .foreign "ValueError" "embedded null byte"

/-- What a path leads to that is looked up; one that is too long is refused. -/
def find (files : Files) (path : String) : Outcome Place :=
  match files.place path with
  | .tooLong => .error (tooLong path)
  | place => .ok place

/-- The paths on the way to a path, the shortest first, and it itself. -/
def stations (path : String) : List String :=
  let names := FilePath.names path
  (List.range names.length).map fun k =>
    FilePath.normal (FilePath.root path ++ "/".intercalate (names.take (k + 1)))

/-- Makes a folder unless it is there; the folder around it must be. -/
def makeOne (files : Files) (made : List (List String)) (path : String) :
    Outcome (List (List String)) :=
  match files.placeWith made path with
  | .folder => .ok made
  | .missing => .ok (FilePath.resolved path :: made)
  | .file _ => .error (.foreign "FileExistsError" ("[Errno 17] File exists: " ++ Text.quoted path))
  | .blocked =>
    .error (.foreign "NotADirectoryError" ("[Errno 20] Not a directory: " ++ Text.quoted path))
  | .tooLong => .error (tooLong path)

/-- Makes a folder and every folder around it, and tells the folders made. -/
def makeFolder (files : Files) (path : String) : Outcome (List (List String)) := do
  if path.toList.contains '\x00' then throw zeroByte
  match files.place path with
  | .missing => (stations path).foldlM (makeOne files) []
  | _ => makeOne files [] path

/-- Refuses a file that cannot be written, where some folders were made. -/
def refuseFile (files : Files) (made : List (List String)) (path : String) : Outcome Unit :=
  if path.toList.contains '\x00' then .error zeroByte
  else match files.placeWith made path with
    | .folder =>
      .error (.foreign "IsADirectoryError" ("[Errno 21] Is a directory: " ++ Text.quoted path))
    | .tooLong => .error (tooLong path)
    | _ => .ok ()

end Files

end MapSheets
