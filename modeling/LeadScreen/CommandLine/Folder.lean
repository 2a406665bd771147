import LeadScreen.Assoc
import LeadScreen.Path
import LeadScreen.Table.Source

set_option autoImplicit false

/-!
# Folders

The folder that a command runs in: its files, and the folders that something can be saved in. A path
leads to a file, to a folder, somewhere above, or nowhere.
-/

namespace LeadScreen

/-- The surroundings of a command. -/
structure Folder where
  /-- The files, by their normal paths. -/
  files : Assoc Text Table.Content := []
  /-- The normal paths of the folders that exist. -/
  folders : List Text := [".".toList]
  /-- The bytes of the file that a sheet is saved in. -/
  pack : Table.Sheet → List UInt8 := fun _ => []

namespace Folder

/-- Reads the table at a path. A folder has no name that says how to read it. -/
def readTable (folder : Folder) (path : Text) : Table.Reading :=
  let name := Path.name path
  if Path.isUpward path then ⟨[], some (.unsupported (Table.calledAs (some name) none))⟩
  else
    Table.read (some name) none
      (.path (Path.normal path) (folder.files.get? (Path.normal path)))

/-! ## Saving -/

inductive SaveFault where
  /-- The folder in which to save does not exist. -/
  | notFound
  /-- There is a folder at the path. -/
  | isFolder
  /-- There is a file where a folder should be. -/
  | notFolder
deriving DecidableEq, Repr

namespace SaveFault

def message (path : Text) : SaveFault → Text
  | .notFound => "[Errno 2] No such file or directory: ".toList ++ path.quoted
  | .isFolder => "[Errno 21] Is a directory: ".toList ++ path.quoted
  | .notFolder => "[Errno 20] Not a directory: ".toList ++ path.quoted

end SaveFault

/-- Where a path leads that something is saved at. -/
inductive Target where
  /-- To a file, by its normal path. -/
  | file (path : Text)
  /-- To a file above the folder. -/
  | above
  | fault (f : SaveFault)
deriving DecidableEq, Repr

/-- Where a path leads that something is saved at. A slash at its end names a folder. -/
def target (folder : Folder) (path : Text) : Target :=
  if path.isEmpty then .fault .notFound
  else if Path.isUpward path || folder.folders.elem (Path.normal path) then .fault .isFolder
  else if folder.folders.elem (Path.parent path) then
    if path.getLast? == some '/' then .fault .isFolder else .file (Path.normal path)
  else if Path.isUpward (Path.parent path) then .above
  else if (folder.files.get? (Path.parent path)).isSome then .fault .notFolder
  else .fault .notFound

def save (folder : Folder) (path : Text) (sheet : Table.Sheet) : Except SaveFault Folder :=
  match folder.target path with
  | .file name =>
    .ok { folder with files := folder.files.set name (.ofSheet sheet (folder.pack sheet)) }
  | .above => .ok folder
  | .fault f => .error f

end Folder

end LeadScreen
