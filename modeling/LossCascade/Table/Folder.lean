import LossCascade.Table.Path
import LossCascade.Table.Workbook

/-!
# Files and folders

Files are looked up by path. A folder with known entries answers for every path that stays inside
it; around it there are only other folders.
-/

namespace LossCascade

/-- Why nothing is found at a path. -/
inductive PathFault where
  /-- There is no such thing. -/
  | missing
  /-- The path goes on behind a file. -/
  | behindFile
  /-- The path or one of its parts is too long. -/
  | tooLong
  /-- The path holds a character that ends texts. -/
  | endsEarly
deriving DecidableEq, Repr

/-- The message of the operating system about a path. -/
def PathFault.message : PathFault → String
  | missing => "No such file or directory (os error 2)"
  | behindFile => "Not a directory (os error 20)"
  | tooLong => "File name too long (os error 36)"
  | endsEarly => "file name contained an unexpected NUL byte"

/-- The entry at each path, and how the workbooks among them are read. -/
structure Files where
  entry : String → Except PathFault Entry
  workbooks : WorkbookReader := WorkbookReader.ofGrids

/-! ## Folders -/

/-- The entries of a folder by the parts of their paths. -/
abbrev Folder := List (List String × Entry)

/-- Where a walk along a path stands. -/
inductive Place where
  /-- In a directory inside the folder, or in the folder itself. -/
  | inside (parts : List String)
  /-- In a directory around the folder. -/
  | outside
  /-- At a file. -/
  | file (entry : Entry)

/-- How many bytes a part of a path may have. -/
def maxPartSize : Nat := 255

/-- How many bytes a path may have. -/
def maxPathSize : Nat := 4095

namespace Folder

/-- A folder with entries at some paths. -/
def ofEntries (entries : List (String × Entry)) : Folder :=
  entries.map fun (path, entry) => (Path.parts path, entry)

/-- What stands at the parts of a path inside the folder. An entry implies the directories above
it. -/
def placeAt? (folder : Folder) (parts : List String) : Option Place :=
  match folder.lookup parts with
  | some .directory => some (.inside parts)
  | some entry => some (.file entry)
  | none => if folder.any fun (path, _) => parts.isPrefixOf path then some (.inside parts) else none

/-- One step along a path. -/
def step (folder : Folder) (place : Place) (part : String) : Except PathFault Place :=
  match place with
  | .file _ => .error .behindFile
  | .outside =>
    if ["", ".", ".."].contains part then .ok .outside
    else if maxPartSize < part.utf8ByteSize then .error .tooLong
    else .error .missing
  | .inside parts =>
    if part == "" || part == "." then .ok place
    else if part == ".." then .ok (if parts.isEmpty then .outside else .inside parts.dropLast)
    else if maxPartSize < part.utf8ByteSize then .error .tooLong
    else
      match folder.placeAt? (parts ++ [part]) with
      | some next => .ok next
      | none => .error .missing

/-- The entries that paths lead to from the folder. -/
def files (folder : Folder) : Files where
  entry path := do
    if path.toList.contains '\x00' then throw .endsEarly
    if maxPathSize < path.utf8ByteSize then throw .tooLong
    if path.isEmpty then throw .missing
    let start : Place := if path.startsWith "/" then .outside else .inside []
    match ← (Text.split '/' path).foldlM folder.step start with
    | .file entry => return entry
    | .inside _ | .outside => return .directory

end Folder

end LossCascade
