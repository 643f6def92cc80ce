import Vivarium.Files.Path

/-!
# Files in a tree

Files stand in folders, and folders in folders up to a root. From a folder a
name leads to what stands there under it; an empty name and a single dot stay
where they are, and two dots lead to the folder around, which for the root is
the root. Every name but the last must lead to a folder, so a slash behind the
name of a file leads nowhere.

A location is a folder together with all that is around it. Whoever makes a
folder and walks on finds it there on coming back.
-/

namespace Vivarium

/-- What can stand in a folder: a file, a device that is full, or a folder. -/
inductive Node where
  | file (bytes : ByteArray)
  | full
  | folder (entries : List (String × Node))

/-- What stands in a folder, each under its name. -/
abbrev Folder := List (String × Node)

/-- Puts a folder under a name, in place of what stood there. -/
def Folder.put (folder : Folder) (name : String) (inner : Folder) : Folder :=
  (name, .folder inner) :: folder.filter (·.1 != name)

/-- A folder and those around it, the nearest first, each with the name that leads inwards. -/
structure Location where
  folder : Folder
  around : List (String × Folder) := []

namespace Location

def up (here : Location) : Location :=
  match here.around with
  | [] => here
  | (name, outer) :: rest => { folder := outer.put name here.folder, around := rest }

/-- The outermost of a folder and those around it. -/
def outermost : Folder → List (String × Folder) → Folder
  | folder, [] => folder
  | folder, (name, outer) :: rest => outermost (outer.put name folder) rest

/-- Where a path is read from. -/
def start (here : Location) (path : String) : Location :=
  if Path.isAbsolute path then { folder := outermost here.folder here.around } else here

/-- What stands under a name. -/
def find (here : Location) (name : String) : Except FileError Node :=
  if Path.longestName < name.utf8ByteSize then .error .nameTooLong
  else
    match here.folder.lookup name with
    | some node => .ok node
    | none => .error .missing

/-- The folder that a name leads to. -/
def enter (here : Location) (name : String) : Except FileError Location :=
  if Path.isHere name then .ok here
  else if Path.isUp name then .ok here.up
  else do
    match ← here.find name with
    | .folder inner => return { folder := inner, around := (name, here.folder) :: here.around }
    | _ => throw .notDirectory

/-- The folder that a name leads to, made if nothing stands there. -/
def enterOrMake (here : Location) (name : String) : Except FileError Location :=
  match here.enter name with
  | .error .missing => .ok { folder := [], around := (name, here.folder) :: here.around }
  | found => found

/-- What stands under the last name of a path, which must not be a folder. -/
def findLast (here : Location) (path : String) : Except FileError Node := do
  let name := Path.last path
  if Path.isHere name || Path.isUp name then throw .isDirectory
  match ← here.find name with
  | .folder _ => throw .isDirectory
  | node => return node

/-- The bytes of a file. A device that is full has none to give. -/
def read (here : Location) (path : String) : Except FileError ByteArray := do
  Path.check path
  let folder ← (Path.leading path).foldlM enter (here.start path)
  match ← folder.findLast path with
  | .file bytes => return bytes
  | _ => return .empty

/-- What one writes to at the end of a path. What is missing is made: the folders, and the file. -/
def openEnd (here : Location) (path : String) : Except FileError Node := do
  Path.check path
  let folder ← (Path.leading path).foldlM enterOrMake (here.start path)
  match folder.findLast path with
  | .error .missing => return .file .empty
  | found => found

end Location

end Vivarium
