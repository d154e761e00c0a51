import TableSchema.Fault

/-!
# Folders

A folder of files held in memory, for runs that do not touch the disk.  Paths are read as the
operating system reads them: parts between slashes, where `.` stays in place and `..` goes up, and
a part behind a file is refused.

## Main definitions

* `Item` — files and folders.
* `Folder.item?` — what stands at a path.
* `Folder.textAt`, `Folder.read` — the text of the file at a path.
-/

namespace TableSchema

/-- What stands in a folder. -/
inductive Item where
  /-- A file with these bytes. -/
  | file (bytes : ByteArray)
  /-- A folder with these items, each under its name. -/
  | folder (items : List (String × Item))
  deriving Inhabited

/-- The items of a folder, each under its name. -/
abbrev Folder := List (String × Item)

namespace Folder

/-- The parts of a path, between its slashes. -/
def parts (path : String) : List String :=
  path.splitOn "/"

/-- What stands at a path, which starts in an item with these folders above it, the nearest first.
Above the last of them there are only empty folders. -/
def walk : (above : List Folder) → Item → List String → Except ReadFault Item
  | _, item, [] => .ok item
  | _, .file _, _ :: _ => .error .notFolder
  | above, .folder here, part :: rest =>
    if part = "" ∨ part = "." then walk above (.folder here) rest
    else if part = ".." then
      match above with
      | [] => walk [] (.folder []) rest
      | up :: above => walk above (.folder up) rest
    else
      match here.lookup part with
      | none => .error .notFound
      | some item => walk (here :: above) item rest

/-- What stands at a path.  An empty path leads nowhere, and a path from the root of the disk
leads out of the folder. -/
def item? (f : Folder) (path : String) : Except ReadFault Item :=
  match path.toList with
  | [] => .error .notFound
  | '/' :: _ => walk [] (.folder []) (parts path)
  | _ => walk [] (.folder f) (parts path)

/-- The text of bytes in UTF-8. -/
def textOfBytes (bytes : ByteArray) : Except ReadFault String :=
  match String.fromUTF8? bytes with
  | some text => .ok text
  | none => .error .notText

/-- A text is found again in its own bytes. -/
@[simp] theorem textOfBytes_toUTF8 (text : String) : textOfBytes text.toUTF8 = .ok text := by
  have h : String.fromUTF8? text.toUTF8 = some text := dif_pos text.isValidUTF8
  rw [textOfBytes, h]

/-- The text of what stands at a path. -/
def textAt : Except ReadFault Item → Except ReadFault String
  | .error cause => .error cause
  | .ok (.folder _) => .error .isFolder
  | .ok (.file bytes) => textOfBytes bytes

/-- The text of the file at a path. -/
def read (f : Folder) (path : String) : Except ReadFault String :=
  textAt (f.item? path)

end Folder

end TableSchema
