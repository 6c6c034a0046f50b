import DocBlock.Extraction
import DocBlock.Files.Error

/-!
# Disks

A disk is a tree of files and folders, with a working folder in it. A path is followed element by
element, as it is spelled, from the root when it starts with a slash and else from the working
folder. Every element but the last must lead to a folder, and a double dot leads to the folder above
wherever the path has come to; above the root is the root.
-/

namespace DocBlock

/-- A tree of files and folders. A place in it is the list of names that lead there from the root. -/
structure Disk where
  /-- The places of the files, and their texts. -/
  files : List (List Text × Text)
  /-- The places of the folders, the root not among them. -/
  folders : List (List Text)
  /-- The place of the working folder. -/
  working : List Text

namespace Disk

/-- Where a path leads. -/
inductive Place where
  /-- To a file. -/
  | file (names : List Text) (text : Text)
  /-- To a folder. -/
  | folder (names : List Text)
  deriving DecidableEq, Repr

/-- The text of the file at a place. -/
def fileAt? (disk : Disk) (names : List Text) : Option Text :=
  (disk.files.find? fun f => f.1 == names).map Prod.snd

/-- What is found at the given names. -/
def lookUp (disk : Disk) (names : List Text) : Except FileCause Place :=
  match disk.fileAt? names with
  | some text => .ok (.file names text)
  | none =>
    if names.isEmpty || disk.folders.contains names then .ok (.folder names) else .error .noEntry

/-- The longest name that an entry can have, in bytes. -/
def longestName : Nat := 255

/-- Take one element of a path from a place. -/
def step (disk : Disk) (place : Place) (element : Text) : Except FileCause Place :=
  match place with
  | .file _ _ => .error .notFolder
  | .folder names =>
    if element = "." then .ok place
    else if element = ".." then .ok (.folder names.dropLast)
    else if longestName < element.length then .error .nameTooLong
    else disk.lookUp (names ++ [element])

/-- The elements that a path is followed by: a slash at its end asks for a folder, as a single dot
does. -/
def elements (path : Text) : List Text :=
  let names := (Path.elements path).filter (!·.isEmpty)
  if path.getLast? == some '/' then names ++ [("." : Text)] else names

/-- The folder that a path starts in. -/
def start (disk : Disk) (path : Text) : List Text :=
  if path.head? == some '/' then [] else disk.working

/-- Follow a path. -/
def resolve (disk : Disk) (path : Text) : Except FileCause Place :=
  if path.any (· == 0) then .error .invalid
  else if path.isEmpty then .error .noEntry
  else (elements path).foldlM disk.step (.folder (disk.start path))

/-- Read the file that a path leads to. -/
def load (disk : Disk) : Loader FileError := fun path =>
  match disk.resolve path with
  | .error cause => .error ⟨.opening, path, cause⟩
  | .ok (.file _ text) => .ok text
  | .ok _ => .error ⟨.reading, path, .isFolder⟩

/-- Whether a path leads to anything. -/
def examine (disk : Disk) (path : Text) : Except FileError Place :=
  (disk.resolve path).mapError fun cause => ⟨.examining, path, cause⟩

/-- Take one element of a path from a place, whatever is there. -/
def enter (names : List Text) (element : Text) : List Text :=
  if element = [] ∨ element = "." then names
  else if element = ".." then names.dropLast
  else names ++ [element]

/-- The place that a path names by its spelling alone, whatever is there. -/
def named (disk : Disk) (path : Text) : List Text :=
  (Path.elements path).foldl enter (disk.start path)

/-- The beginnings of a list of names that are neither empty nor the whole. -/
def parents : List Text → List (List Text)
  | [] => []
  | [_] => []
  | name :: names => [name] :: (parents names).map (name :: ·)

/-- The disk with a file at a place, in place of the file that was there. -/
def put (disk : Disk) (names : List Text) (text : Text) : Disk :=
  { disk with files := disk.files.filter (fun f => f.1 != names) ++ [(names, text)] }

/-- The disk without the file at a place. -/
def erase (disk : Disk) (names : List Text) : Disk :=
  { disk with files := disk.files.filter fun f => f.1 != names }

/-- Where the part of a path up to its last slash leads. -/
def above (disk : Disk) (path : Text) : Except FileCause Place :=
  if (Path.folderPart path).isEmpty then .ok (.folder disk.working)
  else disk.resolve (Path.folderPart path)

/-- Create a file at a path that leads nowhere yet. The folder must be there, and the path must not
ask for a folder. -/
def create (disk : Disk) (path text : Text) : Except FileCause Disk :=
  let bare := Text.dropWhileRight (· == '/') path
  match disk.above bare with
  | .error cause => .error cause
  | .ok (.file _ _) => .error .notFolder
  | .ok (.folder names) =>
    if bare.length < path.length then .error .isFolder
    else .ok (disk.put (names ++ [bare.drop (Path.folderPart bare).length]) text)

/-- Write a text to the file that a path leads to, or to a new file. -/
def write (disk : Disk) (path text : Text) : Except FileError Disk :=
  let outcome : Except FileCause Disk :=
    match disk.resolve path with
    | .ok (.file names _) => .ok (disk.put names text)
    | .ok _ => .error .isFolder
    | .error .noEntry => if path.isEmpty then .error .noEntry else disk.create path text
    | .error cause => .error cause
  outcome.mapError fun cause => ⟨.opening, path, cause⟩

/-- Add a file, or a folder when the name ends with a slash, with the folders above it. -/
def add (disk : Disk) (name text : Text) : Disk :=
  let names := disk.named name
  let disk := { disk with folders := disk.folders ++ parents names }
  if name.getLast? == some '/' then { disk with folders := disk.folders ++ [names] }
  else disk.put names text

/-- A disk with nothing but a working folder. -/
def fresh : Disk := ⟨[], [["work"]], ["work"]⟩

/-- A disk with the given files in its working folder; a name that ends with a slash is an empty
folder. -/
def ofFiles (files : List (Text × Text)) : Disk :=
  files.foldl (fun disk f => disk.add f.1 f.2) fresh

/-- The files below the working folder that are not on an earlier disk, or have another text there.
Their names start at the working folder. -/
def changedSince (disk earlier : Disk) : List (Text × Text) :=
  disk.files.filterMap fun f =>
    if earlier.fileAt? f.1 = some f.2 then none
    else (disk.working.isPrefixOf? f.1).map fun names => (Text.join "/" names, f.2)

end Disk

end DocBlock
