import DocBlock.Files.Disk
import DocBlock.Glob.Pattern

/-!
# Searching a disk

The files of a disk that a pattern stands for. A pattern is cleaned as a path first. Its elements
lead from folder to folder; the last one selects files. Files of one folder come in name order, and
folders in the order in which a walk meets them.
-/

namespace DocBlock.Glob

/-- A pattern cut where its first meaningful byte is: the folder that the search starts in, and
the pattern below it. -/
structure Split where
  /-- The folder. -/
  folder : Text
  /-- The pattern below it. -/
  pattern : Text

/-- The part of a pattern before its first meaningful byte; a backslash protects the byte after
it. -/
def plainPart : Text → Text
  | [] => []
  | [b] => if isMeta b then [] else [b]
  | b :: c :: t =>
    if b = Byte.backslash then b :: c :: plainPart t
    else if isMeta b then [] else b :: plainPart (c :: t)

/-- Cut a pattern at the last slash before its first meaningful byte. -/
def Split.ofPattern (pattern : Text) : Split :=
  let above := Path.folderPart (plainPart pattern)
  if above.isEmpty then ⟨".", pattern⟩
  else ⟨if above = "/" then above else above.dropLast, pattern.drop above.length⟩

/-- The order in which a walk meets two places: a folder before what it holds, and entries of one
folder by name. -/
def walkOrder : List Text → List Text → Bool
  | [], _ => true
  | _ :: _, [] => false
  | a :: s, b :: t => if a = b then walkOrder s t else Text.precedes a b

/-- A folder and all folders below it, in the order of a walk. -/
def foldersFrom (disk : Disk) (folder : List Text) : List (List Text) :=
  folder :: ((disk.folders.filter fun f => folder.isPrefixOf f && f != folder).mergeSort
    walkOrder).eraseDups

/-- The folders directly in a folder whose names match, in name order. -/
def foldersIn (disk : Disk) (element : Text) (folder : List Text) : List (List Text) :=
  ((disk.folders.filter fun f =>
    f.dropLast == folder && f.getLast?.any (matchesName element)).mergeSort walkOrder).eraseDups

/-- The folders that the elements of a pattern lead to. -/
def foldersMatching (disk : Disk) (start : List Text) (elements : List Text) :
    List (List Text) :=
  elements.foldl
    (fun folders (element : Text) =>
      if element = "**" then folders.flatMap (foldersFrom disk)
      else folders.flatMap (foldersIn disk element))
    [start]

/-- The files of a folder that the last element of a pattern selects. -/
def filesIn (disk : Disk) (element : Text) (folder : List Text) : List (List Text) :=
  let chosen := (disk.files.map Prod.fst).filter fun f =>
    if element = "**" then folder.isPrefixOf f
    else f.dropLast == folder && f.getLast?.any (matchesName element)
  chosen.mergeSort walkOrder

/-- The files below a folder that a pattern without slashes in alternatives stands for. -/
def filesMatching (disk : Disk) (start : List Text) (pattern : Text) : List (List Text) :=
  let elements := Path.elements pattern
  match elements.getLast? with
  | none => []
  | some last =>
    ((foldersMatching disk start elements.dropLast).flatMap (filesIn disk last)).eraseDups

/-- The files below a folder that a pattern stands for, as paths from that folder. When the pattern
has alternatives with slashes the files come in byte order. -/
def relativeMatches (disk : Disk) (start : List Text) (pattern : Text) : List Text :=
  let relative (names : List Text) : Text := Text.join "/" (names.drop start.length)
  match expandFolders pattern with
  | [only] => (filesMatching disk start only).map relative
  | several =>
    Text.dropRepeats
      (Text.sort (several.flatMap fun p => (filesMatching disk start p).map relative))

/-- The files that a pattern stands for, or `none` when the pattern is not well formed. -/
def search? (disk : Disk) (pattern : Text) : Option (List Text) :=
  let cleaned := Path.clean pattern
  let split := Split.ofPattern cleaned
  if !isValid split.pattern then none
  else if split.pattern = "." ∨ split.pattern = ".." ∨ split.pattern = [] then
    match disk.resolve cleaned with
    | .ok _ => some [cleaned]
    | .error _ => some []
  else
    match disk.resolve split.folder with
    | .ok (.folder start) =>
      some ((relativeMatches disk start split.pattern).map (Path.joined split.folder))
    | _ => some []

end DocBlock.Glob
