import DocBlock.Files.Disk

/-!
# Changes of files

What happens to files while they are watched, and to which entries of folders. A write creates the
folders above a new file. A change that cannot be done leaves the files as they are and touches no
entry.
-/

namespace DocBlock

/-- A change of the files. -/
inductive FileChange where
  /-- A file is written, and created if it is not there. -/
  | write (path text : Text)
  /-- A file is removed. -/
  | remove (path : Text)
  /-- A file gets another name, and takes the place of a file that has it. -/
  | rename (source target : Text)
  /-- A file gets other permissions. -/
  | permit (path : Text)
  deriving DecidableEq, Repr

/-- What happens to an entry of a folder. -/
inductive EntryChange where
  /-- It is new, or another file takes its place. -/
  | created
  /-- Its file is written. -/
  | written
  /-- It is removed. -/
  | removed
  /-- Its file gets another name. -/
  | renamed
  /-- Its file gets other permissions. -/
  | permitted
  deriving DecidableEq, Repr

/-- Whether an entry is written or created. -/
def EntryChange.isWriting : EntryChange → Bool
  | created | written => true
  | removed | renamed | permitted => false

namespace Disk

/-- Whether a folder is at a place. -/
def isFolder (disk : Disk) (names : List Text) : Bool :=
  names.isPrefixOf disk.working || disk.folders.contains names

/-- Whether a file can be put at a place: there is no folder, and no file where a folder above it has
to be. -/
def takesFile (disk : Disk) (names : List Text) : Bool :=
  !disk.isFolder names && (parents names).all fun above => (disk.fileAt? above).isNone

/-- The places of the folders that a file at a place needs and that are not there. -/
def missingFolders (disk : Disk) (names : List Text) : List (List Text) :=
  (parents names).filter (!disk.isFolder ·)

end Disk

namespace FileChange

/-- The text of a file that is renamed. Nothing happens to a file that already has the name. -/
def moved? (disk : Disk) (source target : Text) : Option Text :=
  if disk.named source ≠ disk.named target ∧ disk.takesFile (disk.named target) then
    disk.fileAt? (disk.named source)
  else none

/-- The disk after a change. -/
def apply (disk : Disk) : FileChange → Disk
  | write path text =>
    if disk.takesFile (disk.named path) then disk.add (Path.clean path) text else disk
  | remove path => disk.erase (disk.named path)
  | rename source target =>
    match moved? disk source target with
    | some text => (disk.erase (disk.named source)).add (Path.clean target) text
    | none => disk
  | permit _ => disk

/-- The places of the entries to which a change does something, and what it does to them, in
order. -/
def effects (disk : Disk) : FileChange → List (List Text × EntryChange)
  | write path _ =>
    let place := disk.named path
    if disk.takesFile place then
      (disk.missingFolders place).map (·, .created)
        ++ (if (disk.fileAt? place).isNone then [(place, .created)] else []) ++ [(place, .written)]
    else []
  | remove path =>
    if (disk.fileAt? (disk.named path)).isSome then [(disk.named path, .removed)] else []
  | rename source target =>
    if (moved? disk source target).isSome then
      (disk.missingFolders (disk.named target)).map (·, .created)
        ++ [(disk.named source, .renamed), (disk.named target, .created)]
    else []
  | permit path =>
    if (disk.fileAt? (disk.named path)).isSome then [(disk.named path, .permitted)] else []

/-- The places of the entries that a change writes or creates. -/
def written (disk : Disk) (change : FileChange) : List (List Text) :=
  ((change.effects disk).filter (·.2.isWriting)).map Prod.fst

end FileChange

end DocBlock
