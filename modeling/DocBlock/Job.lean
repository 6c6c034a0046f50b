import DocBlock.Files.Disk
import DocBlock.Glob.Search
import DocBlock.Options

/-!
# Jobs

A job extracts a fixed list of files and writes one document. One file gives the array of its
comments; several give an object with a field for each path. A job either fails and writes nothing,
or writes one complete document to its destination.
-/

namespace DocBlock

/-- Where a document goes. -/
inductive Destination where
  /-- To the standard output. -/
  | standardOutput
  /-- To a file. -/
  | file (path : Text)
  deriving DecidableEq, Repr

/-- What the program finds around it and does not decide itself. -/
structure Host where
  /-- The files on a disk that match a pattern, if the pattern is well formed. -/
  search? : Disk → Text → Option (List Text) := Glob.search?
  /-- The YAML of a document, or why there is none. -/
  toYaml : Json → Except Text Text := Yaml.convert
  /-- Whether the standard output is a terminal. -/
  isTerminal : Bool := false

/-- What is extracted, and how it is written. -/
structure Job where
  /-- The files, in the order in which they are read. -/
  paths : List Text
  /-- How comments are read. -/
  reading : Reading
  /-- How many levels of `@detail` are included. -/
  depth : Int
  /-- How the document is written. -/
  encoding : Encoding
  /-- Where the document goes. -/
  destination : Destination
  /-- The YAML of a document, or why there is none. -/
  toYaml : Json → Except Text Text := Yaml.convert

/-- What a job writes to. -/
structure Surroundings where
  /-- The files. -/
  disk : Disk
  /-- What has been written to the standard output. -/
  output : Text
  /-- Whether the standard output takes no more. -/
  isFull : Bool

namespace Surroundings

/-- A disk before anything is written. -/
def ofDisk (disk : Disk) (isFull : Bool) : Surroundings := ⟨disk, [], isFull⟩

/-- Why nothing can be written to the standard output. -/
def fullError : FileError := ⟨.writing, "/dev/stdout", .noSpace⟩

/-- Write to the standard output. -/
def print (s : Surroundings) (t : Text) : Except FileError Surroundings :=
  if s.isFull then .error fullError else .ok { s with output := s.output ++ t }

/-- Write to the standard output if it takes anything. -/
def tryPrint (s : Surroundings) (t : Text) : Surroundings :=
  match s.print t with
  | .ok s => s
  | .error _ => s

/-- Write a document. -/
def write (s : Surroundings) (destination : Destination) (t : Text) :
    Except FileError Surroundings :=
  match destination with
  | .standardOutput => s.print t
  | .file path => (s.disk.write path t).map fun disk => { s with disk }

end Surroundings

/-- A computation that may write to the surroundings. What it has written stays written when it
fails. -/
def Action (α : Type) : Type := Surroundings → Traced Failure α × Surroundings

namespace Action

/-- Succeed and write nothing. -/
def pure {α : Type} (a : α) : Action α := fun s => (Traced.pure a, s)

/-- Run one computation after another; a failure ends the run. -/
def bind {α β : Type} (x : Action α) (f : α → Action β) : Action β := fun s =>
  let (first, between) := x s
  match first.result with
  | .ok a =>
    let (second, after) := f a between
    (⟨first.events ++ second.events, second.result⟩, after)
  | .error e => (⟨first.events, .error e⟩, between)

instance : Monad Action where
  pure := Action.pure
  bind := Action.bind

/-- Compute something from the surroundings as they are. -/
def look {α : Type} (f : Surroundings → Traced Failure α) : Action α := fun s => (f s, s)

/-- Write a document. -/
def write (destination : Destination) (t : Text) : Action Unit := fun s =>
  match s.write destination t with
  | .ok after => (Traced.pure (), after)
  | .error error => (Traced.ofExcept (.error (.unwritable error)), s)

end Action

namespace Job

/-- The files that an argument stands for: those that match it when it is a pattern, else the
argument itself, whether there is such a file or not. -/
def expandArgument (disk : Disk) (argument : Text) (host : Host := {}) :
    Except Failure (List Text) :=
  if argument.any Glob.isMeta then
    match host.search? disk argument with
    | none => .error (.badPattern argument)
    | some [] => .error (.noMatch argument)
    | some paths => .ok paths
  else .ok [argument]

/-- The files that arguments stand for. -/
def expand (disk : Disk) (arguments : List Text) (host : Host := {}) :
    Except Failure (List Text) :=
  (arguments.mapM (expandArgument disk · host)).map List.flatten

/-- The job that options and arguments ask for. The format is checked first, then the depth, then
the arguments. -/
def prepare (options : Options) (names : FlagNames) (render : Text → Text) (disk : Disk)
    (arguments : List Text) (host : Host := {}) : Except Failure Job := do
  let encoding ← options.encoding host.isTerminal
  let depth ← options.checkedDepth names
  let paths ← expand disk arguments host
  let destination :=
    if options.toStandardOutput then Destination.standardOutput else .file options.output
  return {
    paths, reading := options.reading render, depth, encoding, destination, toYaml := host.toYaml }

/-- Extract one of the files of a job. -/
def extract (job : Job) (load : Loader FileError) (path : Text) :
    Traced Failure (List (Comment Inclusion)) :=
  (Extraction.extract load job.reading job.depth path).mapError .unreadable

/-- The document of a job. -/
def document (job : Job) (load : Loader FileError) : Traced Failure Json :=
  match job.paths with
  | [path] => do return Document.ofFile (← job.extract load path)
  | paths => do
    let files ← paths.mapM fun path => do return (path, ← job.extract load path)
    return Document.ofFiles files

/-- A document as a job writes it. -/
def encode (job : Job) (document : Json) : Except Failure Text :=
  job.encoding.writeWith job.toYaml document

/-- The document of a job as it is written. -/
def text (job : Job) (load : Loader FileError) : Traced Failure Text := do
  Traced.ofExcept (job.encode (← job.document load))

/-- Run a job on the files as they are. -/
def run (job : Job) : Action Unit := do
  let text ← Action.look fun s => job.text s.disk.load
  Action.write job.destination text

end Job

end DocBlock
