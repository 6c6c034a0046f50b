import DocBlock.Command.Program

/-!
# The command line

The outer layer: it reads the files that a job demands, hands them to the library, and writes what
the library gives. Every decision is made by `Program.task`, `Job` and `Extraction`.
-/

namespace DocBlock.Terminal

/-- What this build says about itself. -/
def build : Build := ⟨[], "unknown", "Lean", []⟩

/-- The bytes of a text. -/
def bytes (t : Text) : ByteArray := ⟨t.toArray⟩

/-- Why a file could not be read or written. -/
def fileError (action : FileAction) (path : Text) (error : IO.Error) : FileError :=
  match error with
  | .noFileOrDirectory _ _ _ => ⟨.opening, path, .noEntry⟩
  | .inappropriateType _ _ _ => ⟨action, path, .isFolder⟩
  | .resourceExhausted _ _ _ => ⟨action, path, .noSpace⟩
  | _ => ⟨action, path, .invalid⟩

/-- Read a file. -/
def readText (path : Text) : IO (Except FileError Text) := do
  try
    let contents ← IO.FS.readBinFile (Text.toString path)
    return .ok contents.data.toList
  catch error => return .error (fileError .reading path error)

/-- Write a file. -/
def writeText (path text : Text) : IO (Except FileError Unit) := do
  try
    IO.FS.writeBinFile (Text.toString path) (bytes text)
    return .ok ()
  catch error => return .error (fileError .opening path error)

/-- The names below a folder, without the texts of the files. -/
partial def listFolder (folder : String) (names : List Text) (disk : Disk) : IO Disk := do
  let place ← IO.FS.realPath folder
  let mut disk := disk
  for entry in ← place.readDir do
    let inner := names ++ [Text.ofString entry.fileName]
    if ← entry.path.isDir then
      disk ← listFolder entry.path.toString inner { disk with folders := disk.folders ++ [inner] }
    else
      disk := disk.put inner []
  return disk

/-- The files that have been read. -/
abbrev Known := List (Text × Except FileError Text)

/-- Read from the files that have been read. -/
def Known.load (known : Known) : Loader FileError := fun path =>
  (known.lookup path).getD (.error ⟨.opening, path, .noEntry⟩)

/-- Read all files that an extraction demands. -/
partial def gather (job : Job) (known : Known) : IO Known := do
  let demanded := job.paths.flatMap
    (Extraction.demanded known.load job.reading job.depth.toNat)
  match demanded.find? fun path => (known.lookup path).isNone with
  | none => return known
  | some path => gather job (known ++ [(path, ← readText path)])

/-- Write a text to the standard output. -/
def printText (text : Text) : IO Unit := do
  let output ← IO.getStdout
  output.write (bytes text)
  output.flush

/-- Write a text to the standard error. -/
def printError (text : Text) : IO Unit := do (← IO.getStderr).write (bytes text)

/-- Run a job on the files as they are now. -/
def runJob (job : Job) (handler : Log.Handler) : IO (Except Failure Unit) := do
  let outcome := job.text (← gather job []).load
  printError (handler.lines Program.logTime (outcome.events.map Event.record))
  match outcome.result, job.destination with
  | .error failure, _ => return .error failure
  | .ok text, .standardOutput => printText text; return .ok ()
  | .ok text, .file path => return (← writeText path text).mapError .unwritable

/-- When a file was written last, if it is there. -/
def lastWritten (path : Text) : IO (Option IO.FS.SystemTime) := do
  try
    return some (← (← IO.FS.realPath (Text.toString path)).metadata).modified
  catch _ => return none

/-- Log an event. -/
def report (handler : Log.Handler) (event : Event) : IO Unit :=
  printError (handler.lines Program.logTime [event.record])

/-- Run a job whenever one of its files is written. -/
partial def watchFiles (job : Job) (handler : Log.Handler)
    (before : List (Option IO.FS.SystemTime)) : IO Unit := do
  IO.sleep 200
  let now ← job.paths.mapM lastWritten
  for (path, earlier, later) in job.paths.zip (before.zip now) do
    if later.isSome && earlier != later then
      report handler (.sourceChanged path)
      if let .error failure ← runJob job handler then
        report handler (.extractFailed path failure.message)
  watchFiles job handler now

/-- Extract files, and watch them if that is asked for. -/
def extract (options : Options) (handler : Log.Handler) (inputs : List Text) :
    IO (Except Failure Unit) := do
  let needsListing := inputs.any fun input => input.any Glob.isMeta
  let working := Path.resolved (Text.ofString (← IO.FS.realPath ".").toString)
  let disk ← if needsListing then listFolder "." working ⟨[], [], working⟩
    else pure ⟨[], [], working⟩
  let host : Host := { isTerminal := ← (← IO.getStdout).isTty }
  match Job.prepare options {} Markdown.render disk inputs host with
  | .error failure => return .error failure
  | .ok job =>
    match ← runJob job handler with
    | .error failure => return .error failure
    | .ok _ =>
      if options.watch then
        report handler (.watching job.paths.length)
        watchFiles job handler (← job.paths.mapM lastWritten)
      return .ok ()

/-- Run the program on a command line; the result is the code that it ends with. -/
def run (arguments : List Text) : IO UInt32 := do
  match Program.task arguments with
  | .perform .extract options handler inputs =>
    match ← extract options handler inputs with
    | .ok _ => return 0
    | .error failure =>
      printError (failure.message ++ "\n")
      return 1
  | _ =>
    let exit := Program.run build (.ofDisk .fresh false) arguments
    printText exit.surroundings.output
    printError exit.errors
    return exit.code.toUInt32

end DocBlock.Terminal

/-- Run the program. -/
def main (arguments : List String) : IO UInt32 :=
  DocBlock.Terminal.run (arguments.map DocBlock.Text.ofString)
