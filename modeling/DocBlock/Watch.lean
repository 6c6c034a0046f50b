import DocBlock.Files.Change
import DocBlock.Job

/-!
# Watching

A job is run again whenever one of its files is written. The folders of the files are watched, not
the files, so that a file is still seen after it was removed or another file took its place. What
counts is the entry of a file in its folder: a message says that it is written or created, and its
path is cleaned before it is compared with the cleaned paths of the job. Every run looks at the files
as they are at that moment and at nothing else. A run that fails is reported and does not end the
watch.
-/

namespace DocBlock

/-- What a watcher sends. -/
inductive Message where
  /-- Something has happened to the entry at a path. -/
  | entry (path : Text) (changes : List EntryChange)
  /-- Something went wrong in the watcher. -/
  | fault (message : Text)
  deriving DecidableEq, Repr

/-- What a watcher of some folders sends about a change of a disk. -/
abbrev Watcher := List Text → Disk → FileChange → List Message

/-- The watcher that sends one message for every entry of a watched folder. A folder that is watched
under several paths is named by the first of them. -/
def Watcher.entries : Watcher := fun folders disk change =>
  (change.effects disk).filterMap fun effect =>
    (folders.find? fun folder => disk.named folder == effect.1.dropLast).map fun folder =>
      .entry (folder ++ "/" ++ effect.1.getLastD []) [effect.2]

namespace Watch

/-- The paths whose entries count. -/
def targets (paths : List Text) : List Text := paths.map Path.clean

/-- The folders that are watched. -/
def folders (paths : List Text) : List Text := ((targets paths).map Path.directory).eraseDups

/-- Check that every file to be watched is there. -/
def start (disk : Disk) (paths : List Text) : Traced Failure Unit := do
  Traced.ofExcept (paths.forM fun path =>
    match disk.examine path with
    | .ok _ => .ok ()
    | .error error => .error (.unwatchable path error))
  Traced.report (.watching paths.length)

/-- Whether a message starts the job. -/
def counts (paths : List Text) : Message → Bool
  | .entry path changes =>
    (targets paths).contains (Path.clean path) && changes.any EntryChange.isWriting
  | .fault _ => false

/-- A run of the job that a message has started. -/
structure Round where
  /-- The path in the message. -/
  path : Text
  /-- What the run found. -/
  before : Surroundings
  /-- How it ended. -/
  result : Except Failure Unit
  /-- What it left behind. -/
  after : Surroundings

/-- What a run has printed. -/
def Round.printed (round : Round) : Text := round.after.output.drop round.before.output.length

/-- Run the job. A failure is reported, and the watch goes on. -/
def round (job : Job) (path : Text) : Action Round := fun s =>
  let (outcome, after) := job.run s
  let report : List Event :=
    match outcome.result with
    | .ok _ => []
    | .error failure => [.extractFailed path failure.message]
  (⟨.sourceChanged path :: outcome.events ++ report, .ok ⟨path, s, outcome.result, after⟩⟩, after)

/-- Answer a message. -/
def handle (job : Job) (message : Message) : Action (List Round) :=
  match message with
  | .entry path _ =>
    if counts job.paths message then do return [← round job path] else return []
  | .fault text => do
    Action.look fun _ => Traced.report (.watchFaulted text)
    return []

/-- Answer messages in turn. -/
def handleAll (job : Job) : List Message → Action (List Round)
  | [] => return []
  | message :: messages => do
    let first ← handle job message
    let later ← handleAll job messages
    return first ++ later

/-- Let the files change. What the watcher sends about it is the result. -/
def happen (watcher : Watcher) (paths : List Text) (change : FileChange) :
    Action (List Message) := fun s =>
  (Traced.pure (watcher (folders paths) s.disk change), { s with disk := change.apply s.disk })

/-- Let the files change, and answer. -/
def respond (watcher : Watcher) (job : Job) (change : FileChange) : Action (List Round) := do
  handleAll job (← happen watcher job.paths change)

/-- Let the files change again and again, and answer every change. -/
def respondAll (watcher : Watcher) (job : Job) : List FileChange → Action (List (List Round))
  | [] => return []
  | change :: changes => do
    let rounds ← respond watcher job change
    let later ← respondAll watcher job changes
    return rounds :: later

/-- Watch the files of a job while they change. -/
def run (watcher : Watcher) (job : Job) (changes : List FileChange) :
    Action (List (List Round)) := do
  Action.look fun s => start s.disk job.paths
  respondAll watcher job changes

/-- What a change leads to. -/
structure Response where
  /-- The watched path that was written. -/
  changed : Option Text
  /-- What the job gave: a document or a failure. -/
  outcome : Option (Except Failure Text)

/-- The last of the runs that a change has started. -/
def Response.ofRounds (rounds : List Round) : Response :=
  { changed := rounds.getLast?.map fun round => Path.clean round.path
    outcome := rounds.getLast?.map fun round => round.result.map fun _ => round.printed }

/-- What changes lead to when the documents go to the standard output. -/
def responses (job : Job) (disk : Disk) (changes : List FileChange) : List Response :=
  let printing := { job with destination := .standardOutput }
  let (outcome, _) := respondAll Watcher.entries printing changes (.ofDisk disk false)
  (outcome.result.toOption.getD []).map Response.ofRounds

end Watch

end DocBlock
