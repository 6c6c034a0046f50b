import DocBlock.Command.Help
import DocBlock.Markdown.Render
import DocBlock.Schema
import DocBlock.Version
import DocBlock.Watch

/-!
# The program

What the program does with a command line: what it prints, which files it writes, and the code that
it ends with. A flag that is wrong comes first, then a request for help or for the version, then the
number of arguments, then the names for the log; only then a command does its work.
-/

namespace DocBlock

/-- The end of a run of the program. -/
structure Exit where
  /-- The code: zero for success. -/
  code : Nat
  /-- What was written to the standard error. -/
  errors : Text
  /-- The files and the standard output. -/
  surroundings : Surroundings

namespace Program

/-- The time that log lines give: none is kept. -/
def logTime : Option Text := some "-"

/-- End a run with a failure. -/
def fail (s : Surroundings) (log : Text) (failure : Failure) : Exit :=
  ⟨1, log ++ failure.message ++ "\n", s⟩

/-- End a run with success. -/
def succeed (s : Surroundings) : Exit := ⟨0, [], s⟩

/-- The extraction that options ask for, with the check of the files to be watched. -/
def extract (options : Options) (inputs : List Text) (host : Host := {})
    (render : Text → Text := Markdown.render) : Action Unit := do
  let job ← Action.look fun s =>
    Traced.ofExcept (Job.prepare options {} render s.disk inputs host)
  job.run
  if options.watch then Action.look fun s => Watch.start s.disk job.paths

/-- The surroundings after the extraction that options ask for, if it succeeds. -/
def extraction (options : Options) (s : Surroundings) (inputs : List Text) (host : Host := {})
    (render : Text → Text := Markdown.render) : Traced Failure Surroundings :=
  let (outcome, after) := extract options inputs host render s
  (fun _ => after) <$> outcome

/-- End a run with the outcome of an action and the log of its events. -/
def ofAction (handler : Log.Handler) (s : Surroundings) (action : Action Unit) : Exit :=
  let (outcome, after) := action s
  let log := handler.lines logTime (outcome.events.map Event.record)
  match outcome.result with
  | .ok _ => ⟨0, log, after⟩
  | .error failure => fail after log failure

/-- The name of the flag whose value a command line asks to complete: the last argument is the value
so far. -/
def completedFlag? (arguments : List Text) : Option Flag := do
  let last ← arguments.getLast?
  let flags := Command.extract.flags
  match Text.cut "=" last with
  | some (label, _) =>
    if ("--" : Text).isPrefixOf label then Flag.named? flags (label.drop 2)
    else if Command.isFlag label then Flag.lettered? flags (label.getLastD 0) else none
  | none =>
    if Command.isFlag last then none
    else
      let label ← arguments.dropLast.getLast?
      let flag ←
        if ("--" : Text).isPrefixOf label then Flag.named? flags (label.drop 2)
        else if Command.isFlag label then Flag.lettered? flags (label.getLastD 0) else none
      if flag.isSwitch then none else some flag

/-- Print completions: the values one a line, then whether file names can be offered too. -/
def complete (s : Surroundings) (arguments : List Text) : Exit :=
  let found := do Completion.find? Command.extract.flags (← completedFlag? arguments).name
  let values := (found.getD []).flatMap (· ++ "\n")
  let ending : Text := if found.isSome then ":4\n" else ":0\n"
  let directive : Text := if found.isSome then "NoFileComp" else "Default"
  ⟨0, "Completion ended with directive: ShellCompDirective" ++ directive ++ "\n",
    s.tryPrint (values ++ ending)⟩

/-- Print the version for a flag that asks for it. A failure to print is told twice: where it
happens, and at the end. -/
def printVersion (build : Build) (s : Surroundings) : Exit :=
  match s.print (Command.program ++ " version " ++ build.describe ++ "\n") with
  | .ok after => succeed after
  | .error error => ⟨1, error.message ++ "\n" ++ error.message ++ "\n", s⟩

/-- What a command line asks for. -/
inductive Task where
  /-- Nothing that can be done. -/
  | refuse (failure : Failure)
  /-- The help of a command. -/
  | printHelp (command : Command)
  /-- The version. -/
  | printVersion
  /-- The work of a command, with the log and the arguments that are not flags. -/
  | perform (command : Command) (options : Options) (handler : Log.Handler) (inputs : List Text)

/-- What a command line asks of a command. Completions are asked for with the flags of another
command line, which are not read. -/
def taskOf (command : Command) (arguments : List Text) : Task :=
  let parsed :=
    if command = .complete then .ok (Options.default, arguments)
    else Flag.read command.flags arguments
  match parsed with
  | .error fault => .refuse (.badFlag fault)
  | .ok (options, inputs) =>
    if options.help then .printHelp command
    else if options.version then .printVersion
    else
      match command.checkArguments inputs, options.logHandler with
      | .error failure, _ => .refuse failure
      | .ok _, .error failure => .refuse failure
      | .ok _, .ok handler =>
        if command = .help then .printHelp (Command.select inputs).1
        else .perform command options handler inputs

/-- What a command line asks for. -/
def task (arguments : List Text) : Task :=
  let (command, arguments) := Command.select arguments
  taskOf command arguments

/-- Do the work of a command whose command line is in order. -/
def perform (build : Build) (s : Surroundings) (command : Command) (options : Options)
    (handler : Log.Handler) (inputs : List Text) (host : Host) : Exit :=
  match command with
  | .extract => ofAction handler s (extract options inputs host)
  | .schema =>
    match s.print (Json.print 2 DocumentSchema.comments.toJson ++ "\n") with
    | .ok after => succeed after
    | .error error => fail s [] (.unwritable error)
  | .version => succeed (s.tryPrint (build.describe ++ "\n"))
  | .help => succeed (s.tryPrint command.helpText)
  | .complete => complete s inputs

/-- Run the program. -/
def run (build : Build) (s : Surroundings) (arguments : List Text) (host : Host := {}) : Exit :=
  match task arguments with
  | .refuse failure => fail s [] failure
  | .printHelp command => succeed (s.tryPrint command.helpText)
  | .printVersion => printVersion build s
  | .perform command options handler inputs =>
    perform build s command options handler inputs host

end Program

end DocBlock
