import DocBlock.Completion

/-!
# Commands

The commands of the program and how a command line selects one: the first argument that is neither
a flag nor the value of a flag names a command; a command line without such a name is an
extraction. Every command has a flag for help and the flags of the log.
-/

namespace DocBlock

/-- A command of the program. -/
inductive Command where
  /-- Extract files. -/
  | extract
  /-- Print the schema of documents. -/
  | schema
  /-- Print what is known of the build. -/
  | version
  /-- Print help. -/
  | help
  /-- Print completions for a shell. -/
  | complete
  deriving DecidableEq, Repr

namespace Command

/-- The name of the program. -/
def program : Text := "dox"

/-- The names that select a command. -/
def named? (name : Text) : Option Command :=
  if name = "schema" then some schema
  else if name = "version" then some version
  else if name = "help" then some help
  else if name = "__complete" then some complete
  else if name = "__completeNoDesc" then some complete
  else none

/-- The name of a command. -/
def name : Command → Text
  | extract => program
  | schema => "schema"
  | version => "version"
  | help => "help"
  | complete => "__complete"

/-- The words that a command is called by. -/
def path : Command → Text
  | extract => program
  | command => program ++ " " ++ command.name

/-- The flags that every command takes. -/
def globalFlags : List Flag := Flag.log {}

/-- The flag for help. -/
def helpFlag (command : Command) : Flag :=
  ⟨.help, "help", some 'h', "help for " ++ command.name⟩

/-- The flag for the version. -/
def versionFlag : Flag := ⟨.version, "version", some 'v', "version for " ++ program⟩

/-- The flags that only this command takes. -/
def localFlags (command : Command) : List Flag :=
  match command with
  | extract => Flag.extraction {} ++ [command.helpFlag, versionFlag]
  | _ => [command.helpFlag]

/-- All flags of a command. -/
def flags (command : Command) : List Flag := command.localFlags ++ globalFlags

/-- The flags that are known while the command is still to be found. -/
def searchFlags : List Flag := Flag.extraction {} ++ globalFlags

/-- Whether an argument is a flag whose value is the next argument. A flag that is not known counts
as one. -/
def takesNext (argument : Text) : Bool :=
  if Text.contains "=" argument then false
  else
    match ("--" : Text).isPrefixOf? argument with
    | some name => !(Flag.named? searchFlags name).any Flag.isSwitch
    | none =>
      match argument with
      | [a, letter] => a == '-' && !(Flag.lettered? searchFlags letter).any Flag.isSwitch
      | _ => false

/-- Whether an argument is written as a flag. -/
def isFlag (argument : Text) : Bool := argument.head? == some '-'

/-- The first argument that may name a command. A flag that takes the next argument ends the search
when it has no other after that. -/
def firstName? : List Text → Option Text
  | [] => none
  | argument :: rest =>
    if argument = "--" then none
    else if takesNext argument then
      match rest with
      | _ :: next :: later => firstName? (next :: later)
      | _ => none
    else if argument.isEmpty || isFlag argument then firstName? rest
    else some argument

/-- The arguments without the one that names the command. -/
def withoutName (name : Text) : List Text → List Text
  | [] => []
  | argument :: rest =>
    if argument = "--" then argument :: rest
    else if takesNext argument then
      match rest with
      | value :: later => argument :: value :: withoutName name later
      | [] => [argument]
    else if argument = name then rest
    else argument :: withoutName name rest

/-- The command that arguments select, and the arguments for it. -/
def select (arguments : List Text) : Command × List Text :=
  match firstName? arguments with
  | none => (extract, arguments)
  | some name =>
    match named? name with
    | some command => (command, withoutName name arguments)
    | none => (extract, arguments)

/-- Check the number of arguments that are not flags. -/
def checkArguments (command : Command) (arguments : List Text) : Except Failure Unit :=
  match command with
  | extract | complete => if arguments.isEmpty then .error (.tooFewArguments 1 0) else .ok ()
  | schema | version =>
    match arguments with
    | [] => .ok ()
    | argument :: _ => .error (.unknownCommand argument command.path)
  | help => .ok ()

end Command

end DocBlock
