import DocBlock.Command.Basic

/-!
# Help

The help of a command: what it does, how it is called, its flags and those of every command. Flags
are listed by name, with their descriptions in one column.
-/

namespace DocBlock

namespace ValueKind

/-- How help names the value of a flag. -/
def placeholder : ValueKind → Text
  | truth => []
  | integer => " int"
  | text => " string"

end ValueKind

namespace Setting

/-- How help shows the default value of a setting; a truth value, a zero and an empty text are not
shown. -/
def defaultNote (setting : Setting) : Text :=
  let o := Options.default
  let number (n : Int) : Text := if n = 0 then [] else " (default " ++ Text.ofInt n ++ ")"
  let text (t : Text) : Text := if t.isEmpty then [] else " (default " ++ Text.quoted t ++ ")"
  match setting with
  | depth => number o.depth
  | indent => number o.indent
  | output => text o.output
  | format => text o.format
  | logLevel => text o.logLevel
  | logFormat => text o.logFormat
  | raw | multiLine | watch | help | version => []

end Setting

namespace Flag

/-- How help shows a flag and its value. -/
def heading (flag : Flag) : Text :=
  let letter : Text :=
    match flag.letter with
    | some letter => "  -" ++ [letter] ++ ", "
    | none => "      "
  letter ++ "--" ++ flag.name ++ flag.setting.kind.placeholder

/-- The lines of help for flags, sorted by name. -/
def usages (flags : List Flag) : Text :=
  let width := (flags.map fun f => f.heading.length).foldl max 0
  let sorted := flags.mergeSort fun f g => Text.precedes f.name g.name
  sorted.flatMap fun f =>
    f.heading ++ Text.spaces (width - f.heading.length + 3) ++ f.usage
      ++ f.setting.defaultNote ++ "\n"

end Flag

namespace Command

/-- What a command does, in a line. -/
def short : Command → Text
  | extract => "Extract documentation comments from JavaScript files"
  | schema => "Print the JSON Schema of the output"
  | version => "Print build information"
  | help => "Help about any command"
  | complete => "Request shell completion choices for the specified command-line"

/-- What a command does, at the top of its help. -/
def long : Command → Text
  | extract =>
    "dox extracts block comments from JavaScript source, splits them into a\n"
      ++ "description and @tags, and infers the declaration that follows each comment.\n\n"
      ++ "With one input the comments are printed as an array; with several, as an\n"
      ++ "object keyed by file path. Glob patterns such as \"lib/**/*.js\" are expanded."
  | help =>
    "Help provides help for any command in the application.\n"
      ++ "Simply type dox help [path to command] for full details."
  | command => command.short

/-- How a command is called. -/
def useLine : Command → Text
  | extract => "dox [flags] <file|glob> [file|glob ...]"
  | help => "dox help [command] [flags]"
  | command => command.path ++ " [flags]"

/-- The commands that help lists, with what they do. -/
def listed : List (Text × Text) :=
  [("completion", "Generate the autocompletion script for the specified shell"),
    (help.name, help.short), (schema.name, schema.short), (version.name, version.short)]

/-- The lines of help for the commands. -/
def listing : Text :=
  let width := (listed.map fun c => c.1.length).foldl max 0
  listed.flatMap fun c =>
    ("  " : Text) ++ c.1 ++ Text.spaces (width - c.1.length + 2) ++ c.2 ++ "\n"

/-- The help of a command. -/
def helpText (command : Command) : Text :=
  let called := command.long ++ "\n\nUsage:\n  " ++ command.useLine ++ "\n"
  match command with
  | extract =>
    called ++ "  " ++ program ++ " [command]\n\nAvailable Commands:\n" ++ listing
      ++ "\nFlags:\n" ++ Flag.usages command.flags
      ++ "\nUse \"" ++ program ++ " [command] --help\" for more information about a command.\n"
  | _ =>
    called ++ "\nFlags:\n" ++ Flag.usages command.localFlags
      ++ "\nGlobal Flags:\n" ++ Flag.usages globalFlags

end Command

end DocBlock
