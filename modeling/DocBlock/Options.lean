import DocBlock.Failure
import DocBlock.Document
import DocBlock.Yaml.Basic

/-!
# Options

What a user can choose, the flags that choose it, and what the choices mean. Flags are read from
left to right; the last of several values for one option wins.
-/

namespace DocBlock

/-- The choices of a user. -/
structure Options where
  /-- Whether descriptions are kept as they are, and not rendered. -/
  raw : Bool
  /-- Whether a tag runs to the next tag. -/
  multiLine : Bool
  /-- How many levels of `@detail` are included. -/
  depth : Int
  /-- The output file; a hyphen or nothing for the standard output. -/
  output : Text
  /-- The name of the output format. -/
  format : Text
  /-- The spaces of JSON indentation; a negative number lets the output decide. -/
  indent : Int
  /-- Whether the inputs are extracted again when they change. -/
  watch : Bool
  /-- The name of the least log level. -/
  logLevel : Text
  /-- The name of the log format. -/
  logFormat : Text
  /-- Whether help is asked for. -/
  help : Bool
  /-- Whether the version is asked for. -/
  version : Bool
  deriving DecidableEq, Repr

/-- One of the options. -/
inductive Setting where
  /-- Keep descriptions as they are. -/
  | raw
  /-- Let tags run to the next tag. -/
  | multiLine
  /-- Levels of inclusion. -/
  | depth
  /-- Output file. -/
  | output
  /-- Output format. -/
  | format
  /-- JSON indentation. -/
  | indent
  /-- Extract again on changes. -/
  | watch
  /-- Least log level. -/
  | logLevel
  /-- Log format. -/
  | logFormat
  /-- Help. -/
  | help
  /-- Version. -/
  | version
  deriving DecidableEq, Repr

/-- The kind of value that an option takes. -/
inductive ValueKind where
  /-- A truth value, true when the flag has none. -/
  | truth
  /-- An integer. -/
  | integer
  /-- A text. -/
  | text
  deriving DecidableEq, Repr

/-- A flag on the command line. -/
structure Flag where
  /-- The option that it sets. -/
  setting : Setting
  /-- Its name, after two hyphens. -/
  name : Text
  /-- Its letter, after one hyphen. -/
  letter : Option UInt8
  /-- What it does. -/
  usage : Text
  deriving DecidableEq, Repr

/-- The names of those flags that a program can rename. -/
structure FlagNames where
  /-- The flag for unrendered descriptions. -/
  raw : Text := "raw"
  /-- The flag for the levels of inclusion. -/
  depth : Text := "depth"
  /-- The flag for the output format. -/
  format : Text := "format"
  /-- The flag for the least log level. -/
  logLevel : Text := "log-level"

/-- How a document is written. -/
inductive OutputFormat where
  /-- As JSON. -/
  | json
  /-- As YAML. -/
  | yaml
  deriving DecidableEq, Repr

/-- A way to write a document. -/
inductive Encoding where
  /-- As JSON with so many spaces for each level. -/
  | json (indent : Nat)
  /-- As YAML. -/
  | yaml
  deriving DecidableEq, Repr

namespace OutputFormat

/-- All formats. -/
def all : List OutputFormat := [json, yaml]

/-- The name of a format. -/
def name : OutputFormat → Text
  | json => "json"
  | yaml => "yaml"

/-- The format with the given name in any case. -/
def parse (t : Text) : Except Failure OutputFormat :=
  match all.find? fun format => format.name == Text.lowerCase t with
  | some format => .ok format
  | none => .error (.unknownFormat t)

end OutputFormat

namespace Encoding

/-- The encoding that a name stands for. Only JSON under its own name is indented; any unknown name
stands for JSON on one line. -/
def ofName (name : Text) (indent : Int) : Encoding :=
  if name = "yaml" then yaml
  else if name = "json" then json indent.toNat
  else json 0

/-- Write a document. JSON ends with a line feed. -/
def write (encoding : Encoding) (document : Json) : Text :=
  match encoding with
  | json indent => Json.print indent document ++ "\n"
  | yaml => Yaml.print document

/-- Write a document where YAML is made by `toYaml`, which can refuse a document. -/
def writeWith (toYaml : Json → Except Text Text) (encoding : Encoding) (document : Json) :
    Except Failure Text :=
  match encoding with
  | json _ => .ok (encoding.write document)
  | yaml => (toYaml document).mapError .unconvertible

end Encoding

namespace Setting

/-- The kind of value that a setting takes. -/
def kind : Setting → ValueKind
  | raw | multiLine | watch | help | version => .truth
  | depth | indent => .integer
  | output | format | logLevel | logFormat => .text

end Setting

namespace Options

/-- The options of a run without flags. -/
def default : Options :=
  { raw := false, multiLine := false, depth := 0, output := "-", format := "json", indent := -1,
    watch := false, logLevel := "warn", logFormat := "text", help := false, version := false }

/-- Set an option that takes a truth value. -/
def setTruth (o : Options) (setting : Setting) (b : Bool) : Options :=
  match setting with
  | .raw => { o with raw := b }
  | .multiLine => { o with multiLine := b }
  | .watch => { o with watch := b }
  | .help => { o with help := b }
  | .version => { o with version := b }
  | _ => o

/-- Set an option that takes an integer. -/
def setInteger (o : Options) (setting : Setting) (n : Int) : Options :=
  match setting with
  | .depth => { o with depth := n }
  | .indent => { o with indent := n }
  | _ => o

/-- Set an option that takes a text. -/
def setText (o : Options) (setting : Setting) (t : Text) : Options :=
  match setting with
  | .output => { o with output := t }
  | .format => { o with format := t }
  | .logLevel => { o with logLevel := t }
  | .logFormat => { o with logFormat := t }
  | _ => o

end Options

namespace Flag

/-- The flags of an extraction. -/
def extraction (names : FlagNames) : List Flag :=
  [⟨.raw, names.raw, none,
      "keep descriptions as plain text instead of rendering Markdown to HTML"⟩,
    ⟨.multiLine, "multi-line", none, "let tag descriptions continue until the next tag"⟩,
    ⟨.depth, names.depth, none, "levels of @detail includes to parse recursively"⟩,
    ⟨.output, "output", some 'o', "output file path (- for stdout)"⟩,
    ⟨.format, names.format, some 'f', "output format, one of: [json yaml]"⟩,
    ⟨.indent, "indent", none,
      "JSON indentation spaces (default 2 on a terminal, 0 otherwise)"⟩,
    ⟨.watch, "watch", some 'w', "extract again whenever an input file is written"⟩]

/-- The flags of the log. -/
def log (names : FlagNames) : List Flag :=
  [⟨.logLevel, names.logLevel, none, "log level, one of: [error warn info debug]"⟩,
    ⟨.logFormat, "log-format", none, "log format, one of: [json logfmt text]"⟩]

/-- How a message names a flag. -/
def label (flag : Flag) : Text :=
  match flag.letter with
  | some letter => "-" ++ [letter] ++ ", --" ++ flag.name
  | none => "--" ++ flag.name

/-- Whether a flag takes no value of its own. -/
def isSwitch (flag : Flag) : Bool := flag.setting.kind == .truth

/-- The flag with the given name. -/
def named? (flags : List Flag) (name : Text) : Option Flag := flags.find? fun f => f.name == name

/-- The flag with the given letter. -/
def lettered? (flags : List Flag) (letter : UInt8) : Option Flag :=
  flags.find? fun f => f.letter == some letter

/-- The truth value that a text stands for. -/
def truth? (t : Text) : Option Bool :=
  if (["1", "t", "T", "TRUE", "true", "True"] : List Text).contains t then some true
  else if (["0", "f", "F", "FALSE", "false", "False"] : List Text).contains t then some false
  else none

/-- Set the option of a flag from the text of its value. -/
def assign (flag : Flag) (value : Text) (o : Options) : Except FlagFault Options :=
  match flag.setting.kind with
  | .truth =>
    match truth? value with
    | some b => .ok (o.setTruth flag.setting b)
    | none => .error (.notTruth value flag.label)
  | .integer =>
    match Integer.read value with
    | .ok n => .ok (o.setInteger flag.setting n)
    | .error fault => .error (.notInteger value flag.label fault)
  | .text => .ok (o.setText flag.setting value)

/-- A command line as far as it has been read. -/
structure State where
  /-- The options so far. -/
  options : Options
  /-- The arguments that are not flags, the last first. -/
  inputs : List Text

/-- Read an argument that starts with two hyphens. What it leaves is the options and the arguments
after it. -/
def readLong (flags : List Flag) (argument : Text) (later : List Text) (o : Options) :
    Except FlagFault (Options × List Text) := do
  let body := argument.drop 2
  if body.head? == some '-' || body.head? == some '=' then throw (.malformed argument)
  let name := Text.before "=" body
  match named? flags name with
  | none => throw (if name = "help" then .helpRequested else .unknownName name)
  | some flag =>
    match Text.cut "=" body with
    | some (_, value) => return (← flag.assign value o, later)
    | none =>
      if flag.isSwitch then return (← flag.assign "true" o, later)
      match later with
      | value :: later => return (← flag.assign value o, later)
      | [] => throw (.valueMissing name)

/-- What starts a group of letters that is meant for a test runner. -/
def testMark : Text := "test."

/-- Read the letters after one hyphen. A letter that needs a value takes the rest of the group, or
else the next argument. Letters that are meant for a test runner are passed over. -/
def readLetters (flags : List Flag) :
    Text → List Text → Options → Except FlagFault (Options × List Text)
  | [], later, o => .ok (o, later)
  | letter :: rest, later, o =>
    if testMark.isPrefixOf (letter :: rest) then .ok (o, later)
    else
      match lettered? flags letter with
      | none =>
        .error (if letter = 'h' then .helpRequested else .unknownLetter letter (letter :: rest))
      | some flag =>
        if rest.head? == some '=' && 1 < rest.length then
          (flag.assign rest.tail o).map fun o => (o, later)
        else if flag.isSwitch then
          match flag.assign "true" o with
          | .ok o => readLetters flags rest later o
          | .error fault => .error fault
        else if !rest.isEmpty then (flag.assign rest o).map fun o => (o, later)
        else
          match later with
          | value :: later => (flag.assign value o).map fun o => (o, later)
          | [] => .error (.letterValueMissing letter [letter])

/-- Read a command line. The first argument bounds the number of arguments. -/
def readArguments (flags : List Flag) : Nat → List Text → State → Except FlagFault State
  | 0, _, s => .ok s
  | _, [], s => .ok s
  | fuel + 1, argument :: later, s =>
    match argument with
    | a :: b :: group => do
      if a != '-' then readArguments flags fuel later { s with inputs := argument :: s.inputs }
      else if b != '-' then
        let (options, later) ← readLetters flags (b :: group) later s.options
        readArguments flags fuel later { s with options }
      else if group.isEmpty then .ok { s with inputs := later.reverse ++ s.inputs }
      else
        let (options, later) ← readLong flags argument later s.options
        readArguments flags fuel later { s with options }
    | _ => readArguments flags fuel later { s with inputs := argument :: s.inputs }

/-- Read a command line: the options, and the arguments that are not flags. -/
def read (flags : List Flag) (arguments : List Text) : Except FlagFault (Options × List Text) :=
  (readArguments flags arguments.length arguments ⟨.default, []⟩).map fun s =>
    (s.options, s.inputs.reverse)

end Flag

namespace Options

/-- The spaces of indentation when a choice is left to the output: two at a terminal, none
elsewhere. -/
def resolveIndent (indent : Int) (terminal : Bool) : Int :=
  if 0 ≤ indent then indent else if terminal then 2 else 0

/-- Whether the output goes to the standard output. -/
def toStandardOutput (o : Options) : Bool := o.output.isEmpty || o.output == "-"

/-- The depth of inclusion, which a run does not accept when it is negative. -/
def checkedDepth (o : Options) (names : FlagNames) : Except Failure Int :=
  if o.depth < 0 then .error (.negativeDepth names.depth) else .ok o.depth

/-- How comments are read under these options, where descriptions are rendered by `render`. -/
def reading (o : Options) (render : Text → Text) : Reading :=
  { multiLine := o.multiLine, render := if o.raw then id else render }

/-- The log handler that the options name. -/
def logHandler (o : Options) : Except Failure Log.Handler :=
  (Log.Handler.ofNames o.logLevel o.logFormat).mapError .badLog

/-- How a document is written under these options. A terminal counts when the output goes there. -/
def encoding (o : Options) (isTerminal : Bool) : Except Failure Encoding := do
  match ← OutputFormat.parse o.format with
  | .json => return .json (resolveIndent o.indent (o.toStandardOutput && isTerminal)).toNat
  | .yaml => return .yaml

end Options

end DocBlock
