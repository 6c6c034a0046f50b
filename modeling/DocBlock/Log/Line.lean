import DocBlock.Json.Basic
import DocBlock.Log.Record
import DocBlock.Text.Quoted

/-!
# Log lines

A log is written one record a line, as a JSON object or as `key=value` pairs. A handler has a
format and a least level: records below it are dropped.
-/

namespace DocBlock.Log

/-- How a record is written. -/
inductive Format where
  /-- A JSON object, with the place in the program that logged it. -/
  | json
  /-- Pairs of keys and values, with the place in the program that logged it. -/
  | logfmt
  /-- Pairs of keys and values, for a reader at a terminal. -/
  | text
  deriving DecidableEq, Repr

/-- A name that stands for no level or no format. -/
inductive NameError where
  /-- No level has that name. -/
  | level
  /-- No format has that name. -/
  | format
  deriving DecidableEq, Repr

/-- What is written, and how. -/
structure Handler where
  /-- The least severe level that is written. -/
  level : Level
  /-- How a record is written. -/
  format : Format
  deriving DecidableEq, Repr

/-- The message of a name error. -/
def NameError.message : NameError → Text
  | level => "unknown log level"
  | format => "unknown log format"

namespace Format

/-- All formats. -/
def all : List Format := [json, logfmt, text]

/-- The name of a format. -/
def name : Format → Text
  | json => "json"
  | logfmt => "logfmt"
  | text => "text"

/-- The format with exactly the given name. -/
def named? (t : Text) : Option Format := all.find? fun format => format.name == t

/-- The format with the given name in any case. -/
def parse? (t : Text) : Option Format := named? (Text.lowerCase t)

/-- Whether lines of this format tell where in the program they were logged. -/
def tellsSource : Format → Bool
  | json | logfmt => true
  | text => false

end Format

/-- Whether a character must be quoted in a pair: an ASCII space, equals sign, quotation mark or
control, or any other white space, unprintable character or stray byte. The replacement character
counts as a stray byte. -/
def forcesQuotes (c : Text) : Bool :=
  match Text.codePoint c with
  | none => true
  | some n =>
    if n < 0x80 then n ≤ 0x20 || n == 0x3D || n == 0x22
    else n == 0xFFFD || Text.isSpacePoint n || !Text.Printable.isPrintable n

/-- A key or a text value of a pair. -/
def pairText (t : Text) : Text :=
  if t.isEmpty || (Text.characters t).any forcesQuotes then Text.quoted t else t

/-- A value of a pair. -/
def Value.pairText : Value → Text
  | text t => Log.pairText t
  | number n => Text.ofInt n

/-- A value of a JSON field. -/
def Value.toJson : Value → Json
  | text t => .string t
  | number n => .number n

/-- The place in the program that a line names: none is kept. -/
def place : Text := "-"

/-- What stands before the attributes of a record: the time when it is known, the level, the place
and the message. -/
def headings (format : Format) (time : Option Text) (record : Record) : List (Text × Value) :=
  (time.map fun t => (("time" : Text), Value.text t)).toList
    ++ [(("level" : Text), Value.text record.level.word)]
    ++ (if format.tellsSource then [(("source" : Text), Value.text place)] else [])
    ++ [(("msg" : Text), Value.text record.message)]

namespace Record

/-- A record as a line. -/
def line (format : Format) (time : Option Text) (record : Record) : Text :=
  let pairs := headings format time record ++ record.attributes
  match format with
  | .json =>
    Json.printAt .log 0 0 (.object (pairs.map fun p => (p.1, p.2.toJson))) ++ "\n"
  | .logfmt | .text =>
    Text.join " " (pairs.map fun p => Log.pairText p.1 ++ "=" ++ p.2.pairText) ++ "\n"

end Record

namespace Handler

/-- The handler with a level and a format named in any case. The level is looked up first. -/
def ofNames (level format : Text) : Except NameError Handler :=
  match Level.parse? level, Format.parse? format with
  | none, _ => .error .level
  | some _, none => .error .format
  | some l, some f => .ok ⟨l, f⟩

/-- The handler with exactly the given names. An unknown level stands for information, and an
unknown format for text. -/
def ofExactNames (level format : Text) : Handler :=
  ⟨(Level.named? level).getD .info, (Format.named? format).getD .text⟩

/-- Whether a record is written. -/
def accepts (handler : Handler) (record : Record) : Bool :=
  handler.level.severity ≤ record.level.severity

/-- The line for a record, if it is written. -/
def line? (handler : Handler) (time : Option Text) (record : Record) : Option Text :=
  if handler.accepts record then some (record.line handler.format time) else none

/-- The lines for the records that are written. -/
def lines (handler : Handler) (time : Option Text) (records : List Record) : Text :=
  (records.filterMap (handler.line? time)).flatten

end Handler

end DocBlock.Log
