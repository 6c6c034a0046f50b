import DocBlock.Event
import DocBlock.Text.Fold

/-!
# Log records

A log record has a level, a message and attributes. Levels are named in any case, and a warning
has a second name. `Event.record` says how the events of an extraction are logged.
-/

namespace DocBlock.Log

/-- How severe a record is. -/
inductive Level where
  /-- Something failed. -/
  | error
  /-- Something may be wrong. -/
  | warn
  /-- Something that a user may want to know. -/
  | info
  /-- A step of the work. -/
  | debug
  deriving DecidableEq, Repr

/-- A value of an attribute. -/
inductive Value where
  /-- A text. -/
  | text (t : Text)
  /-- A whole number. -/
  | number (n : Int)
  deriving DecidableEq, Repr

/-- A log record. -/
structure Record where
  /-- How severe it is. -/
  level : Level
  /-- What happened. -/
  message : Text
  /-- Named values, in order. -/
  attributes : List (Text × Value)
  deriving DecidableEq, Repr

namespace Level

/-- All levels, the most severe first. -/
def all : List Level := [error, warn, info, debug]

/-- The name of a level. -/
def name : Level → Text
  | error => "error"
  | warn => "warn"
  | info => "info"
  | debug => "debug"

/-- The word for a level in a log line. -/
def word : Level → Text
  | error => "ERROR"
  | warn => "WARN"
  | info => "INFO"
  | debug => "DEBUG"

/-- A number that grows with severity. -/
def severity : Level → Nat
  | error => 3
  | warn => 2
  | info => 1
  | debug => 0

/-- The level with exactly the given name. -/
def named? (t : Text) : Option Level := all.find? fun level => level.name == t

/-- The level with the given name in any case. -/
def parse? (t : Text) : Option Level :=
  let lower := Text.lowerCase t
  if lower = "warning" then some warn else named? lower

end Level

end DocBlock.Log

namespace DocBlock

/-- How an event is logged. -/
def Event.record : Event → Log.Record
  | .loading path depth =>
    ⟨.debug, "loading source", [("path", .text path), ("depth", .number depth)]⟩
  | .including source target =>
    ⟨.debug, "including detail", [("from", .text source), ("path", .text target)]⟩
  | .scanned path count =>
    ⟨.debug, "scanned comments", [("path", .text path), ("count", .number count)]⟩
  | .watching files => ⟨.info, "watching for changes", [("files", .number files)]⟩
  | .sourceChanged path => ⟨.debug, "source changed", [("path", .text path)]⟩
  | .extractFailed path message =>
    ⟨.error, "extract", [("path", .text path), ("error", .text message)]⟩
  | .watchFaulted message => ⟨.warn, "watch", [("error", .text message)]⟩

end DocBlock
