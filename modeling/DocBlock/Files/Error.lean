import DocBlock.Text.Basic

/-!
# File errors

What goes wrong with a file: what was done, to which path, and why it failed. An error reaches the
one who asked for the file as an `InputError`, which counts how often it was wrapped on the way.
-/

namespace DocBlock

/-- What is done to a file. -/
inductive FileAction where
  /-- Opening it, for reading or for writing. -/
  | opening
  /-- Reading it. -/
  | reading
  /-- Writing it. -/
  | writing
  /-- Asking whether it is there. -/
  | examining
  deriving DecidableEq, Repr

/-- Why an action on a file fails. -/
inductive FileCause where
  /-- A bundle has no file of that name. -/
  | notInBundle
  /-- The folder has no entry of that name. -/
  | noEntry
  /-- A file is used as a folder. -/
  | notFolder
  /-- A folder is used as a file. -/
  | isFolder
  /-- The path or the action makes no sense. -/
  | invalid
  /-- An element of the path is too long. -/
  | nameTooLong
  /-- The device is full. -/
  | noSpace
  deriving DecidableEq, Repr

/-- An action on a file that failed. -/
structure FileError where
  /-- What was done. -/
  action : FileAction
  /-- The path as it was given. -/
  path : Text
  /-- Why it failed. -/
  cause : FileCause
  deriving DecidableEq, Repr

/-- The word for an action. -/
def FileAction.word : FileAction → Text
  | opening => "open"
  | reading => "read"
  | writing => "write"
  | examining => "stat"

/-- The words for a cause. -/
def FileCause.words : FileCause → Text
  | notInBundle => "file does not exist"
  | noEntry => "no such file or directory"
  | notFolder => "not a directory"
  | isFolder => "is a directory"
  | invalid => "invalid argument"
  | nameTooLong => "file name too long"
  | noSpace => "no space left on device"

namespace FileError

/-- The message of a file error. -/
def message (e : FileError) : Text :=
  e.action.word ++ " " ++ e.path ++ ": " ++ e.cause.words

/-- Whether the error says that a file is missing. -/
def isMissing (e : FileError) : Bool := e.cause == .notInBundle || e.cause == .noEntry

end FileError

/-- An error of a loader, with what was put around it on its way up. -/
inductive InputError (ε : Type) where
  /-- What the loader says. -/
  | cause (error : ε)
  /-- An error that is told as one of reading the input. -/
  | wrapped (error : InputError ε)
  deriving DecidableEq, Repr

namespace InputError

/-- What the loader said. -/
def root {ε : Type} : InputError ε → ε
  | cause error => error
  | wrapped error => error.root

/-- The message of an error, given the messages of the loader. -/
def message {ε : Type} (text : ε → Text) : InputError ε → Text
  | cause error => text error
  | wrapped error => "read input: " ++ error.message text

end InputError

end DocBlock
