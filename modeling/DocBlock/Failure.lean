import DocBlock.Files.Error
import DocBlock.Log.Line
import DocBlock.Text.Integer

/-!
# Failures

What can end a run, and the message for each. Messages of one family start with the same words: an
input that cannot be read, an option that makes no sense, an output that cannot be written.
-/

namespace DocBlock

/-- What is wrong with a flag on the command line. -/
inductive FlagFault where
  /-- The argument is not written as a flag. -/
  | malformed (argument : Text)
  /-- No flag has that name. -/
  | unknownName (name : Text)
  /-- No flag has that letter; the group is the argument from the letter on. -/
  | unknownLetter (letter : UInt8) (group : Text)
  /-- The flag is last and needs a value. -/
  | valueMissing (name : Text)
  /-- The flag is the last of its group and needs a value. -/
  | letterValueMissing (letter : UInt8) (group : Text)
  /-- The value of the flag does not read as a truth value. -/
  | notTruth (value label : Text)
  /-- The value of the flag does not read as an integer. -/
  | notInteger (value label : Text) (fault : Integer.Fault)
  /-- Help is asked for where no flag gives it. -/
  | helpRequested
  deriving DecidableEq, Repr

/-- What can end a run. -/
inductive Failure where
  /-- A source file cannot be read. -/
  | unreadable (error : InputError FileError)
  /-- No file matches a pattern. -/
  | noMatch (pattern : Text)
  /-- A file to be watched is not there. -/
  | unwatchable (path : Text) (error : FileError)
  /-- A pattern is not well formed. -/
  | badPattern (pattern : Text)
  /-- No output format has that name. -/
  | unknownFormat (name : Text)
  /-- The depth of inclusion, given by the named flag, is negative. -/
  | negativeDepth (flag : Text)
  /-- The output cannot be written. -/
  | unwritable (error : FileError)
  /-- The document cannot be converted into the format of the output. -/
  | unconvertible (message : Text)
  /-- No log level or log format has the given name. -/
  | badLog (error : Log.NameError)
  /-- A flag is wrong. -/
  | badFlag (fault : FlagFault)
  /-- There are fewer arguments than needed. -/
  | tooFewArguments (needed given : Nat)
  /-- A command without arguments is given one. -/
  | unknownCommand (name parent : Text)
  /-- Completions are registered for a flag that is not there. -/
  | noSuchFlag (name : Text)
  deriving DecidableEq, Repr

/-- The message of a flag fault. -/
def FlagFault.message : FlagFault → Text
  | malformed argument => "bad flag syntax: " ++ argument
  | unknownName name => "unknown flag: --" ++ name
  | unknownLetter letter group =>
    "unknown shorthand flag: " ++ Text.quotedByte letter ++ " in -" ++ group
  | valueMissing name => "flag needs an argument: --" ++ name
  | letterValueMissing letter group =>
    "flag needs an argument: " ++ Text.quotedByte letter ++ " in -" ++ group
  | notTruth value label =>
    "invalid argument " ++ Text.quoted value ++ " for " ++ Text.quoted label
      ++ " flag: strconv.ParseBool: parsing " ++ Text.quoted value ++ ": invalid syntax"
  | notInteger value label fault =>
    "invalid argument " ++ Text.quoted value ++ " for " ++ Text.quoted label
      ++ " flag: strconv.ParseInt: parsing " ++ Text.quoted value ++ ": " ++ fault.words
  | helpRequested => "pflag: help requested"

namespace Failure

/-- The message of a failure. -/
def message : Failure → Text
  | unreadable error => error.message FileError.message
  | noMatch pattern => "read input: no files match " ++ Text.quoted pattern
  | unwatchable path error => "read input: watching " ++ path ++ ": " ++ error.message
  | badPattern pattern =>
    "invalid option: pattern " ++ Text.quoted pattern ++ ": syntax error in pattern"
  | unknownFormat name => "invalid option: unknown format " ++ Text.quoted name
  | negativeDepth flag => "invalid option: " ++ flag ++ " must not be negative"
  | unwritable error => "write output: " ++ error.message
  | unconvertible message => "write output: " ++ message
  | badLog error => "invalid argument: " ++ error.message
  | badFlag fault => fault.message
  | tooFewArguments needed given =>
    "requires at least " ++ Text.ofNat needed ++ " arg(s), only received " ++ Text.ofNat given
  | unknownCommand name parent =>
    "unknown command " ++ Text.quoted name ++ " for " ++ Text.quoted parent
  | noSuchFlag name =>
    "registering " ++ name ++ " completion: RegisterFlagCompletionFunc: flag '" ++ name
      ++ "' does not exist"

/-- Whether a failure comes from a file that is missing. -/
def isMissingFile : Failure → Bool
  | unreadable error => error.root.isMissing
  | unwatchable _ error | unwritable error => error.isMissing
  | _ => false

end Failure

end DocBlock
