import DocBlock.Options

/-!
# Completions

The values that a shell offers for a flag. A flag whose values are not listed, such as a number,
can be completed as well: nothing is offered, not even file names.
-/

namespace DocBlock.Completion

/-- The settings whose flags have completions, in the order in which they are registered. -/
def settings : List Setting := [.logLevel, .logFormat, .format, .depth, .indent]

/-- The values that are offered for a setting. -/
def values : Setting → List Text
  | .logLevel => Log.Level.all.map Log.Level.name
  | .logFormat => Log.Format.all.map Log.Format.name
  | .format => OutputFormat.all.map OutputFormat.name
  | _ => []

/-- The name that a flag for a setting has by default. -/
def defaultName (setting : Setting) : Text :=
  match (Flag.extraction {} ++ Flag.log {}).find? fun f => f.setting == setting with
  | some flag => flag.name
  | none => []

/-- Register completions with the flags of a command: each setting needs a flag. -/
def register (flags : List Flag) : Except Failure Unit :=
  settings.forM fun setting =>
    if flags.any fun f => f.setting == setting then .ok ()
    else .error (.noSuchFlag (defaultName setting))

/-- The values that are offered for the flag with a name, if it has completions. -/
def find? (flags : List Flag) (name : Text) : Option (List Text) := do
  let flag ← Flag.named? flags name
  if settings.contains flag.setting then some (values flag.setting) else none

end DocBlock.Completion
