import DocBlock.Text.Basic

/-!
# Versions

What a build says about itself: its version, the revision it was built from and the toolchain, and
the date when it is known.
-/

namespace DocBlock

/-- What is known of a build. -/
structure Build where
  /-- The release, empty for a development build. -/
  version : Text
  /-- The revision of the sources. -/
  revision : Text
  /-- The toolchain. -/
  toolchain : Text
  /-- The date, empty when it is not known. -/
  date : Text
  deriving DecidableEq, Repr

namespace Build

/-- The line that describes a build. -/
def describe (b : Build) : Text :=
  let version : Text := if b.version.isEmpty then "devel" else b.version
  let date : Text := if b.date.isEmpty then [] else " built " ++ b.date
  "dox " ++ version ++ " (revision " ++ b.revision ++ ", " ++ b.toolchain ++ ")" ++ date

/-- The value of the last setting with the given name. -/
def lastSetting? (name : Text) (settings : List (Text × Text)) : Option Text :=
  (settings.reverse.find? fun s => s.1 == name).map Prod.snd

/-- The revision that the settings of a build record, marked when the sources had been changed.
Without settings it is unknown. -/
def revisionOf (settings : Option (List (Text × Text))) : Text :=
  match settings with
  | none => "unknown"
  | some settings =>
    let revision := (lastSetting? "vcs.revision" settings).getD "unknown"
    if lastSetting? "vcs.modified" settings = some "true" then revision ++ "-dirty" else revision

end Build

end DocBlock
