import DocBlock.Extraction
import DocBlock.Files.Error

/-!
# Bundles

A bundle holds named texts. Names are local paths; the folders are those that the names imply. A
file can be read by its exact name only: a path that is not local names nothing.
-/

namespace DocBlock

/-- Named texts. -/
structure Bundle where
  /-- The names and the texts. -/
  files : List (Text × Text)

namespace Bundle

/-- The text with the given name. -/
def get? (bundle : Bundle) (name : Text) : Option Text :=
  (bundle.files.find? fun f => f.1 == name).map Prod.snd

/-- Whether the name of a folder is implied by the files. -/
def hasFolder (bundle : Bundle) (name : Text) : Bool :=
  name == "." || bundle.files.any fun f => (name ++ "/").isPrefixOf f.1

/-- Remove the text with the given name, if it is there. -/
def remove (bundle : Bundle) (name : Text) : Bundle :=
  ⟨bundle.files.filter fun f => f.1 != name⟩

/-- Give a name a text, in place of the text it had. -/
def write (bundle : Bundle) (name text : Text) : Bundle :=
  ⟨(bundle.remove name).files ++ [(name, text)]⟩

/-- Read a text by its name. -/
def load (bundle : Bundle) : Loader FileError := fun path =>
  if Path.isLocal path then
    match bundle.get? path with
    | some text => .ok text
    | none =>
      if bundle.hasFolder path then .error ⟨.reading, path, .invalid⟩
      else .error ⟨.opening, path, .notInBundle⟩
  else .error ⟨.opening, path, .notInBundle⟩

end Bundle

end DocBlock
