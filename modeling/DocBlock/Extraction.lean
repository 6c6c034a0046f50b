import DocBlock.Event
import DocBlock.Files.Error
import DocBlock.Source

/-!
# Extraction

The documentation of a file is the list of its comments. A `@detail` tag refers to another file;
down to a given depth the reference is replaced by the comments of that file, extracted one level
less deep. A file without a closed comment gives one empty comment, so no list is empty.

`extract` reads a file and `ofSource` a text that is already there. Both report what they do, and
both fail exactly with the failure of the first file that cannot be read. That failure is wrapped
where the file is loaded, and the levels above pass it on as it is.
-/

namespace DocBlock

/-- How files are read: the text of a path, or a failure. -/
abbrev Loader (ε : Type) := Text → Except ε Text

/-- What stands in the place of a `@detail` tag's reference. -/
inductive Inclusion where
  /-- The path of a file that is not included. -/
  | reference (path : Text)
  /-- The comments of a file that is. -/
  | contents (path : Text) (comments : List (Comment Inclusion))

namespace Inclusion

/-- The path of the file referred to. -/
def path : Inclusion → Text
  | reference p | contents p _ => p

end Inclusion

namespace Extraction

/-- How an extraction goes on at a `@detail` tag: not at all, or with the comments of a file. -/
abbrev Next (ε : Type) := Option (Text → Traced ε (List (Comment Inclusion)))

/-- Follow a reference that the file `path` makes, if references are followed. -/
def follow {ε : Type} (next : Next ε) (path target : Text) : Traced ε Inclusion :=
  match next with
  | none => pure (.reference target)
  | some extract => do
    Traced.report (.including path target)
    return .contents target (← extract target)

/-- Report that a file with comments is done. -/
def finish {ε : Type} (path : Text) (comments : List (Comment Inclusion)) :
    Traced ε (List (Comment Inclusion)) :=
  match comments with
  | [] => pure [Comment.empty]
  | _ :: _ => do
    Traced.report (.scanned path comments.length)
    return comments

/-- The comments of a source text, with its references followed by `next`. -/
def readSource {ε : Type} (reading : Reading) (next : Next ε) (path t : Text) :
    Traced ε (List (Comment Inclusion)) := do
  finish path (← (Source.comments reading path t).mapM (Comment.traverse (follow next path)))

/-- The comments of a file, with its references followed by `next`. -/
def readFile {ε : Type} (load : Loader ε) (reading : Reading) (depth : Int)
    (next : Next (InputError ε)) (path : Text) :
    Traced (InputError ε) (List (Comment Inclusion)) := do
  Traced.report (.loading path depth)
  let t ← Traced.ofExcept ((load path).mapError fun error => .wrapped (.cause error))
  readSource reading next path t

/-- How references are followed for so many levels: each level reads the file with one level
less. A level is made only when a reference needs it, however many there are. -/
def levels {ε : Type} (load : Loader ε) (reading : Reading) : Nat → Next (InputError ε)
  | 0 => none
  | depth + 1 => some fun path => readFile load reading depth (levels load reading depth) path

/-- The comments of a source text of the file `path`, with inclusions down to `depth`. -/
def ofSource {ε : Type} (load : Loader ε) (reading : Reading) (depth : Int) (path t : Text) :
    Traced (InputError ε) (List (Comment Inclusion)) :=
  readSource reading (levels load reading depth.toNat) path t

/-- The comments of the file `path`, with inclusions down to `depth`. -/
def extract {ε : Type} (load : Loader ε) (reading : Reading) (depth : Int) (path : Text) :
    Traced (InputError ε) (List (Comment Inclusion)) :=
  readFile load reading depth (levels load reading depth.toNat) path

/-- One comment of the file `path`, read from its body, with inclusions down to `depth`. -/
def ofBody {ε : Type} (load : Loader ε) (reading : Reading) (depth : Int) (path body : Text) :
    Traced (InputError ε) (Comment Inclusion) :=
  (Comment.ofBody reading path body).traverse (follow (levels load reading depth.toNat) path)

/-- One tag of the file `path`, read from its line, with inclusions down to `depth`. -/
def ofTagText {ε : Type} (load : Loader ε) (reading : Reading) (depth : Int) (path line : Text) :
    Traced (InputError ε) (Tag Inclusion) :=
  (Tag.ofText reading.render path line).traverse
    (follow (levels load reading depth.toNat) path)

/-- The files that an extraction with so many levels of inclusion reads, in order, as far as they
can be read: the file itself, and then those that its `@detail` tags demand. -/
def demanded {ε : Type} (load : Loader ε) (reading : Reading) : Nat → Text → List Text
  | 0, path => [path]
  | depth + 1, path =>
    match load path with
    | .error _ => [path]
    | .ok t =>
      path :: ((Source.comments reading path t).flatMap Comment.details).flatMap
        (demanded load reading depth)

end Extraction

end DocBlock
