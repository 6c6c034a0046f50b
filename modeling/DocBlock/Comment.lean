import DocBlock.Declaration
import DocBlock.Tag

/-!
# Comments

A doc comment is a description and tags, with the code that follows it in the source and the
declaration that this code starts with. `Comment.ofBody` reads the body of a comment: the
description runs to the first line that starts with `@`, and tag lines follow to the end.
-/

namespace DocBlock

/-- The text of a comment before its tags. -/
structure Description where
  /-- The whole description. -/
  full : Text
  /-- The part up to the first blank line. -/
  summary : Text
  /-- The part after the first blank line. -/
  body : Text
  deriving DecidableEq, Repr

/-- A doc comment whose `@detail` tags hold a `Δ`. -/
structure Comment (Δ : Type) where
  /-- What the code after the comment declares. -/
  declaration : Option Declaration
  /-- The code after the comment. -/
  code : Text
  /-- The text before the tags. -/
  description : Description
  /-- The tags, in order. -/
  tags : List (Tag Δ)
  /-- Whether a tag marks what is documented as private. -/
  isPrivate : Bool
  /-- Whether the comment is a banner, opened by `/*!`, that documents nothing. -/
  isBanner : Bool
  deriving Repr

/-- How the text of a comment is read. -/
structure Reading where
  /-- Whether a tag runs to the next tag, and not only to the end of its line. -/
  multiLine : Bool
  /-- What becomes of a description. -/
  render : Text → Text

namespace Description

/-- A description split at its first blank line. -/
def ofText (full : Text) : Description :=
  { full, summary := Text.before "\n\n" full, body := Text.after "\n\n" full }

/-- Apply a function to the three parts. -/
def map (f : Text → Text) (d : Description) : Description := ⟨f d.full, f d.summary, f d.body⟩

end Description

namespace Comment

/-- The comment with nothing in it. -/
def empty {Δ : Type} : Comment Δ :=
  { declaration := none, code := [], description := ⟨[], [], []⟩, tags := [], isPrivate := false,
    isBanner := false }

/-- What the `@detail` tags hold, in order. -/
def details {Δ : Type} (c : Comment Δ) : List Δ := c.tags.filterMap Tag.detail?

/-- Replace the content of every `@detail` tag, in order. -/
def traverse {m : Type → Type} [Monad m] {Δ Γ : Type} (f : Δ → m Γ) (c : Comment Δ) :
    m (Comment Γ) := do
  let tags ← c.tags.mapM (Tag.traverse f)
  return { c with tags }

/-- The text of a body before its tags, and the text of its tags from the first `@` on. -/
def parts (body : Text) : Text × Option Text :=
  if body.head? == some '@' then ([], some body)
  else
    match Text.cut "\n@" body with
    | none => (body, none)
    | some (full, tags) => (full, some ('@' :: tags))

/-- The tag texts of a body: its lines, or its pieces between tags. Only the first piece between
tags keeps its `@`. -/
def tagTexts (multiLine : Bool) : Option Text → List Text
  | none => []
  | some tags => if multiLine then Text.splitOn "\n@" tags else Text.lines tags

/-- Read the body of a comment of the file `path`. -/
def ofBody (reading : Reading) (path body : Text) : Comment Text :=
  let (full, tagText) := parts (Text.trim body)
  let tags := (tagTexts reading.multiLine tagText).map (Tag.ofText reading.render path)
  { declaration := none
    code := []
    description := (Description.ofText full).map reading.render
    tags
    isPrivate := tags.any Tag.hides
    isBanner := false }

/-- Attach the code that follows a comment. Blank code leaves the comment as it is. -/
def attach {Δ : Type} (c : Comment Δ) (code : Text) : Comment Δ :=
  let code := Text.trim code
  if code.isEmpty then c else { c with code, declaration := Declaration.infer? code }

end Comment

end DocBlock
