import DocBlock.Markdown.Reference

/-!
# Inline content

What the text of a paragraph, a heading or a table cell is made of. Emphasis is not known while a
text is read: runs of delimiters wait until the text around them is complete. `Piece` is what the
reader produces, and `Emphasis.resolve` turns pieces into inline content.
-/

namespace DocBlock.Markdown

/-- A part of a text. -/
inductive Inline where
  /-- Text. -/
  | plain (t : Text)
  /-- A punctuation mark after a backslash: it is not part of the text around it. -/
  | escaped (b : UInt8)
  /-- Code. -/
  | code (t : Text)
  /-- Emphasis. -/
  | emphasis (inner : List Inline)
  /-- Strong emphasis. -/
  | strong (inner : List Inline)
  /-- Text that is struck through. -/
  | deleted (inner : List Inline)
  /-- A link. -/
  | link (target : Target) (inner : List Inline)
  /-- An image with its alternative text. -/
  | image (target : Target) (inner : List Inline)
  /-- HTML. -/
  | html (t : Text)
  /-- A line break in the source only. -/
  | softBreak
  /-- A line break in the output. -/
  | hardBreak
  /-- The box of a task. -/
  | task (checked : Bool)

namespace Inline

mutual

/-- Inline content with neighbouring plain texts made one. -/
def merge : Inline → Inline
  | emphasis inner => emphasis (mergeAll inner)
  | strong inner => strong (mergeAll inner)
  | deleted inner => deleted (mergeAll inner)
  | other => other

/-- A list of inline content with neighbouring plain texts made one. -/
def mergeAll : List Inline → List Inline
  | [] => []
  | x :: xs =>
    match merge x, mergeAll xs with
    | plain s, plain t :: rest => plain (s ++ t) :: rest
    | y, rest => y :: rest

end

end Inline

/-- A run of equal marks that can start or end emphasis. -/
structure Run where
  /-- The mark. -/
  mark : UInt8
  /-- How many marks there were. -/
  size : Nat
  /-- How many are left. -/
  left : Nat
  /-- Whether the run can start emphasis. -/
  opens : Bool
  /-- Whether the run can end emphasis. -/
  closes : Bool
  deriving DecidableEq, Repr

/-- What a reader of inline content produces. -/
inductive Piece where
  /-- A byte of text. -/
  | byte (b : UInt8)
  /-- Content that is complete. -/
  | done (content : Inline)
  /-- A run of marks. -/
  | run (run : Run)
  /-- A bracket that may start a link or an image, with the source after it. A link inside another
  link is none, so a bracket around a link is spent. -/
  | bracket (image spent : Bool) (after : Text)

namespace Run

/-- The marks that are left, as text. -/
def text (r : Run) : Text := List.replicate r.left r.mark

/-- Whether two runs of one mark can enclose emphasis. Where one of two runs of stars or underscores
can both start and end emphasis, their sizes may not add up to a multiple of three unless both are
one. Runs of tildes must be equally long. -/
def fits (start close : Run) : Bool :=
  start.mark == close.mark && start.opens
    && (if start.mark = '~' then start.left == close.left
      else !((start.closes || close.opens) && (start.size + close.size) % 3 == 0
        && (start.size % 3 != 0 || close.size % 3 != 0)))

/-- How many marks of each run a pair of runs uses up. -/
def width (start close : Run) : Nat := if 2 ≤ start.left && 2 ≤ close.left then 2 else 1

/-- Emphasis between two runs. -/
def enclose (start close : Run) (inner : List Inline) : Inline :=
  if start.mark = '~' then .deleted inner
  else if start.width close = 2 then .strong inner
  else .emphasis inner

end Run

namespace Piece

/-- The content of a piece that takes part in nothing more. -/
def content : Piece → Inline
  | byte b => .plain [b]
  | done c => c
  | run r => .plain r.text
  | bracket image _ _ => .plain (if image then "![" else "[")

end Piece

namespace Emphasis

/-- What has been read of a text, from its end: the pieces after the last run that fits, that run,
and what stands before it. -/
def findStart? (close : Run) : List Piece → Option (List Piece × Run × List Piece)
  | [] => none
  | .run r :: before =>
    if r.fits close then some ([], r, before)
    else (findStart? close before).map fun (inner, start, before) => (.run r :: inner, start, before)
  | piece :: before =>
    (findStart? close before).map fun (inner, start, before) => (piece :: inner, start, before)

/-- What is left of a run that has given marks. -/
def remainder (r : Run) (used : Nat) : List Piece :=
  if r.left ≤ used then [] else [.run { r with left := r.left - used }]

/-- Let a run end emphasis as often as it can. The pieces before it come last first. The first
argument bounds the number of pairs. -/
def close : Nat → Run → List Piece → Run × List Piece
  | 0, r, before => (r, before)
  | bound + 1, r, before =>
    if r.left = 0 then (r, before)
    else
      match findStart? r before with
      | none => (r, before)
      | some (inner, start, outer) =>
        let used := start.width r
        let enclosed := start.enclose r (inner.reverse.map Piece.content)
        close bound { r with left := r.left - used }
          (.done enclosed :: (remainder start used ++ outer))

/-- Add a piece to those before it, which come last first. -/
def push (before : List Piece) (piece : Piece) : List Piece :=
  match piece with
  | .run r =>
    let (r, before) := if r.closes then close r.left r before else (r, before)
    if r.left = 0 then before
    else if r.opens then .run r :: before
    else .done (.plain r.text) :: before
  | piece => piece :: before

/-- The content of pieces, with emphasis between the runs that match. -/
def resolve (pieces : List Piece) : List Inline :=
  ((pieces.foldl push []).map Piece.content).reverse

end Emphasis

end DocBlock.Markdown
