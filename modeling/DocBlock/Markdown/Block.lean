import DocBlock.Markdown.Html
import DocBlock.Markdown.Reference
import DocBlock.Markdown.Table

/-!
# Blocks

The block structure of a Markdown text. A block that is still open is a `Frame`; `Frame.close` turns
it into a block when no more lines can belong to it. Closed blocks keep the numbers of their first
and last lines, because a list is loose exactly when a blank line separates two of its items or two
blocks of one item.
-/

namespace DocBlock.Markdown

/-- A block of a Markdown text. The texts in it are not read yet: the labels that they use may be
defined later. -/
inductive Block where
  /-- A paragraph that held nothing but definitions. -/
  | empty
  /-- A paragraph. -/
  | paragraph (text : Text)
  /-- A heading. -/
  | heading (level : Nat) (text : Text)
  /-- A line across the page. -/
  | rule
  /-- Code, with the words after the opening fence if there was one. -/
  | code (info : Text) (lines : List Text)
  /-- HTML. -/
  | html (lines : List Text)
  /-- A table. -/
  | table (table : Table)
  /-- A quotation. -/
  | quote (blocks : List Block)
  /-- An item of a list. -/
  | item (blocks : List Block)
  /-- A list, with the number of its first item if it is ordered. -/
  | list (start : Option Nat) (loose : Bool) (items : List Block)

/-- A closed block and its lines. -/
structure Placed where
  /-- The block. -/
  block : Block
  /-- The number of its first line. -/
  first : Nat
  /-- The number of its last line. -/
  last : Nat
  /-- Whether a blank line separates two blocks directly in it. -/
  isSpread : Bool

namespace Placed

/-- Whether a blank line separates two neighbours. -/
def hasGap : List Placed → Bool
  | a :: b :: rest => a.last + 1 < b.first || hasGap (b :: rest)
  | _ => false

end Placed

/-- What kind of block is open, and what has been read of it. Lines come last first. -/
inductive Opening where
  /-- The whole text. -/
  | document
  /-- A quotation. -/
  | quote
  /-- A list with its mark and the number of its first item. -/
  | list (mark : UInt8) (start : Nat)
  /-- An item whose content starts at a column; an item may start with a blank line. -/
  | item (column : Nat) (hasContent : Bool)
  /-- A paragraph. -/
  | paragraph (lines : List Text)
  /-- A table. -/
  | table (header delimiters : Text) (rows : List Text)
  /-- Code between fences, with the indentation of the opening fence. -/
  | fence (mark : UInt8) (size indent : Nat) (info : Text) (lines : List Text)
  /-- Indented code. -/
  | code (lines : List Text)
  /-- HTML. -/
  | html (ending : Html.Ending) (lines : List Text)
  deriving DecidableEq, Repr

/-- An open block. -/
structure Frame where
  /-- What has been read of it. -/
  opening : Opening
  /-- The closed blocks directly in it, the last first. -/
  children : List Placed
  /-- The number of its first line. -/
  first : Nat
  /-- The number of its last line so far. -/
  last : Nat

namespace Frame

/-- A block that opens on the given line. -/
def ofLine (number : Nat) (opening : Opening) : Frame := ⟨opening, [], number, number⟩

/-- Put a closed block into an open one. -/
def add (f : Frame) (p : Placed) : Frame := { f with children := p :: f.children }

/-- The closed blocks in an open one, in order. -/
def placed (f : Frame) : List Placed := f.children.reverse

/-- The closed blocks in an open one without their lines, in order. -/
def blocks (f : Frame) : List Block := f.placed.map Placed.block

/-- The block with the lines of its frame. -/
def place (f : Frame) (block : Block) : Placed := ⟨block, f.first, f.last, false⟩

/-- Whether a list with the given mark is ordered. -/
def isOrderMark (mark : UInt8) : Bool := mark == '.' || mark == ')'

/-- Close a list: it is loose when a blank line separates its items or blocks in one of them. -/
def closeList (f : Frame) (mark : UInt8) (start : Nat) : Placed :=
  let items := f.placed
  let loose := Placed.hasGap items || items.any Placed.isSpread
  let block := Block.list (if isOrderMark mark then some start else none) loose f.blocks
  ⟨block, f.first, (f.children.head?.map Placed.last).getD f.last, false⟩

/-- Close a paragraph: definitions at its start are recorded and taken away. -/
def closeParagraph (f : Frame) (references : References) (lines : List Text) :
    References × Placed :=
  let text := Text.join "\n" lines.reverse
  let (references, rest) := references.takeDefinitions text.length text
  if rest.isEmpty then (references, f.place .empty)
  else (references, { f.place (.paragraph rest) with last := f.first + lines.length - 1 })

/-- Close a table: its first line is the header, before the line that its frame starts with. -/
def closeTable (f : Frame) (table : Table) : Placed :=
  { f.place (.table table) with first := f.first - 1, last := f.first + table.rows.length }

/-- Code lines, given last first, without the blank lines at their end. -/
def codeLines (lines : List Text) : List Text :=
  (lines.dropWhile fun l => l.all Byte.isBlank).reverse

/-- Close a block. -/
def close (references : References) (f : Frame) : References × Placed :=
  match f.opening with
  | .document | .quote => (references, f.place (.quote f.blocks))
  | .list mark start => (references, f.closeList mark start)
  | .item _ _ =>
    (references, { f.place (.item f.blocks) with isSpread := Placed.hasGap f.placed })
  | .paragraph lines => f.closeParagraph references lines
  | .table header delimiters rows =>
    (references, f.closeTable (Table.ofLines header delimiters rows.reverse))
  | .fence _ _ _ info lines => (references, f.place (.code info lines.reverse))
  | .code lines => (references, f.place (.code [] (codeLines lines)))
  | .html _ lines => (references, f.place (.html lines.reverse))

/-- Close nested blocks, given from the outermost to the innermost. -/
def closeAll (references : References) : List Frame → References × Option Placed
  | [] => (references, none)
  | f :: inner =>
    let (references, child) := closeAll references inner
    let (references, placed) := (child.elim f f.add).close references
    (references, some placed)

end Frame

end DocBlock.Markdown
