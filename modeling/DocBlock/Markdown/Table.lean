import DocBlock.Markdown.Line

/-!
# Tables

A table is a row of headings, a row of delimiters with as many cells, and more rows. A pipe after a
backslash does not divide cells.
-/

namespace DocBlock.Markdown

/-- How the cells of a column are aligned. -/
inductive Alignment where
  /-- As the reader likes. -/
  | none
  /-- To the left. -/
  | left
  /-- To both sides. -/
  | center
  /-- To the right. -/
  | right
  deriving DecidableEq, Repr

/-- A table: the alignments and headings of its columns, and its rows. -/
structure Table where
  /-- The alignments. -/
  alignments : List Alignment
  /-- The headings. -/
  header : List Text
  /-- The rows, each as wide as the header. -/
  rows : List (List Text)
  deriving DecidableEq, Repr

namespace Table

/-- Whether a byte is a space in a table. -/
def isPadding (b : UInt8) : Bool := Byte.isBlank b || b == 0x0B || b == 0x0C

/-- A text without the spaces at both ends. -/
def trimPadding (t : Text) : Text := Text.trimWhere isPadding t

/-- A row without the pipes at both ends. -/
def trimPipes (row : Text) : Text :=
  let bare := trimPadding row
  let bare := (("|" : Text).isPrefixOf? bare).getD bare
  if bare.getLast? == some '|' then bare.dropLast else bare

/-- The cells between the pipes of a row, where a backslash protects a pipe. -/
def splitCells : Text → List Text
  | [] => [[]]
  | [b] => if b = '|' then [[], []] else [[b]]
  | b :: c :: t =>
    if b = Byte.backslash && c = '|' then Text.consFirst c (splitCells t)
    else if b = '|' then [] :: splitCells (c :: t)
    else Text.consFirst b (splitCells (c :: t))

/-- The cells of a row. -/
def cells (row : Text) : List Text := (splitCells (trimPipes row)).map trimPadding

/-- The cells of a row in a table of the given width: missing ones are empty, and more are
dropped. -/
def cellsOfWidth (width : Nat) (row : Text) : List Text :=
  (cells row ++ List.replicate width []).take width

/-- The alignment that a cell of the row of delimiters gives: hyphens, with a colon on the sides of
the alignment. -/
def alignment? (cell : Text) : Option Alignment :=
  let left := (":" : Text).isPrefixOf cell
  let afterLeft := if left then cell.tail else cell
  let right := afterLeft.getLast? == some ':'
  let hyphens := if right then afterLeft.dropLast else afterLeft
  if hyphens.isEmpty || !hyphens.all (· == ('-' : UInt8)) then none
  else some (if left && right then .center else if left then .left
    else if right then .right else .none)

/-- The alignments that a row of delimiters gives. -/
def alignments? (row : Text) : Option (List Alignment) :=
  (Text.splitWhere (· == '|') (trimPipes row)).mapM fun cell => alignment? (trimPadding cell)

/-- Whether two lines start a table: the second is a row of delimiters as wide as the first. A pipe
alone is no row. -/
def isStart (header delimiters : Text) : Bool :=
  trimPadding header != "|"
    && (alignments? delimiters).any fun as => as.length == (cells header).length

/-- The table with the given lines. -/
def ofLines (header delimiters : Text) (rows : List Text) : Table :=
  let header := cells header
  { alignments := (alignments? delimiters).getD [], header
    rows := rows.map (cellsOfWidth header.length) }

end Table

end DocBlock.Markdown
