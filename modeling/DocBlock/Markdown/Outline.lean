import DocBlock.Markdown.Block

/-!
# Reading blocks

A text is read line by line. A line first follows the open blocks from the outermost inwards, as far
as it belongs to them; what is left of it may then open new blocks, end a paragraph as its underline,
or add to a paragraph. Text without the marks of the blocks around a paragraph still continues it.

Main definition: `Outline.ofText`, the blocks of a text and the labels that it defines.
-/

namespace DocBlock.Markdown

/-! ## Marks that open a block -/

namespace Mark

/-- What follows the mark of a quotation. -/
def quote? (line : Line) : Option Line :=
  let l := line.unindented
  if l.next? == some '>' then some ((l.drop 1).takeUpTo 1).2 else none

/-- A heading on a line of its own. Number signs at its end are not part of it. -/
def heading? (line : Line) : Option Block :=
  let l := line.unindented
  let signs := l.rest.takeWhile (· == ('#' : UInt8))
  let afterSigns := (l.drop signs.length).takeSpace? true
  if l.spaces ≠ 0 || signs.isEmpty || 6 < signs.length then none
  else
    afterSigns.map fun l =>
      let text := trimBlanks l.text
      let bare := Text.dropWhileRight (· == ('#' : UInt8)) text
      .heading signs.length (if bare.getLast?.all Byte.isBlank then bare else text)

/-- The level of the heading that a line underlines. -/
def underline? (line : Line) : Option Nat :=
  let l := line.unindented
  let isOnly (b : UInt8) : Bool := (l.text.dropWhile (· == b)).all Byte.isBlank
  if l.next? == some '=' && isOnly '=' then some 1
  else if l.next? == some '-' && isOnly '-' then some 2
  else none

/-- Whether a line is a rule: three or more equal marks, and blanks. -/
def isRule (line : Line) : Bool :=
  let l := line.unindented
  match l.next? with
  | none => false
  | some b =>
    (b == '-' || b == '_' || b == '*') && 3 ≤ (l.text.filter (· == b)).length
      && l.text.all fun c => c == b || Byte.isBlank c

/-- The mark of a list item. -/
structure Item where
  /-- The bullet, or what stands after the number. -/
  mark : UInt8
  /-- The number, zero after a bullet. -/
  number : Nat
  /-- The column of the content. -/
  column : Nat
  /-- The line after the mark. -/
  line : Line

/-- The bound that the number of an item may not reach before its last digit. -/
def numberBound : Nat := 100000000

/-- The value of decimal digits. -/
def valueOf (digits : Text) : Nat := digits.foldl (fun n d => 10 * n + (d.toNat - 48)) 0

/-- The bullet or the number at the start of a line: the mark, the number and the bytes it takes. -/
def label? (l : Line) : Option (UInt8 × Nat × Nat) :=
  match l.next? with
  | none => none
  | some b =>
    if b = '-' || b = '*' || b = '+' then some (b, 0, 1)
    else
      let digits := l.text.takeWhile Byte.isDigit
      match (l.text.drop digits.length).head? with
      | none => none
      | some mark =>
        if Frame.isOrderMark mark && !digits.isEmpty && valueOf digits.dropLast < numberBound then
          some (mark, valueOf digits, digits.length + 1)
        else none

/-- The mark of a list item. The content starts after one to four columns; when more follow, or
nothing, it starts after one. -/
def item? (line : Line) : Option Item := do
  let (indent, l) := line.takeUpTo 3
  let (mark, number, width) ← label? l
  let near ← (l.drop width).takeSpace? true
  let (more, far) := near.takeUpTo 3
  let column := indent + width + 1
  if (far.takeSpace? true).isSome then some ⟨mark, number, column, near⟩
  else some ⟨mark, number, column + more, far⟩

/-- A fence: its mark, its length, its indentation and the words after it. -/
structure Fence where
  /-- The mark. -/
  mark : UInt8
  /-- How many marks there are. -/
  size : Nat
  /-- The columns before it. -/
  indent : Nat
  /-- The words after it. -/
  info : Text
  deriving DecidableEq, Repr

/-- A fence on a line. No backtick follows a fence of backticks. -/
def fence? (line : Line) : Option Fence :=
  let (indent, l) := line.takeUpTo 3
  match l.next? with
  | none => none
  | some mark =>
    let size := (l.text.takeWhile (· == mark)).length
    let info := unescape (trimBlanks (l.text.drop size))
    if (mark = Byte.backtick || mark = '~') && 3 ≤ size
        && !(mark = Byte.backtick && List.elem Byte.backtick info) then
      some ⟨mark, size, indent, info⟩
    else none

end Mark

/-! ## Following the open blocks -/

/-- How a line relates to an open block. -/
inductive Extension where
  /-- It belongs to the block, and the rest of it to blocks inside. -/
  | inside (opening : Opening) (line : Line)
  /-- It does not belong to the block. -/
  | outside
  /-- It is the last line of the block. -/
  | final (opening : Opening)

namespace Opening

/-- Follow a line into an open block; the block inside it tells where the content of an item starts.
Paragraphs and tables are followed only when nothing else starts. -/
def extend (next : Option Opening) (line : Line) (opening : Opening) : Extension :=
  match opening with
  | document => .inside opening line
  | quote => (Mark.quote? line).elim .outside (.inside opening)
  | list _ _ =>
    match next with
    | some (item column _) => (line.takeSpaces? true column).elim .outside (.inside opening)
    | _ => if line.isBlank then .inside opening line else .outside
  | item column hasContent =>
    if !line.isBlank then .inside (item column true) line
    else if hasContent then .inside opening .empty
    else .outside
  | paragraph _ | table _ _ _ => .outside
  | fence mark size indent info lines =>
    if (Mark.fence? line).any fun f => f.mark == mark && size ≤ f.size && f.info.isEmpty then
      .final opening
    else .inside (fence mark size indent info ((line.takeUpTo indent).2.text :: lines)) .empty
  | code lines =>
    match line.takeSpaces? true 4 with
    | some l => .inside (code (l.text :: lines)) .empty
    | none => .outside
  | html ending lines =>
    if ending = .blankLine && line.isBlank then .outside
    else if ending.isAt line.text then .final (html ending (line.text :: lines))
    else .inside (html ending (line.text :: lines)) .empty

end Opening

/-- The open blocks while a line is read. -/
structure Cursor where
  /-- The labels defined so far. -/
  references : References
  /-- The number of the line. -/
  number : Nat
  /-- The open blocks that the line belongs to, the innermost first. -/
  matched : List Frame
  /-- The other open blocks, the outermost first. -/
  unmatched : List Frame

namespace Cursor

/-- Follow a line into open blocks: those it belongs to, the others and the rest of the line. -/
def follow (number : Nat) : List Frame → List Frame → Line → List Frame × List Frame × Line
  | matched, [], line => (matched, [], line)
  | matched, f :: inner, line =>
    let last := if line.isBlank then f.last else number
    match f.opening.extend (inner.head?.map Frame.opening) line with
    | .inside opening rest => follow number ({ f with opening, last } :: matched) inner rest
    | .outside => (matched, f :: inner, line)
    | .final opening => (matched, { f with opening, last } :: inner, .empty)

/-- Close the blocks that the line does not belong to. -/
def closeUnmatched (c : Cursor) : Cursor :=
  let (references, placed) := Frame.closeAll c.references c.unmatched
  match placed, c.matched with
  | some p, f :: outer => { c with references, matched := f.add p :: outer, unmatched := [] }
  | _, _ => { c with references, unmatched := [] }

/-- Add a block that is complete. -/
def put (c : Cursor) (block : Block) (first : Nat) : Cursor :=
  let c := c.closeUnmatched
  match c.matched with
  | f :: outer => { c with matched := f.add ⟨block, first, c.number, false⟩ :: outer }
  | [] => c

/-- Open a block. -/
def push (c : Cursor) (opening : Opening) : Cursor :=
  let c := c.closeUnmatched
  { c with matched := Frame.ofLine c.number opening :: c.matched }

/-- Open a block that the line completes if it is at the end of it. -/
def pushHtml (c : Cursor) (ending : Html.Ending) (line : Text) : Cursor :=
  if ending.isAt line then c.put (.html [line]) c.number else c.push (.html ending [line])

/-- Whether an opening is a paragraph or a table. -/
def isParagraph : Opening → Bool
  | .paragraph _ | .table _ _ _ => true
  | _ => false

/-- Whether the innermost open block is a paragraph or a table that the line might continue. -/
def hasParagraph (c : Cursor) : Bool := c.unmatched.getLast?.any fun f => isParagraph f.opening

/-- Make the paragraph before an underline a heading. What turns out not to be a paragraph is closed,
and the line is none. -/
def underline (c : Cursor) (level : Nat) : Cursor × Bool :=
  match c.unmatched with
  | [f] =>
    if isParagraph f.opening then
      let (references, placed) := f.close c.references
      match placed.block with
      | .paragraph text =>
        (({ c with references, unmatched := [] } : Cursor).put (.heading level text) f.first, true)
      | _ => (c.closeUnmatched, false)
    else (c, false)
  | _ => (c, false)

/-- Open a list item, and a list for it unless it continues the list of the item before. An item that
breaks into a paragraph must have content, and the number one if it has a number. -/
def pushItem? (c : Cursor) (item : Mark.Item) : Option Cursor :=
  let opening := Opening.item item.column (!item.line.isBlank)
  let fresh := (c.push (.list item.mark item.number)).push opening
  match c.unmatched with
  | f :: inner =>
    match f.opening with
    | .list mark _ =>
      if mark = item.mark then
        let joined := { c with matched := f :: c.matched, unmatched := inner }
        some (joined.push opening)
      else some fresh
    | _ =>
      if c.hasParagraph
          && (item.line.isBlank || (Frame.isOrderMark item.mark && item.number != 1)) then none
      else some fresh
  | [] => some fresh

/-- Continue the paragraph that is the innermost of the given blocks, if it is one. -/
def continueParagraph? (number : Nat) (text : Text) : List Frame → Option (List Frame)
  | [] => none
  | [f] =>
    match f.opening with
    | .paragraph lines => some [{ f with opening := .paragraph (text :: lines), last := number }]
    | _ => none
  | f :: inner =>
    (continueParagraph? number text inner).map fun inner => { f with last := number } :: inner

/-- Add a line of text: to a table or a paragraph that is open, or to a new paragraph. The line may
be the row of delimiters that makes the line before it the header of a table. -/
def addText (c : Cursor) (text : Text) : Cursor :=
  let continued :=
    match continueParagraph? c.number text c.unmatched with
    | some unmatched => { c with unmatched }
    | none => c.push (.paragraph [text])
  match c.unmatched with
  | [f] =>
    match f.opening with
    | .table header delimiters rows =>
      if text = "|" then c.push (.paragraph [text])
      else
        { c with unmatched := [{ f with opening := .table header delimiters (text :: rows) }] }
    | .paragraph (header :: lines) =>
      if Table.isStart header text then
        ({ c with unmatched := [{ f with opening := .paragraph lines }] } : Cursor).push
          (.table header text [])
      else continued
    | _ => continued
  | _ => continued

/-- Open the leaf block that a line starts, if it starts one: HTML, code between fences or indented
code. -/
def pushLeaf? (c : Cursor) (line : Line) : Option Cursor :=
  match Html.start? (!c.hasParagraph) line.unindented.text with
  | some ending => some (c.pushHtml ending line.text)
  | none =>
    match Mark.fence? line with
    | some f => some (c.push (.fence f.mark f.size f.indent f.info []))
    | none =>
      if c.hasParagraph then none
      else (line.takeSpaces? false 4).map fun l => c.push (.code [l.text])

/-- Open the blocks that the rest of a line starts, and add what is left as text. The first argument
bounds the number of blocks. -/
def start : Nat → Cursor → Line → Cursor
  | 0, c, _ => c
  | bound + 1, c, line =>
    if line.isBlank then c
    else
      match Mark.quote? line, Mark.heading? line with
      | some rest, _ => start bound (c.push .quote) rest
      | none, some heading => c.put heading c.number
      | none, none =>
        let (c, isUnderline) := (Mark.underline? line).elim (c, false) c.underline
        if isUnderline then c
        else if Mark.isRule line then c.put .rule c.number
        else
          let opened := do
            let item ← Mark.item? line
            return (← c.pushItem? item, item.line)
          match opened with
          | some (c, rest) => start bound c rest
          | none => (c.pushLeaf? line).getD (c.addText line.content)

/-- Read a line. The open blocks are given, and left, from the outermost to the innermost. -/
def readLine (number : Nat) (references : References) (frames : List Frame) (text : Text) :
    References × List Frame :=
  let (matched, unmatched, line) := follow number [] frames (.ofText text)
  let c : Cursor := ⟨references, number, matched, unmatched⟩
  let c := if line.isBlank then c.closeUnmatched else start (line.rest.length + 1) c line
  (c.references, c.matched.reverse ++ c.unmatched)

end Cursor

/-- The blocks of a text and the labels that it defines. -/
structure Outline where
  /-- The labels and their targets. -/
  references : References
  /-- The blocks. -/
  blocks : List Block

namespace Outline

/-- Read lines that start with the given number. -/
def readLines : Nat → References → List Frame → List Text → References × List Frame
  | _, references, frames, [] => (references, frames)
  | number, references, frames, line :: lines =>
    let (references, frames) := Cursor.readLine number references frames line
    readLines (number + 1) references frames lines

/-- The text with the replacement character for every null character. -/
def replaceNull (t : Text) : Text := t.flatMap fun b => if b = 0 then [0xEF, 0xBF, 0xBD] else [b]

/-- The blocks of a text and the labels that it defines. -/
def ofText (t : Text) : Outline :=
  let (references, frames) :=
    readLines 1 [] [Frame.ofLine 0 .document] (splitLines (replaceNull t))
  match Frame.closeAll references frames with
  | (references, some ⟨.quote blocks, _, _, _⟩) => ⟨references, blocks⟩
  | (references, _) => ⟨references, []⟩

end Outline

end DocBlock.Markdown
