import DocBlock.Markdown.Autolink
import DocBlock.Markdown.Html

/-!
# Reading inline content

A text is read from left to right into pieces. Code, HTML, addresses in angle brackets, escapes,
character references and breaks are complete when they are read. A closing bracket looks back for
the bracket that opened it: together they are a link if a target follows, in place or by a label.
-/

namespace DocBlock.Markdown

namespace Span

/-! ## Code -/

/-- The text up to and with the first run of exactly `size` backticks, and what follows it; `count`
backticks stand before the text. -/
def cutBackticks? (size : Nat) : Nat → Text → Option (Text × Text)
  | count, [] => if count = size then some ([], []) else none
  | count, b :: t =>
    if b = Byte.backtick then prepend [b] (cutBackticks? size (count + 1) t)
    else if count = size then some ([], b :: t)
    else prepend [b] (cutBackticks? size 0 t)

/-- The text of a code span: line feeds become spaces, and one space at each end is dropped unless
there is nothing else. -/
def codeText (t : Text) : Text :=
  let spaced : Text := t.map fun (b : UInt8) => if b = '\n' then ' ' else b
  if 2 ≤ spaced.length && spaced.head? == some ' ' && spaced.getLast? == some ' '
      && !spaced.all Byte.isBlank then
    spaced.tail.dropLast
  else spaced

/-- The most backticks that can enclose code. -/
def mostBackticks : Nat := 80

/-- Read a code span, or the backticks that start none, after the first backtick. -/
def readCode (t : Text) : Inline × Text :=
  let more := t.takeWhile (· == Byte.backtick)
  let inside := t.drop more.length
  let size := more.length + 1
  match if size ≤ mostBackticks then cutBackticks? size 0 inside else none with
  | some (enclosed, rest) => (.code (codeText (enclosed.take (enclosed.length - size))), rest)
  | none => (.plain (Byte.backtick :: more), inside)

/-! ## Runs of marks -/

/-- What stands next to a run of marks. -/
inductive Neighbour where
  /-- White space, or an end of the text. -/
  | space
  /-- Punctuation. -/
  | punctuation
  /-- Anything else. -/
  | word
  deriving DecidableEq, Repr

/-- The kind of neighbour that a character is; no character is an end of the text. -/
def Neighbour.ofCharacter (c : Text) : Neighbour :=
  if c.isEmpty then space
  else
    match Text.codePoint c with
    | none => word
    | some n =>
      if Text.Punctuation.isSeparator n then space
      else if Text.Punctuation.isPunctuation n then punctuation
      else word

/-- The last character of a text that is given from its end. -/
def lastCharacter (reversed : Text) : Text :=
  match reversed with
  | d :: c :: b :: a :: _ =>
    if Text.isQuadruple a b c d then [a, b, c, d]
    else if Text.isTriple b c d then [b, c, d]
    else if Text.isPair c d then [c, d]
    else [d]
  | [c, b, a] =>
    if Text.isTriple a b c then [a, b, c] else if Text.isPair b c then [b, c] else [c]
  | [b, a] => if Text.isPair a b then [a, b] else [b]
  | short => short

/-- Whether a run can face what follows it: not white space, and punctuation only after white space
or punctuation. -/
def faces (behind ahead : Neighbour) : Bool :=
  ahead != .space && (ahead != .punctuation || behind != .word)

/-- The run of so many marks between two neighbours. An underscore inside a word neither starts nor
ends emphasis. -/
def runBetween (mark : UInt8) (size : Nat) (before after : Neighbour) : Run :=
  let left := faces before after
  let right := faces after before
  let inWord := mark = '_'
  { mark, size, left := size
    opens := left && (!inWord || !right || before == .punctuation)
    closes := right && (!inWord || !left || after == .punctuation) }

/-- Read a run of marks after its first; what stands before it is given from its end. Three tildes
or more are text. -/
def readRun (seen : Text) (mark : UInt8) (t : Text) : Piece × Text :=
  let more := t.takeWhile (· == mark)
  let rest := t.drop more.length
  let size := more.length + 1
  if mark = '~' && 2 < size then (.done (.plain (mark :: more)), rest)
  else
    let before := Neighbour.ofCharacter (lastCharacter seen)
    let after := Neighbour.ofCharacter (Text.firstCharacter rest)
    (.run (runBetween mark size before after), rest)

/-! ## Links -/

/-- A bracket around a link is spent. -/
def spend : Piece → Piece
  | .bracket false _ after => .bracket false true after
  | piece => piece

/-- The last bracket before a place, with the pieces after it, the last first, and those before. -/
def findBracket? : List Piece → Option (List Piece × (Bool × Bool × Text) × List Piece)
  | [] => none
  | .bracket image spent after :: before => some ([], (image, spent, after), before)
  | piece :: before =>
    (findBracket? before).map fun (inner, bracket, before) => (piece :: inner, bracket, before)

/-- The target of a link by its own text, and what follows it; an empty label may follow the text. -/
def readShortcut? (references : References) (label t : Text) : Option (Target × Text) :=
  (references.find? label).map fun target => (target, (("[]" : Text).isPrefixOf? t).getD t)

/-- The target of a link with the given text, and what follows it, after the closing bracket. A label
after the text decides alone. -/
def readTarget? (references : References) (label t : Text) : Option (Target × Text) :=
  match ("(" : Text).isPrefixOf? t with
  | some inside => (Target.readInline? inside).or (readShortcut? references label t)
  | none =>
    match References.readLabel? t with
    | some (other, rest) => (references.find? other).map fun target => (target, rest)
    | none => readShortcut? references label t

/-- Close a bracket: the pieces with a link in place of those since the bracket, and what follows
it. When there is no link the bracket is text from now on. -/
def closeBracket (references : References) (pieces : List Piece) (t : Text) : List Piece × Text :=
  match findBracket? pieces with
  | none => (.byte ']' :: pieces, t)
  | some (inner, (image, spent, after), before) =>
    let label := after.take (after.length - (t.length + 1))
    match if spent then none else readTarget? references label t with
    | some (target, rest) =>
      let content := Emphasis.resolve inner.reverse
      if image then (.done (.image target content) :: before, rest)
      else (.done (.link target content) :: before.map spend, rest)
    | none =>
      let bracket := Piece.done (Piece.bracket image spent after).content
      (.byte ']' :: (inner ++ bracket :: before), t)

/-! ## Reading -/

/-- Whether a piece is a blank of the source. -/
def isBlankPiece : Piece → Bool
  | .byte b => Byte.isBlank b
  | _ => false

/-- Whether the last two pieces are spaces of the source. -/
def endsWithSpaces : List Piece → Bool
  | .byte b :: .byte c :: _ => b == ' ' && c == ' '
  | _ => false

/-- Read one piece: the pieces so far, the last first, and what follows. The text before the byte is
given from its end. -/
def step (references : References) (seen : Text) (pieces : List Piece) (b : UInt8) (t : Text) :
    List Piece × Text :=
  let done (result : Option (Inline × Text)) : List Piece × Text :=
    match result with
    | some (content, rest) => (.done content :: pieces, rest)
    | none => (.byte b :: pieces, t)
  if b = Byte.backslash then
    match t with
    | c :: rest =>
      if Byte.isPunctuation c then done (some (.escaped c, rest))
      else if c = '\n' then done (some (.hardBreak, rest.dropWhile Byte.isBlank))
      else done none
    | [] => done none
  else if b = Byte.backtick then done (some (readCode t))
  else if b = '<' then
    done ((Autolink.readAngled? t).or
      ((Html.read? (b :: t)).map fun (html, rest) => (.html html, rest)))
  else if b = '[' then (.bracket false false t :: pieces, t)
  else if b = '!' then
    match ("[" : Text).isPrefixOf? t with
    | some rest => (.bracket true false rest :: pieces, rest)
    | none => done none
  else if b = ']' then closeBracket references pieces t
  else if b = '*' || b = '_' || b = '~' then
    let (piece, rest) := readRun seen b t
    (piece :: pieces, rest)
  else if b = '\n' then
    let content := if endsWithSpaces pieces then Inline.hardBreak else Inline.softBreak
    (.done content :: pieces.dropWhile isBlankPiece, t.dropWhile Byte.isBlank)
  else if b = '&' then done ((Entity.read? t).map fun (value, rest) => (.plain value, rest))
  else (.byte b :: pieces, t)

/-- Read a text into pieces, the last first. The first argument counts bytes of a piece that are
still to be skipped; what stands before the text is given from its end. -/
def readAfter (references : References) : Nat → Text → List Piece → Text → List Piece
  | _, _, pieces, [] => pieces
  | skip + 1, seen, pieces, b :: t => readAfter references skip (b :: seen) pieces t
  | 0, seen, pieces, b :: t =>
    let (pieces, rest) := step references seen pieces b t
    readAfter references (t.length - rest.length) (b :: seen) pieces t

end Span

namespace Inline

/-- The inline content of a text. -/
def ofText (references : References) (t : Text) : List Inline :=
  let pieces := (Span.readAfter references 0 [] [] (trimBlanks t)).reverse
  Autolink.applyAll (mergeAll (Emphasis.resolve pieces))

end Inline

end DocBlock.Markdown
