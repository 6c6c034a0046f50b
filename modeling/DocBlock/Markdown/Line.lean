import DocBlock.Text.Character

/-!
# Lines

A line of a Markdown text as far as it has been read. Indentation is counted in columns; a tab
runs to the next multiple of four, and the columns of a tab can be taken one by one.
-/

namespace DocBlock.Markdown

/-- What is left of a line. -/
structure Line where
  /-- The columns of a tab that are still to be taken. -/
  spaces : Nat
  /-- The columns since the last tab stop that a tab reached. -/
  column : Nat
  /-- The bytes that are still to be read. -/
  rest : Text
  deriving DecidableEq, Repr

namespace Line

/-- A whole line. -/
def ofText (t : Text) : Line := ⟨0, 0, t⟩

/-- The line with nothing on it. -/
def empty : Line := ofText []

/-- Whether only spaces and tabs are left. -/
def isBlank (l : Line) : Bool := l.rest.all Byte.isBlank

/-- Take one column of indentation; with `atEnd` the end of the line counts as one. -/
def takeSpace? (atEnd : Bool) (l : Line) : Option Line :=
  match l.spaces with
  | spaces + 1 => some { l with spaces }
  | 0 =>
    match l.rest with
    | b :: rest =>
      if b = ' ' then some ⟨0, l.column + 1, rest⟩
      else if b = '\t' then some ⟨3 - l.column % 4, 0, rest⟩
      else none
    | [] => if atEnd then some l else none

/-- Take exactly so many columns of indentation. -/
def takeSpaces? (atEnd : Bool) : Nat → Line → Option Line
  | 0, l => some l
  | n + 1, l => (l.takeSpace? atEnd).bind (takeSpaces? atEnd n)

/-- Take so many columns of indentation or as many as there are; the number taken comes first. -/
def takeUpTo : Nat → Line → Nat × Line
  | 0, l => (0, l)
  | n + 1, l =>
    match l.takeSpace? false with
    | some l' => let (taken, l'') := takeUpTo n l'; (taken + 1, l'')
    | none => (0, l)

/-- The line without the indentation that a block may have: three columns at most. -/
def unindented (l : Line) : Line := (l.takeUpTo 3).2

/-- The next byte, a space inside a tab. -/
def next? (l : Line) : Option UInt8 := if l.spaces = 0 then l.rest.head? else some ' '

/-- Take the given bytes away. -/
def drop (n : Nat) (l : Line) : Line := ⟨0, l.column + n, l.rest.drop n⟩

/-- What is left, with the columns of a tab as spaces. -/
def text (l : Line) : Text := Text.spaces l.spaces ++ l.rest

/-- What is left after the indentation. -/
def content (l : Line) : Text := l.rest.dropWhile Byte.isBlank

end Line

/-- Whether a byte is a space, a tab or a line feed. -/
def isGap (b : UInt8) : Bool := Byte.isBlank b || b == '\n'

/-- The text without spaces and tabs at both ends. -/
def trimBlanks (t : Text) : Text := Text.trimWhere Byte.isBlank t

/-- The text without the spaces, tabs and line feeds at its start. -/
def skipGap (t : Text) : Text := t.dropWhile isGap

/-- The lines of a Markdown text. A line ends with a line feed, a
carriage return or both. The end of the text ends a line only if something stands on it. -/
def splitLines : Text → List Text
  | [] => []
  | [b] => if b = '\n' || b = '\r' then [[]] else [[b]]
  | b :: c :: t =>
    if b = '\r' && c = '\n' then [] :: splitLines t
    else if b = '\n' || b = '\r' then [] :: splitLines (c :: t)
    else Text.consFirst b (splitLines (c :: t))

end DocBlock.Markdown
