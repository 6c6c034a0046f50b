import DocBlock.Comment

/-!
# Source files

A source text is code with block comments in it. `Layout.ofText` cuts a text, read from the left,
into the code before the first comment, the closed comments with the code after each, and a
comment at the end that is never closed. Outside comments `//` opens a line comment, which may
hold `/*` and ends at a line feed. Inside a block comment only the closing `*/` counts.

The one character after `/*` is the comment's *mark*, whatever it is, and the one after `*/` is
passed over. Neither is searched for a delimiter, so the shortest comment has a mark before its
closing `*/`.

`Source.comments` reads every closed comment of a source file.
-/

namespace DocBlock

/-- A closed block comment and the code after it. -/
structure Block where
  /-- The one character after the opening `/*`; nothing only at the end of the text. -/
  mark : Text
  /-- The text between the mark and the first closing `*/` after it. -/
  body : Text
  /-- The one character after the closing `*/`; nothing only at the end of the text. -/
  gap : Text
  /-- The code up to the next comment. -/
  code : Text
  deriving DecidableEq, Repr

/-- A block comment that is not closed before the end of the text. -/
structure Unclosed where
  /-- The one character after the opening `/*`. -/
  mark : Text
  /-- The text after the mark. -/
  body : Text
  deriving DecidableEq, Repr

/-- A source text cut at its comments. -/
structure Layout where
  /-- The code before the first comment. -/
  lead : Text
  /-- The closed comments, in order. -/
  blocks : List Block
  /-- A comment at the end that is not closed. -/
  unclosed : Option Unclosed
  deriving DecidableEq, Repr

/-- The code at the start of a text, up to the first `/*` that no line comment holds, and what
follows it. The first argument tells whether the text starts inside a line comment. -/
def splitCode : Bool → Text → Text × Text
  | _, [] => ([], [])
  | true, b :: t =>
    let (code, rest) := splitCode (b != '\n') t
    (b :: code, rest)
  | false, [b] => ([b], [])
  | false, b :: c :: t =>
    if b = '/' && c = '*' then ([], b :: c :: t)
    else
      let (code, rest) := splitCode (b == '/' && c == '/') (c :: t)
      (b :: code, rest)

/-- The length of what follows the code never exceeds that of the whole text. -/
theorem length_splitCode_snd_le (inLine : Bool) (t : Text) :
    (splitCode inLine t).2.length ≤ t.length := by
  fun_induction splitCode inLine t <;> simp_all <;> omega

namespace Layout

/-- The closed comments at the start of a text, each with the code after it, and the comment at
the end that is not closed. The text is empty or starts with `/*`. -/
def comments (t : Text) : List Block × Option Unclosed :=
  match t with
  | _ :: _ :: inner =>
    let mark := Text.firstCharacter inner
    match _h : Text.cut "*/" (Text.afterFirst inner) with
    | none => ([], some ⟨mark, Text.afterFirst inner⟩)
    | some (body, outer) =>
      let next := splitCode false (Text.afterFirst outer)
      let later := comments next.2
      (⟨mark, body, Text.firstCharacter outer, next.1⟩ :: later.1, later.2)
  | _ => ([], none)
termination_by t.length
decreasing_by
  have hcut := congrArg List.length (Text.eq_append_of_cut _h)
  have hcode := length_splitCode_snd_le false (Text.afterFirst outer)
  simp only [Text.afterFirst, List.length_drop, List.length_append, List.length_cons] at *
  omega

/-- The layout of a text. -/
def ofText (t : Text) : Layout :=
  let start := splitCode false t
  let later := comments start.2
  { lead := start.1, blocks := later.1, unclosed := later.2 }

/-- The text of a comment that is not closed. -/
def unclosedBody (layout : Layout) : Text := (layout.unclosed.map Unclosed.body).getD []

end Layout

namespace Source

/-- A line of a comment without the star at its start, the spaces before it and one space after
it. A line without a star there is left as it is. -/
def undecorate (line : Text) : Text :=
  match Text.skipSpaces line with
  | b :: rest => if b = '*' then (if rest.head? == some ' ' then rest.tail else rest) else line
  | [] => line

/-- The body of a comment without the stars at the start of its lines. -/
def bodyText (body : Text) : Text := Text.join "\n" ((Text.lines body).map undecorate)

/-- Read a closed comment and the code after it. -/
def commentOf (reading : Reading) (path : Text) (block : Block) : Comment Text :=
  let comment := Comment.ofBody reading path (bodyText block.body)
  { comment with isBanner := block.mark.head? == some '!' }.attach block.code

/-- Attach a code text to the last of a list of comments. -/
def attachLast {Δ : Type} (code : Text) : List (Comment Δ) → List (Comment Δ)
  | [] => []
  | [c] => [c.attach code]
  | c :: cs => c :: attachLast code cs

/-- Read the closed comments of a layout. The text of a comment that is not closed is taken for
code of the last closed one. -/
def ofLayout (reading : Reading) (path : Text) (layout : Layout) : List (Comment Text) :=
  attachLast layout.unclosedBody (layout.blocks.map (commentOf reading path))

/-- Read the closed comments of the text of a source file. -/
def comments (reading : Reading) (path t : Text) : List (Comment Text) :=
  ofLayout reading path (Layout.ofText (Text.unixNewlines t))

end Source

end DocBlock
