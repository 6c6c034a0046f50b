import DocBlock.Path

/-!
# Tags

A tag line is an `@`, a name and words. Nine names have a grammar of their own; a line with any
other name keeps its words. A `@detail` tag refers to another file, and what it holds in the place
of that reference is a parameter `Δ` of the type: the path of the file when the line is read, the
comments of the file once it is included.
-/

namespace DocBlock

/-- A tag whose `@detail` lines hold a `Δ`. -/
inductive Tag (Δ : Type) where
  /-- A parameter with its type names. -/
  | param (types : List Text) (name description : Text)
  /-- What a function returns. -/
  | returns (types : List Text) (description : Text)
  /-- A link, with a title and an address or with a local name, and its first word again. -/
  | see (title url reference visibility : Text)
  /-- The visibility of what is documented. -/
  | api (visibility : Text)
  /-- The type of what is documented. -/
  | type (types : List Text)
  /-- The parent of a member. -/
  | memberOf (parent : Text)
  /-- The class that is extended. -/
  | augments (base : Text)
  /-- A member taken from elsewhere, and the name it gets. -/
  | borrows (source target : Text)
  /-- A reference to another file. -/
  | detail (content : Δ)
  /-- A line with any other name. -/
  | other (name text : Text)
  deriving Repr

namespace Tag

/-- The name of a tag, without the `@`. -/
def name {Δ : Type} : Tag Δ → Text
  | param _ _ _ => "param"
  | returns _ _ => "return"
  | see _ _ _ _ => "see"
  | api _ => "api"
  | type _ => "type"
  | memberOf _ => "memberOf"
  | augments _ => "augments"
  | borrows _ _ => "borrows"
  | detail _ => "detail"
  | other n _ => n

/-- The names with a grammar of their own. -/
def names : List Text :=
  ["param", "return", "see", "api", "type", "memberOf", "augments", "borrows", "detail"]

/-- Whether a tag marks what is documented as private. -/
def hides {Δ : Type} : Tag Δ → Bool
  | api visibility => visibility == "private"
  | _ => false

/-- What a `@detail` tag holds. -/
def detail? {Δ : Type} : Tag Δ → Option Δ
  | detail content => some content
  | _ => none

/-- Replace the content of a `@detail` tag. -/
def traverse {m : Type → Type} [Monad m] {Δ Γ : Type} (f : Δ → m Γ) : Tag Δ → m (Tag Γ)
  | param types name description => pure (param types name description)
  | returns types description => pure (returns types description)
  | see title url reference visibility => pure (see title url reference visibility)
  | api visibility => pure (api visibility)
  | type types => pure (type types)
  | memberOf parent => pure (memberOf parent)
  | augments base => pure (augments base)
  | borrows source target => pure (borrows source target)
  | detail content => detail <$> f content
  | other name text => pure (other name text)

/-- Whether a byte separates two type names. -/
def isTypeSeparator (b : UInt8) : Bool := b == '|' || b == ',' || b == '/'

/-- The pieces of a type list after its first: the spaces after a separator belong to it, and so
do the spaces before the next. -/
def laterTypes : List Text → List Text
  | [] => []
  | [piece] => [Text.skipSpaces piece]
  | piece :: pieces => Text.trimWhere (· == ' ') piece :: laterTypes pieces

/-- The type names of a list: curly brackets do not count, and the names stand between separators
with any spaces around them. -/
def typeNames (t : Text) : List Text :=
  let bare := t.filter fun b => b != Byte.leftBrace && b != Byte.rightBrace
  if bare.isEmpty then []
  else
    match Text.splitWhere isTypeSeparator bare with
    | [] => []
    | [only] => [only]
    | first :: others => Text.dropWhileRight (· == ' ') first :: laterTypes others

/-- A tag line cut into its name, the words after the name, and the lines that continue it. -/
structure Line where
  /-- The name, without the first `@` of the first word. -/
  name : Text
  /-- The words after the name on the first line. -/
  words : List Text
  /-- The following lines, each after its line feed. -/
  continuation : Text
  /-- The whole of the line and its continuation. -/
  whole : Text

namespace Line

/-- Cut a text into the parts of a tag line. -/
def ofText (t : Text) : Line :=
  let words := Text.words (t.takeWhile (· != '\n'))
  { name := (words.headD []).erase '@'
    words := words.tail
    continuation := t.dropWhile (· != '\n')
    whole := t }

/-- The words from the `k`-th on, with one space between neighbours. -/
def wordsFrom (line : Line) (k : Nat) : Text := Text.join " " (line.words.drop k)

/-- The `k`-th word, empty when there are fewer. -/
def word (line : Line) (k : Nat) : Text := (line.words.drop k).headD []

end Line

/-- A link. A line that mentions `http` anywhere has an address, after a title when it has two
words or more; any other line names something local. The first word of either is also read as a
visibility. -/
def seeOf (line : Line) : Tag Text :=
  if Text.contains "http" line.whole then
    if 1 < line.words.length then see (line.word 0) (line.wordsFrom 1) [] (line.word 1)
    else see [] (line.wordsFrom 0) [] (line.word 0)
  else see [] [] (line.wordsFrom 0) (line.word 0)

/-- A borrowed member: the words up to the first free-standing `as`, and those up to the next. -/
def borrowsOf (line : Line) : Tag Text :=
  let members := Text.splitOn " as " (line.wordsFrom 0)
  borrows (members.headD []) (members.tail.headD [])

/-- Read a tag line of the file `path`. Descriptions pass through `render`. -/
def ofLine (render : Text → Text) (path : Text) (line : Line) : Tag Text :=
  if line.name = "param" then
    param (typeNames (line.word 0)) (line.word 1) (render (line.wordsFrom 2 ++ line.continuation))
  else if line.name = "return" then
    returns (typeNames (line.word 0)) (render (line.wordsFrom 1 ++ line.continuation))
  else if line.name = "see" then seeOf line
  else if line.name = "api" then api (line.word 0)
  else if line.name = "type" then type (typeNames (line.word 0))
  else if line.name = "memberOf" then memberOf (line.word 0)
  else if line.name = "augments" then augments (line.word 0)
  else if line.name = "borrows" then borrowsOf line
  else if line.name = "detail" then detail (Path.beside path (line.word 0))
  else other line.name (line.wordsFrom 0)

/-- Read a tag line, with the lines that continue it, of the file `path`. -/
def ofText (render : Text → Text) (path t : Text) : Tag Text :=
  ofLine render path (Line.ofText t)

end Tag

end DocBlock
