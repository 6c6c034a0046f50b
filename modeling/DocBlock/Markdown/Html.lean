import DocBlock.Markdown.Line

/-!
# HTML in Markdown

Markdown passes HTML through. Inside a paragraph that is a single tag, comment, instruction,
declaration or data section; `Html.read?` finds where it ends. A block of HTML starts with a line of
one of seven kinds, and `Html.Ending` says where such a block ends.
-/

namespace DocBlock.Markdown.Html

/-- Whether a byte can stand inside the name of a tag. -/
def isNameByte (b : UInt8) : Bool := Byte.isAlphanumeric b || b == '-'

/-- What follows the name of a tag. -/
def afterTagName? (t : Text) : Option Text :=
  match t with
  | b :: rest => if Byte.isLetter b then some (rest.dropWhile isNameByte) else none
  | [] => none

/-- What follows the name of an attribute. -/
def afterAttributeName? (t : Text) : Option Text :=
  match t with
  | b :: rest =>
    if Byte.isLetter b || b = '_' || b = ':' then
      some (rest.dropWhile fun c => isNameByte c || c == '_' || c == '.' || c == ':')
    else none
  | [] => none

/-- Whether a byte can stand in a value without quotation marks. -/
def isUnquoted (b : UInt8) : Bool :=
  !(isGap b || b == Byte.quote || b == Byte.apostrophe || b == '=' || b == '<' || b == '>'
    || b == Byte.backtick)

/-- What follows the value of an attribute. -/
def afterValue? (t : Text) : Option Text :=
  match t with
  | b :: rest =>
    if b = Byte.quote || b = Byte.apostrophe then (Text.cut [b] rest).map Prod.snd
    else if isUnquoted b then some (rest.dropWhile isUnquoted)
    else none
  | [] => none

/-- What follows an equals sign and a value. -/
def afterAssignment? (t : Text) : Option Text := do
  afterValue? (skipGap (← ("=" : Text).isPrefixOf? (skipGap t)))

/-- What follows an attribute with or without a value. -/
def afterAttribute? (t : Text) : Option Text := do
  let rest ← afterAttributeName? (skipGap t)
  return (afterAssignment? rest).getD rest

/-- What follows the attributes of a tag; the first argument bounds their number. -/
def afterAttributes? : Nat → Text → Option Text
  | 0, _ => none
  | bound + 1, t =>
    if t.head?.any fun b => isGap b || b == '/' || b == '>' then
      match afterAttribute? t with
      | some rest => afterAttributes? bound rest
      | none => some t
    else none

/-- What follows an opening tag. -/
def afterOpeningTag? (t : Text) : Option Text := do
  let named ← afterTagName? (← ("<" : Text).isPrefixOf? t)
  let ended := skipGap (← afterAttributes? t.length named)
  (">" : Text).isPrefixOf? ((("/" : Text).isPrefixOf? ended).getD ended)

/-- What follows a closing tag. -/
def afterClosingTag? (t : Text) : Option Text := do
  let named ← afterTagName? (← ("</" : Text).isPrefixOf? t)
  (">" : Text).isPrefixOf? (skipGap named)

/-- What follows a section between two marks. -/
def afterSection? (start close t : Text) : Option Text := do
  let (_, rest) ← Text.cut close (← start.isPrefixOf? t)
  return rest

/-- What follows a comment. Its text does not start with `>` or `->`, does not end with a hyphen
and holds no two hyphens in a row. -/
def afterComment? (t : Text) : Option Text := do
  let inside ← ("<!--" : Text).isPrefixOf? t
  let (body, rest) ← Text.cut "-->" inside
  if (">" : Text).isPrefixOf inside || ("->" : Text).isPrefixOf inside
      || Text.contains "--" (body ++ "-") then none
  else some rest

/-- What follows a declaration. -/
def afterDeclaration? (t : Text) : Option Text := do
  let inside ← ("<!" : Text).isPrefixOf? t
  if inside.head?.any Byte.isLetter then afterSection? "<!" ">" t else none

/-- Read a piece of HTML at the start of a text: the piece, and what follows it. -/
def read? (t : Text) : Option (Text × Text) :=
  let rest :=
    if ("</" : Text).isPrefixOf t then afterClosingTag? t
    else if ("<!-" : Text).isPrefixOf t then afterComment? t
    else if ("<![" : Text).isPrefixOf t then afterSection? "<![CDATA[" "]]>" t
    else if ("<!" : Text).isPrefixOf t then afterDeclaration? t
    else if ("<?" : Text).isPrefixOf t then afterSection? "<?" "?>" t
    else afterOpeningTag? t
  rest.map fun rest => (t.take (t.length - rest.length), rest)

/-- Where a block of HTML ends. -/
inductive Ending where
  /-- At a blank line. -/
  | blankLine
  /-- With the line that holds one of these texts, in any case. -/
  | marks (marks : List Text)
  deriving DecidableEq, Repr

/-- Whether a line ends a block. -/
def Ending.isAt (ending : Ending) (line : Text) : Bool :=
  match ending with
  | blankLine => false
  | marks ms => ms.any fun m => Text.contains m (line.map Byte.toLower)

/-- The names of tags that start a block. -/
def blockTags : List String :=
  ["address", "article", "aside", "base", "basefont", "blockquote", "body", "caption", "center",
    "col", "colgroup", "dd", "details", "dialog", "dir", "div", "dl", "dt", "fieldset",
    "figcaption", "figure", "footer", "form", "frame", "frameset", "h1", "h2", "h3", "h4", "h5",
    "h6", "head", "header", "hr", "html", "iframe", "legend", "li", "link", "main", "menu",
    "menuitem", "nav", "noframes", "ol", "optgroup", "option", "p", "param", "section", "source",
    "summary", "table", "tbody", "td", "tfoot", "th", "thead", "title", "tr", "track", "ul"]

/-- The names of tags whose text is kept as it is. -/
def verbatimTags : List String := ["pre", "script", "style", "textarea"]

/-- The ends of blocks with a verbatim tag. -/
def verbatimEnds : List Text := verbatimTags.map fun name => "</" ++ Text.ofString name ++ ">"

/-- Whether a name is in a list of names, in any case. -/
def isNamed (names : List String) (name : Text) : Bool :=
  names.any fun n => Text.ofString n == name.map Byte.toLower

/-- Whether what follows the name of a tag lets it start a block: a blank, the end of the tag or the
end of the line. -/
def endsName (rest : Text) : Bool := rest.head?.all fun b => Byte.isBlank b || b == '>'

/-- Whether a line starts with a block tag, opening or closing. -/
def startsBlockTag (line : Text) : Bool :=
  let inside := line.drop 1
  let named := (("/" : Text).isPrefixOf? inside).getD inside
  let rest := named.dropWhile Byte.isAlphanumeric
  isNamed blockTags (named.takeWhile Byte.isAlphanumeric)
    && (endsName rest || ("/>" : Text).isPrefixOf rest)

/-- Whether a line starts with a verbatim tag. -/
def startsVerbatimTag (line : Text) : Bool :=
  let named := line.drop 1
  isNamed verbatimTags (named.takeWhile Byte.isAlphanumeric)
    && endsName (named.dropWhile Byte.isAlphanumeric)

/-- Whether a line holds a single tag. -/
def isSingleTag (line : Text) : Bool :=
  ((afterOpeningTag? line).or (afterClosingTag? line)).any fun rest => rest.all Byte.isBlank

/-- How a block ends that starts with the given line, if one does. A line with any single tag starts
a block only where `alone` says that no paragraph is open. -/
def start? (alone : Bool) (line : Text) : Option Ending :=
  if line.head? != some '<' then none
  else if ("<!--" : Text).isPrefixOf line then some (.marks ["-->"])
  else if ("<?" : Text).isPrefixOf line then some (.marks ["?>"])
  else if ("<![CDATA[" : Text).isPrefixOf line then some (.marks ["]]>"])
  else if ("<!" : Text).isPrefixOf line && (line.drop 2).head?.any Byte.isLetter then
    some (.marks [">"])
  else if startsBlockTag line then some .blankLine
  else if startsVerbatimTag line then some (.marks verbatimEnds)
  else if alone && isSingleTag line then some .blankLine
  else none

end DocBlock.Markdown.Html
