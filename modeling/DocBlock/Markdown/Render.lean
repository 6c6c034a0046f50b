import DocBlock.Markdown.Outline
import DocBlock.Markdown.Span

/-!
# Rendering

The HTML of a Markdown text. `Markdown.render` gives the page without the line feeds at its end, and
nothing for a text of white space.
-/

namespace DocBlock.Markdown

/-- A byte of text or of an attribute. -/
def escapedByte (b : UInt8) : Text :=
  if b = Byte.quote then "&quot;"
  else if b = '&' then "&amp;"
  else if b = '<' then "&lt;"
  else if b = '>' then "&gt;"
  else [b]

/-- A text in HTML. -/
def escape (t : Text) : Text := t.flatMap escapedByte

/-- Whether a byte of an address is written as its code. -/
def isEncoded (b : UInt8) : Bool := 0x80 ≤ b || List.elem b (Text.ofString "\"<>\\ \x60[]")

/-- The code of a byte in an address. -/
def percentCode (b : UInt8) : Text :=
  '%' :: (Text.hexadecimal 2 b.toNat).map fun d => if Byte.isLetter d then d - 32 else d

/-- An address in an attribute. -/
def escapeUrl (url : Text) : Text :=
  url.flatMap fun (b : UInt8) => if b = '&' then "&amp;" else if isEncoded b then percentCode b else [b]

/-- An attribute. -/
def attributeText (name value : Text) : Text :=
  " " ++ name ++ "=" ++ [Byte.quote] ++ value ++ [Byte.quote]

/-- The attribute of a title, left out when it is empty. -/
def titleAttribute (title : Text) : Text :=
  if title.isEmpty then [] else attributeText "title" (escape title)

/-- An element with its content. -/
def element (name content : Text) : Text := "<" ++ name ++ ">" ++ content ++ "</" ++ name ++ ">"

namespace Inline

mutual

/-- The text of inline content without its marks. -/
def altText : Inline → Text
  | plain t | code t => escape t
  | escaped b => escapedByte b
  | emphasis inner | strong inner | deleted inner | link _ inner | image _ inner => altTexts inner
  | html _ | task _ => []
  | softBreak | hardBreak => " "

/-- The text of a list of inline content without its marks. -/
def altTexts : List Inline → Text
  | [] => []
  | x :: xs => altText x ++ altTexts xs

end

mutual

/-- The HTML of inline content. -/
def toHtml : Inline → Text
  | plain t => escape t
  | escaped b => escapedByte b
  | code t => element "code" (escape t)
  | emphasis inner => element "em" (toHtmlAll inner)
  | strong inner => element "strong" (toHtmlAll inner)
  | deleted inner => element "del" (toHtmlAll inner)
  | link target inner =>
    "<a" ++ attributeText "href" (escapeUrl target.url) ++ titleAttribute target.title ++ ">"
      ++ toHtmlAll inner ++ "</a>"
  | image target inner =>
    "<img" ++ attributeText "src" (escapeUrl target.url)
      ++ attributeText "alt" ((altTexts inner).map fun (b : UInt8) => if b = '\n' then ' ' else b)
      ++ titleAttribute target.title ++ " />"
  | html t => t
  | softBreak => "\n"
  | hardBreak => "<br />\n"
  | task checked =>
    "<input" ++ (if checked then attributeText "checked" [] else []) ++ attributeText "disabled" []
      ++ attributeText "type" "checkbox" ++ ">"

/-- The HTML of a list of inline content. -/
def toHtmlAll : List Inline → Text
  | [] => []
  | x :: xs => toHtml x ++ toHtmlAll xs

end

/-- The box that a text of a list item starts with: brackets around a space or an `x`, and a blank
after them. -/
def readTask? (t : Text) : Option (Bool × Text) :=
  match t with
  | a :: b :: c :: d :: _ =>
    if a = '[' && c = ']' && (b = ' ' || b = 'x' || b = 'X') && Byte.isBlank d then
      some (b != ' ', t.drop 3)
    else none
  | _ => none

/-- The content of a list item, with a box in place of its brackets. -/
def withTask (content : List Inline) : List Inline :=
  match content with
  | plain t :: rest =>
    match readTask? t with
    | some (checked, t) => task checked :: plain t :: rest
    | none => content
  | _ => content

end Inline

namespace Alignment

/-- The attribute of a cell. -/
def toHtml : Alignment → Text
  | none => []
  | left => attributeText "align" "left"
  | center => attributeText "align" "center"
  | right => attributeText "align" "right"

end Alignment

namespace Table

/-- The HTML of a row of cells. -/
def rowToHtml (references : References) (name : Text) (alignments : List Alignment)
    (cells : List Text) : Text :=
  let cell (c : Text × Alignment) : Text :=
    "<" ++ name ++ c.2.toHtml ++ ">" ++ Inline.toHtmlAll (Inline.ofText references c.1)
      ++ "</" ++ name ++ ">\n"
  "<tr>\n" ++ (cells.zip alignments).flatMap cell ++ "</tr>\n"

/-- The HTML of a table. Without rows it has no body. -/
def toHtml (references : References) (t : Table) : Text :=
  let rows := t.rows.flatMap (rowToHtml references "td" t.alignments)
  "<table>\n<thead>\n" ++ rowToHtml references "th" t.alignments t.header ++ "</thead>\n"
    ++ (if t.rows.isEmpty then ([] : Text) else "<tbody>\n" ++ rows ++ "</tbody>\n") ++ "</table>\n"

end Table

namespace Block

/-- The language that the words after a fence name: the first of them. -/
def language (info : Text) : Text :=
  ((Text.characters info).takeWhile fun c =>
    !(Text.codePoint c).any Text.Punctuation.isSeparator).flatten

/-- Lines, each with a line feed. -/
def unlines (lines : List Text) : Text := lines.flatMap (· ++ "\n")

/-- The HTML of code. -/
def codeToHtml (info : Text) (lines : List Text) : Text :=
  "<pre><code"
    ++ (if info.isEmpty then [] else attributeText "class" ("language-" ++ escape (language info)))
    ++ ">" ++ escape (unlines lines) ++ "</code></pre>\n"

/-- Whether a block is a paragraph. -/
def isParagraph : Block → Bool
  | paragraph _ => true
  | _ => false

/-- The HTML of a paragraph with the given content; in a tight list it has no tags. -/
def paragraphToHtml (tight : Bool) (content : List Inline) : Text :=
  if tight then Inline.toHtmlAll content else element "p" (Inline.toHtmlAll content) ++ "\n"

mutual

/-- The HTML of a block. -/
def toHtml (references : References) : Block → Text
  | empty => []
  | paragraph text => paragraphToHtml false (Inline.ofText references text)
  | heading level text =>
    element ("h" ++ Text.ofNat level) (Inline.toHtmlAll (Inline.ofText references text)) ++ "\n"
  | rule => "<hr />\n"
  | code info lines => codeToHtml info lines
  | html lines => unlines lines
  | table t => t.toHtml references
  | quote blocks => "<blockquote>\n" ++ toHtmlAll references blocks ++ "</blockquote>\n"
  | item blocks => toHtmlAll references blocks
  | list start loose items =>
    match start with
    | none => "<ul>\n" ++ itemsToHtml references (!loose) items ++ "</ul>\n"
    | some n =>
      "<ol" ++ (if n = 1 then [] else attributeText "start" (Text.ofNat n)) ++ ">\n"
        ++ itemsToHtml references (!loose) items ++ "</ol>\n"

/-- The HTML of blocks. -/
def toHtmlAll (references : References) : List Block → Text
  | [] => []
  | b :: bs => toHtml references b ++ toHtmlAll references bs

/-- The HTML of the items of a list. -/
def itemsToHtml (references : References) (tight : Bool) : List Block → Text
  | [] => []
  | item [] :: items => "<li></li>\n" ++ itemsToHtml references tight items
  | item (b :: bs) :: items =>
    (if tight && b.isParagraph then "<li>" else "<li>\n")
      ++ (match b with
        | paragraph text =>
          paragraphToHtml tight (Inline.withTask (Inline.ofText references text))
        | other => toHtml references other)
      ++ itemRestToHtml references tight b.isParagraph bs
      ++ "</li>\n" ++ itemsToHtml references tight items
  | _ :: items => itemsToHtml references tight items

/-- The HTML of the blocks of an item after its first. Text without tags stands on a line of its own;
`text` says whether the block before is such text. -/
def itemRestToHtml (references : References) (tight text : Bool) : List Block → Text
  | [] => []
  | b :: bs =>
    (if tight && text then ("\n" : Text) else [])
      ++ (match b with
        | paragraph text => paragraphToHtml tight (Inline.ofText references text)
        | other => toHtml references other)
      ++ itemRestToHtml references tight b.isParagraph bs

end

end Block

/-- The HTML of a Markdown text, without the line feeds at its end. -/
def render (t : Text) : Text :=
  if Text.isBlank t then []
  else
    let outline := Outline.ofText t
    Text.dropWhileRight (· == ('\n' : UInt8)) (Block.toHtmlAll outline.references outline.blocks)

end DocBlock.Markdown
