import DocBlock.Markdown.Entity
import DocBlock.Markdown.Line
import DocBlock.Text.Fold

/-!
# Link references

A link names its destination in place, or by a label that is defined elsewhere in the text. This
module reads destinations, titles and labels, and the definitions that stand at the start of a
paragraph. Every reader gives what it read and the text after it.
-/

namespace DocBlock.Markdown

/-- Where a link leads: an address, and a title that may be empty. -/
structure Target where
  /-- The address. -/
  url : Text
  /-- The title. -/
  title : Text
  deriving DecidableEq, Repr

/-- The labels that a text defines, with their targets. -/
abbrev References := List (Text × Target)

/-- The text with the escapes of punctuation and the named references resolved; the first argument
counts bytes of a reference that are still to be skipped. -/
def unescapeAfter : Nat → Text → Text
  | _, [] => []
  | skip + 1, _ :: t => unescapeAfter skip t
  | 0, b :: t =>
    if b = Byte.backslash && t.head?.any Byte.isPunctuation then
      t.headD 0 :: unescapeAfter 1 t
    else if b = '&' then
      match Entity.readNamed? t with
      | some (value, rest) => value ++ unescapeAfter (t.length - rest.length) t
      | none => b :: unescapeAfter 0 t
    else b :: unescapeAfter 0 t

/-- The text with the escapes of punctuation and the named references resolved. -/
def unescape (t : Text) : Text := unescapeAfter 0 t

/-- Put bytes before what was read. -/
def prepend (bytes : Text) (reading : Option (Text × Text)) : Option (Text × Text) :=
  reading.map fun (t, rest) => (bytes ++ t, rest)

namespace Target

/-- Read a destination up to its closing angle bracket. -/
def readAngled? : Text → Option (Text × Text)
  | [] => none
  | [b] => if b = '>' then some ([], []) else none
  | b :: c :: t =>
    if b = '>' then some ([], c :: t)
    else if b = '\n' || b = '<' then none
    else if b = Byte.backslash then prepend [b, c] (readAngled? t)
    else prepend [b] (readAngled? (c :: t))

/-- How deep parentheses can be nested in a destination. -/
def deepest : Nat := 32

/-- Read a destination without angle brackets, inside so many parentheses. It ends at a gap or at a
closing parenthesis without a partner. -/
def readPlain? : Nat → Text → Option (Text × Text)
  | _, [] => some ([], [])
  | depth, [b] =>
    if isGap b || (b = ')' && depth = 0) then some ([], [b])
    else if b = '(' && deepest ≤ depth then none
    else some ([b], [])
  | depth, b :: c :: t =>
    if isGap b || (b = ')' && depth = 0) then some ([], b :: c :: t)
    else if b = Byte.backslash then
      if Byte.isBlank c then none else prepend [b, c] (readPlain? depth t)
    else if b = '(' then
      if deepest ≤ depth then none else prepend [b] (readPlain? (depth + 1) (c :: t))
    else if b = ')' then prepend [b] (readPlain? (depth - 1) (c :: t))
    else prepend [b] (readPlain? depth (c :: t))

/-- Read a destination. -/
def readUrl? (t : Text) : Option (Text × Text) :=
  match t with
  | [] => none
  | b :: rest =>
    (if b = '<' then readAngled? rest else readPlain? 0 t).map fun (url, rest) =>
      (unescape url, rest)

/-- Read a title up to its closing mark; a title in parentheses holds no opening parenthesis. -/
def readTitleUntil? (close : UInt8) : Text → Option (Text × Text)
  | [] => none
  | [b] => if b = close then some ([], []) else none
  | b :: c :: t =>
    if b = close then some ([], c :: t)
    else if b = '(' && close = ')' then none
    else if b = Byte.backslash then prepend [b, c] (readTitleUntil? close t)
    else prepend [b] (readTitleUntil? close (c :: t))

/-- Read a title. -/
def readTitle? (t : Text) : Option (Text × Text) :=
  match t with
  | [] => none
  | b :: rest =>
    let title :=
      if b = Byte.quote || b = Byte.apostrophe then readTitleUntil? b rest
      else if b = '(' then readTitleUntil? ')' rest
      else none
    title.map fun (title, rest) => (unescape title, rest)

/-- Read the end of a target in place: the closing parenthesis. -/
def readClose? (target : Target) (t : Text) : Option (Target × Text) :=
  match skipGap t with
  | b :: rest => if b = ')' then some (target, rest) else none
  | [] => none

/-- Read a target in place, after its opening parenthesis. -/
def readInline? (t : Text) : Option (Target × Text) :=
  match readClose? ⟨[], []⟩ t with
  | some found => some found
  | none => do
    let (url, afterUrl) ← readUrl? (skipGap t)
    match readClose? ⟨url, []⟩ afterUrl with
    | some found => some found
    | none =>
      let (title, afterTitle) ← readTitle? (skipGap afterUrl)
      readClose? ⟨url, title⟩ afterTitle

end Target

namespace References

/-- The most bytes that a label can have. -/
def longestLabel : Nat := 999

/-- Read a label up to its closing bracket; it holds no opening bracket. -/
def readLabelText? : Text → Option (Text × Text)
  | [] => none
  | [b] => if b = ']' then some ([], []) else none
  | b :: c :: t =>
    if b = ']' then some ([], c :: t)
    else if b = '[' then none
    else if b = Byte.backslash then prepend [b, c] (readLabelText? t)
    else prepend [b] (readLabelText? (c :: t))

/-- Read a label with its brackets. It must hold something. -/
def readLabel? (t : Text) : Option (Text × Text) := do
  let afterBracket ← ("[" : Text).isPrefixOf? t
  let (label, rest) ← readLabelText? afterBracket
  if label.length ≤ longestLabel && !label.all isGap then some (label, rest) else none

/-- Whether a label holds no bracket that is not escaped. -/
def isPlainLabel : Text → Bool
  | [] => true
  | [b] => b != '[' && b != ']'
  | b :: c :: t =>
    if b = Byte.backslash then isPlainLabel t
    else b != '[' && b != ']' && isPlainLabel (c :: t)

/-- The form of a label that decides which labels are the same: case is folded and every gap is one
space. -/
def normalized (label : Text) : Text :=
  Text.fold (Text.join " " ((Text.splitWhere isGap label).filter (!·.isEmpty)))

/-- The target of a label. -/
def find? (references : References) (label : Text) : Option Target :=
  if isPlainLabel label then
    (references.lookup (normalized label))
  else none

/-- Define a label, unless it is defined already. -/
def define (references : References) (label : Text) (target : Target) : References :=
  if (references.lookup (normalized label)).isSome then references
  else references ++ [(normalized label, target)]

/-- What follows the end of a line, if only spaces and tabs stand before it. -/
def lineEnd? (t : Text) : Option Text :=
  match t.dropWhile Byte.isBlank with
  | [] => some []
  | b :: rest => if b = '\n' then some rest else none

/-- Read the title of a definition, on the line of the destination or on the next. Where no title
ends its line there is none, and the definition ends with its destination. -/
def readDefinedTitle? (t : Text) : Option (Text × Text) :=
  let started :=
    match lineEnd? t with
    | some later => some (later.dropWhile Byte.isBlank)
    | none => if t.head?.any Byte.isBlank then some (t.dropWhile Byte.isBlank) else none
  let titled := do
    let (title, rest) ← Target.readTitle? (← started)
    return (title, ← lineEnd? rest)
  match titled with
  | some found => some found
  | none => (lineEnd? t).map fun rest => ([], rest)

/-- Read one definition: its label, its target and the text after it. -/
def readDefinition? (t : Text) : Option (Text × Target × Text) := do
  let (label, afterLabel) ← readLabel? (skipGap t)
  let afterColon ← (":" : Text).isPrefixOf? afterLabel
  let (url, afterUrl) ← Target.readUrl? (skipGap afterColon)
  let (title, rest) ← readDefinedTitle? afterUrl
  return (label, ⟨url, title⟩, rest)

/-- Take the definitions at the start of a paragraph away and record them. The first argument bounds
their number. -/
def takeDefinitions : Nat → References → Text → References × Text
  | 0, references, t => (references, t)
  | bound + 1, references, t =>
    match readDefinition? t with
    | some (label, target, rest) =>
      takeDefinitions bound (references.define label target) (skipGap rest)
    | none => (references, t)

end References

end DocBlock.Markdown
