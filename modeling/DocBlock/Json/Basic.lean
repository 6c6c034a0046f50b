import DocBlock.Text.Character

/-!
# JSON

JSON values and how they are written. A string is a text: its characters are written as they are,
except for those that must be escaped, and a stray byte is written as the escape of the
replacement character. Objects keep the order of their fields.

`Json.print` writes a value on one line when the indentation is zero, and otherwise with every
item and field on a line of its own.
-/

namespace DocBlock

/-- A JSON value. -/
inductive Json where
  /-- The null value. -/
  | null
  /-- A truth value. -/
  | bool (b : Bool)
  /-- A whole number. -/
  | number (n : Int)
  /-- A string. -/
  | string (t : Text)
  /-- An array. -/
  | array (items : List Json)
  /-- An object: named fields in order. -/
  | object (fields : List (Text × Json))

namespace Json

/-- Which of the characters that need no escape are escaped all the same. -/
structure Escaping where
  /-- Whether the angle brackets and the ampersand are escaped, so that the output can stand in
  a page. -/
  markup : Bool
  deriving DecidableEq, Repr

/-- Documents can be pasted into a page. -/
def Escaping.document : Escaping := ⟨true⟩

/-- Log lines are read by people and keep their markup. -/
def Escaping.log : Escaping := ⟨false⟩

/-- An escape of four hexadecimal digits. -/
def unicodeEscape (n : Nat) : Text := Byte.backslash :: 'u' :: Text.hexadecimal 4 n

/-- A backslash before a byte. -/
def shortEscape (b : UInt8) : Text := [Byte.backslash, b]

/-- A character as it is written inside a string. -/
def writtenCharacter (escaping : Escaping) (c : Text) : Text :=
  match Text.codePoint c with
  | none => unicodeEscape 0xFFFD
  | some n =>
    if n = 0x22 then shortEscape Byte.quote
    else if n = 0x5C then shortEscape Byte.backslash
    else if n = 0x08 then shortEscape 'b'
    else if n = 0x0C then shortEscape 'f'
    else if n = 0x0A then shortEscape 'n'
    else if n = 0x0D then shortEscape 'r'
    else if n = 0x09 then shortEscape 't'
    else if n < 0x20 then unicodeEscape n
    else if n = 0x2028 || n = 0x2029 then unicodeEscape n
    else if escaping.markup && (n = 0x3C || n = 0x3E || n = 0x26) then unicodeEscape n
    else c

/-- A string as it is written, with its quotation marks. -/
def writtenString (escaping : Escaping) (t : Text) : Text :=
  [Byte.quote] ++ (Text.characters t).flatMap (writtenCharacter escaping) ++ [Byte.quote]

/-- The break before an item at `depth`: nothing on one line, else a new line and its indentation. -/
def lineBreak (indent depth : Nat) : Text :=
  if indent = 0 then [] else '\n' :: Text.spaces (indent * depth)

/-- What stands between the name of a field and its value. -/
def colon (indent : Nat) : Text := if indent = 0 then ":" else ": "

mutual

/-- A value as it is written at `depth`, with `indent` spaces for each level. -/
def printAt (escaping : Escaping) (indent depth : Nat) : Json → Text
  | null => "null"
  | bool b => if b then "true" else "false"
  | number n => Text.ofInt n
  | string t => writtenString escaping t
  | array [] => "[]"
  | array (item :: items) =>
    "[" ++ lineBreak indent (depth + 1) ++ printAt escaping indent (depth + 1) item
      ++ printItems escaping indent (depth + 1) items ++ lineBreak indent depth ++ "]"
  | object [] => [Byte.leftBrace, Byte.rightBrace]
  | object ((name, value) :: fields) =>
    [Byte.leftBrace] ++ lineBreak indent (depth + 1) ++ writtenString escaping name
      ++ colon indent ++ printAt escaping indent (depth + 1) value
      ++ printFields escaping indent (depth + 1) fields ++ lineBreak indent depth
      ++ [Byte.rightBrace]

/-- The items of an array after its first. -/
def printItems (escaping : Escaping) (indent depth : Nat) : List Json → Text
  | [] => []
  | item :: items =>
    "," ++ lineBreak indent depth ++ printAt escaping indent depth item
      ++ printItems escaping indent depth items

/-- The fields of an object after its first. -/
def printFields (escaping : Escaping) (indent depth : Nat) : List (Text × Json) → Text
  | [] => []
  | (name, value) :: fields =>
    "," ++ lineBreak indent depth ++ writtenString escaping name ++ colon indent
      ++ printAt escaping indent depth value ++ printFields escaping indent depth fields

end

/-- A value as a document writes it, with `indent` spaces for each level. -/
def print (indent : Nat) (value : Json) : Text := printAt .document indent 0 value

/-- A field with a value, as a list of one. -/
def field (name : Text) (value : Json) : List (Text × Json) := [(name, value)]

/-- A field with a text, as a list of one. -/
def textField (name value : Text) : List (Text × Json) := [(name, string value)]

/-- A field that is left out when its text is empty. -/
def optionalField (name value : Text) : List (Text × Json) :=
  if value.isEmpty then [] else [(name, string value)]

/-- An array of strings. -/
def strings (texts : List Text) : Json := array (texts.map string)

/-- The first field of an object with the given name. -/
def field? (name : Text) : Json → Option Json
  | object fields => (fields.find? fun f => f.1 == name).map Prod.snd
  | _ => none

end Json

end DocBlock
