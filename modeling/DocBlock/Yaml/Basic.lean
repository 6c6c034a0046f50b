import DocBlock.Json.Basic
import DocBlock.Yaml.Scalar

/-!
# YAML

How a JSON value is written as YAML: in block style, two columns for each level of an object, and
the items of an array in the column of the name they belong to. A string of several lines that
needs no quotes is a literal block.
-/

namespace DocBlock.Yaml

/-- The spaces before a column. -/
def margin (column : Nat) : Text := List.replicate column ' '

/-- The header of a literal block: it tells what becomes of the line feeds at its end. -/
def blockHeader (t : Text) : Text :=
  if ("\n\n" : Text).isSuffixOf t then "|+"
  else if t.getLast? == some '\n' then "|"
  else "|-"

/-- The lines of a literal block in a column. The empty line after a final line feed is left out,
and then a margin at the very end. -/
def blockLines (column : Nat) (t : Text) : Text :=
  let shown := Text.lines (if t.getLast? == some '\n' then t.dropLast else t)
  let block := Text.join "\n" (shown.map (margin column ++ ·))
  if (margin column).isSuffixOf block then block.take (block.length - column) else block

/-- A well-formed string as a value in a column. -/
def wellFormedScalar (column : Nat) (t : Text) : Text :=
  if needsQuotes t then Text.quoted t
  else if Text.contains "\n" t then blockHeader t ++ "\n" ++ blockLines column t
  else t

/-- A string as a value in a column. -/
def scalar (column : Nat) (t : Text) : Text := wellFormedScalar column (Text.repaired t)

/-- A name in front of a value. -/
def key (t : Text) : Text :=
  if needsQuotes (Text.repaired t) then Text.quoted (Text.repaired t) else Text.repaired t

mutual

/-- A value after the name of a field in a column. -/
def afterName (column : Nat) : Json → Text
  | .null => " null\n"
  | .bool b => if b then " true\n" else " false\n"
  | .number n => " " ++ Text.ofInt n ++ "\n"
  | .string t => " " ++ scalar (column + 2) t ++ "\n"
  | .array [] => " []\n"
  | .array (item :: items) =>
    "\n" ++ margin column ++ afterDash column item ++ printItems column items
  | .object [] => " " ++ [Byte.leftBrace, Byte.rightBrace] ++ "\n"
  | .object ((name, value) :: fields) =>
    "\n" ++ margin (column + 2) ++ key name ++ ":" ++ afterName (column + 2) value
      ++ printFields (column + 2) fields

/-- The item of an array with its dash in a column. -/
def afterDash (column : Nat) : Json → Text
  | .null => "- null\n"
  | .bool b => if b then "- true\n" else "- false\n"
  | .number n => "- " ++ Text.ofInt n ++ "\n"
  | .string t => "- " ++ scalar (column + 2) t ++ "\n"
  | .array [] => "- []\n"
  | .array (item :: items) =>
    "- " ++ afterDash (column + 2) item ++ printItems (column + 2) items
  | .object [] => "- " ++ [Byte.leftBrace, Byte.rightBrace] ++ "\n"
  | .object ((name, value) :: fields) =>
    "- " ++ key name ++ ":" ++ afterName (column + 2) value ++ printFields (column + 2) fields

/-- The items of an array after its first. -/
def printItems (column : Nat) : List Json → Text
  | [] => []
  | item :: items => margin column ++ afterDash column item ++ printItems column items

/-- The fields of an object after its first. -/
def printFields (column : Nat) : List (Text × Json) → Text
  | [] => []
  | (name, value) :: fields =>
    margin column ++ key name ++ ":" ++ afterName column value ++ printFields column fields

end

/-- A value as a document. -/
def print : Json → Text
  | .null => "null\n"
  | .bool b => if b then "true\n" else "false\n"
  | .number n => Text.ofInt n ++ "\n"
  | .string t => scalar 0 t ++ "\n"
  | .array items => if items.isEmpty then "[]\n" else printItems 0 items
  | .object fields =>
    if fields.isEmpty then [Byte.leftBrace, Byte.rightBrace, '\n'] else printFields 0 fields

/-- A value as a document, for a conversion that could refuse it. None is refused. -/
def convert (value : Json) : Except Text Text := .ok (print value)

end DocBlock.Yaml
