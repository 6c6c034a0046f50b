import DocBlock.Json.Basic

/-!
# The schema of a document

A JSON Schema for the documents that an extraction gives: an array of comments. Comments, tags and
declarations refer to each other by name, so the schema of a tag can hold comments again.
-/

namespace DocBlock

/-- A schema. An empty description is left out when the schema is written. -/
inductive Schema where
  /-- What the definition with a name accepts. -/
  | reference (name : Text)
  /-- A truth value. -/
  | bool (description : Text)
  /-- A string, one of the choices if there are any. -/
  | string (description : Text) (choices : List Text)
  /-- An array of items. -/
  | array (description : Text) (items : Schema)
  /-- An object that has at least the required fields. -/
  | object (properties : List (Text × Schema)) (required : List Text)
  /-- What one of the alternatives accepts. -/
  | anyOf (description : Text) (alternatives : List Schema)

/-- The schema of a whole document: a list of items, with what its definitions stand for. -/
structure DocumentSchema where
  /-- What the document is called. -/
  title : Text
  /-- What the document holds. -/
  description : Text
  /-- The schema of each item. -/
  items : Schema
  /-- How many items there are at least. -/
  minItems : Nat
  /-- The definitions, by name. -/
  definitions : List (Text × Schema)

namespace Schema

mutual

/-- The JSON form of a schema. -/
def toJson : Schema → Json
  | reference name => .object (Json.textField "$ref" ("#/definitions/" ++ name))
  | bool description =>
    .object (Json.textField "type" "boolean" ++ Json.optionalField "description" description)
  | string description choices =>
    .object (Json.textField "type" "string"
      ++ (if choices.isEmpty then [] else Json.field "enum" (Json.strings choices))
      ++ Json.optionalField "description" description)
  | array description items =>
    .object (Json.textField "type" "array" ++ Json.field "items" (toJson items)
      ++ Json.optionalField "description" description)
  | object properties required =>
    .object (Json.textField "type" "object"
      ++ Json.field "properties" (.object (fieldsToJson properties))
      ++ Json.field "required" (Json.strings required))
  | anyOf description alternatives =>
    .object (Json.optionalField "description" description
      ++ Json.field "anyOf" (.array (allToJson alternatives)))

/-- The JSON forms of named schemas. -/
def fieldsToJson : List (Text × Schema) → List (Text × Json)
  | [] => []
  | (name, schema) :: rest => (name, toJson schema) :: fieldsToJson rest

/-- The JSON forms of schemas. -/
def allToJson : List Schema → List Json
  | [] => []
  | schema :: rest => toJson schema :: allToJson rest

end

/-- A string without choices. -/
def text (description : Text) : Schema := string description []

/-- The schema of a description. -/
def description : Schema :=
  object
    [("body", text "Text after the first blank line."),
      ("full", text "Text before the first tag."),
      ("summary", text "Text up to the first blank line.")]
    ["full", "summary", "body"]

/-- The schema of a comment. -/
def comment : Schema :=
  object
    [("code", text "Code following the comment."),
      ("ctx", reference "context"),
      ("description", description),
      ("ignore", bool "True for comments opened with \"/*!\"."),
      ("isPrivate", bool "True when tagged \"@api private\"."),
      ("tags", array "" (reference "tag"))]
    ["tags", "description", "isPrivate", "ignore"]

/-- The schema of a declaration. -/
def context : Schema :=
  object
    [("constructor", text "Constructor of a prototype member."),
      ("name", text "Declared name."),
      ("receiver", text "Object a member is assigned on."),
      ("string", text "Display form, such as Foo.prototype.bar()."),
      ("type", string "" ["function", "method", "property", "declaration"]),
      ("value", text "Assigned value of a property or declaration.")]
    ["type", "name", "string"]

/-- The schema of a tag. -/
def tag : Schema :=
  object
    [("description", text "@param and @return description."),
      ("detail",
        anyOf "@detail resolved path, or the comments of the included file."
          [text "", array "" (reference "comment")]),
      ("local", text "@see local reference."),
      ("name", text "@param name."),
      ("otherClass", text "@augments class."),
      ("otherMemberName", text "@borrows source member."),
      ("parent", text "@memberOf parent."),
      ("string", text "Text of tags without a dedicated grammar."),
      ("thisMemberName", text "@borrows target member."),
      ("title", text "@see link title."),
      ("type", text "Tag name without the leading \"@\"."),
      ("types", array "Type names of @param, @return and @type." (text "")),
      ("url", text "@see link URL."),
      ("visibility", text "@api (and @see) visibility.")]
    ["type"]

end Schema

namespace DocumentSchema

/-- The dialect of the schema. -/
def dialect : Text := "http://json-schema.org/draft-07/schema#"

/-- The JSON form of the schema of a document. -/
def toJson (s : DocumentSchema) : Json :=
  .object (Json.textField "type" "array"
    ++ Json.field "items" s.items.toJson
    ++ Json.textField "$schema" dialect
    ++ Json.field "definitions" (.object (Schema.fieldsToJson s.definitions))
    ++ Json.textField "title" s.title
    ++ Json.textField "description" s.description
    ++ Json.field "minItems" (.number s.minItems))

/-- The schema of the comments of a file. -/
def comments : DocumentSchema :=
  { title := "dox comments"
    description := "Documentation comments extracted from a source file, in source order."
    items := .reference "comment"
    minItems := 1
    definitions := [("comment", .comment), ("context", .context), ("tag", .tag)] }

end DocumentSchema

end DocBlock
