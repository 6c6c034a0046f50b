import DocBlock.Extraction
import DocBlock.Json.Basic

/-!
# Documents

The JSON form of extracted comments. The fields of an object have a fixed order. A field that says
nothing is left out where its absence says the same: an empty code text, a missing declaration,
the optional words of a tag.

The strings of a document are the texts of the comments, byte by byte. JSON has no stray bytes, so
these get lost when the document is written (`Json.writtenString`).
-/

namespace DocBlock.Document

/-- The JSON form of a declaration. -/
def ofDeclaration (d : Declaration) : Json :=
  .object (Json.textField "type" d.kind
    ++ Json.optionalField "constructor" d.constructor
    ++ Json.optionalField "receiver" d.receiver
    ++ Json.textField "name" d.name
    ++ Json.optionalField "value" d.value
    ++ Json.textField "string" d.display)

/-- The JSON form of a description. -/
def ofDescription (d : Description) : Json :=
  .object (Json.textField "full" d.full
    ++ Json.textField "summary" d.summary
    ++ Json.textField "body" d.body)

/-- The field for a declaration, left out when there is none. -/
def declarationField : Option Declaration → List (Text × Json)
  | none => []
  | some d => Json.field "ctx" (ofDeclaration d)

/-- The fields of a comment around its tags. -/
def commentFields (declaration : Option Declaration) (code : Text) (description : Description)
    (tags : List Json) (isPrivate isBanner : Bool) : List (Text × Json) :=
  declarationField declaration
    ++ Json.optionalField "code" code
    ++ Json.field "description" (ofDescription description)
    ++ Json.field "tags" (.array tags)
    ++ Json.field "isPrivate" (.bool isPrivate)
    ++ Json.field "ignore" (.bool isBanner)

mutual

/-- The JSON form of what a `@detail` tag holds: a path, or comments. -/
def ofInclusion : Inclusion → Json
  | .reference path => .string path
  | .contents _ comments => .array (ofComments comments)

/-- The JSON forms of comments. -/
def ofComments : List (Comment Inclusion) → List Json
  | [] => []
  | c :: cs => ofComment c :: ofComments cs

/-- The JSON form of a comment. -/
def ofComment : Comment Inclusion → Json
  | ⟨declaration, code, description, tags, isPrivate, isBanner⟩ =>
    .object (commentFields declaration code description (ofTags tags) isPrivate isBanner)

/-- The JSON forms of tags. -/
def ofTags : List (Tag Inclusion) → List Json
  | [] => []
  | t :: ts => ofTag t :: ofTags ts

/-- The JSON form of a tag. -/
def ofTag : Tag Inclusion → Json
  | .param types name description =>
    .object (Json.textField "type" "param"
      ++ Json.textField "name" name
      ++ Json.textField "description" description
      ++ Json.field "types" (Json.strings types))
  | .returns types description =>
    .object (Json.textField "type" "return"
      ++ Json.textField "description" description
      ++ Json.field "types" (Json.strings types))
  | .see title url reference visibility =>
    .object (Json.textField "type" "see"
      ++ Json.optionalField "title" title
      ++ Json.optionalField "url" url
      ++ Json.optionalField "local" reference
      ++ Json.optionalField "visibility" visibility)
  | .api visibility =>
    .object (Json.textField "type" "api" ++ Json.optionalField "visibility" visibility)
  | .type types =>
    .object (Json.textField "type" "type" ++ Json.field "types" (Json.strings types))
  | .memberOf parent =>
    .object (Json.textField "type" "memberOf" ++ Json.optionalField "parent" parent)
  | .augments base =>
    .object (Json.textField "type" "augments" ++ Json.optionalField "otherClass" base)
  | .borrows source target =>
    .object (Json.textField "type" "borrows"
      ++ Json.textField "otherMemberName" source
      ++ Json.optionalField "thisMemberName" target)
  | .detail content =>
    .object (Json.field "detail" (ofInclusion content) ++ Json.textField "type" "detail")
  | .other name text => .object (Json.textField "type" name ++ Json.textField "string" text)

end

/-- The document of one file before it is written: the array of its comments. -/
def ofFile (comments : List (Comment Inclusion)) : Json := .array (ofComments comments)

/-- Put the document of a file among those of other files, sorted by path. A path that is already
there gets the new document. -/
def insertFile (path : Text) (document : Json) : List (Text × Json) → List (Text × Json)
  | [] => [(path, document)]
  | (q, d) :: rest =>
    if path = q then (path, document) :: rest
    else if Text.precedes path q then (path, document) :: (q, d) :: rest
    else (q, d) :: insertFile path document rest

/-- The document of several files before it is written: an object with one field for each path, in
byte order. -/
def ofFiles (files : List (Text × List (Comment Inclusion))) : Json :=
  .object (files.foldl (fun acc f => insertFile f.1 (ofFile f.2) acc) [])

end DocBlock.Document
