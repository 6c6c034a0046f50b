import DocBlock.Document
import DocBlock.Proofs.Extraction.WellFormed
import DocBlock.Proofs.Schema.Validation

/-!
# Documents fit their schema

A document is the list of the comments of a file as JSON, and there is a schema for it, which the
program publishes. Each part of a comment has a schema of its own in there, and its JSON form is
covered by that schema (`covers_ofDeclaration`, `covers_ofDescription`, `covers_ofTag`). Tags and
comments refer to each other in the schema as they do in a document, where a `@detail` tag holds the
comments of the file that it includes, so the two are covered together.

> `validates_ofFile_iff`: the schema accepts every list of comments that is not empty;
> `describes_ofFile`: it lists every field of every object in a document;
> `extraction_fitsSchema`: both hold of whatever is extracted, since that is never empty.
-/

namespace DocBlock

open Schema (ListsField)

namespace DocumentSchema

/-- The schema of the comments of a file, as it is published. -/
def published : Json := comments.toJson

theorem covers_definition {name : Text} {schema : Schema}
    (hname : comments.definitions.lookup name = some schema) {value : Json}
    (h : schema.Covers published value) : (Schema.reference name).Covers published value := by
  refine Schema.covers_reference ?_ h
  rw [published, definition?_toJson, hname]
  rfl

end DocumentSchema

namespace Document

open DocumentSchema (published)

section
variable {properties : List (Text × Schema)} {name description : Text}

theorem lists_text (h : properties.lookup name = some (.text description)) (t : Text) :
    ListsField published properties name (.string t) :=
  ⟨_, h, Schema.covers_text description t⟩

theorem lists_texts (h : properties.lookup name = some (.array description (.text "")))
    (ts : List Text) : ListsField published properties name (Json.strings ts) := by
  refine ⟨_, h, Schema.covers_array ?_ description⟩
  intro item hitem
  obtain ⟨t, -, rfl⟩ := List.mem_map.mp hitem
  exact Schema.covers_text "" t

end

theorem covers_ofDeclaration (d : Declaration) :
    Schema.context.Covers published (ofDeclaration d) := by
  refine Schema.covers_object ?_ ?_
  · simp [Json.textField]
  · refine .append (.append (.append (.append (.append ?_ ?_) ?_) ?_) ?_) ?_
    · refine Json.allFields_textField ⟨_, rfl, Schema.covers_string (Or.inr ?_) []⟩
      cases d <;> simp [Declaration.kind]
    · exact Json.allFields_optionalField (lists_text rfl _)
    · exact Json.allFields_optionalField (lists_text rfl _)
    · exact Json.allFields_textField (lists_text rfl _)
    · exact Json.allFields_optionalField (lists_text rfl _)
    · exact Json.allFields_textField (lists_text rfl _)

theorem covers_ofDescription (d : Description) :
    Schema.description.Covers published (ofDescription d) := by
  refine Schema.covers_object ?_ (.append (.append ?_ ?_) ?_)
  · simp [Json.textField]
  · exact Json.allFields_textField (lists_text rfl _)
  · exact Json.allFields_textField (lists_text rfl _)
  · exact Json.allFields_textField (lists_text rfl _)

theorem covers_commentFields (declaration : Option Declaration) (code : Text)
    (description : Description) {tags : List Json} (isPrivate isBanner : Bool)
    (htags : ∀ tag ∈ tags, (Schema.reference "tag").Covers published tag) :
    Schema.comment.Covers published
      (.object (commentFields declaration code description tags isPrivate isBanner)) := by
  refine Schema.covers_object ?_ ?_
  · simp [commentFields, Json.field]
  · refine .append (.append (.append (.append (.append ?_ ?_) ?_) ?_) ?_) ?_
    · cases declaration with
      | none => exact Json.allFields_nil
      | some d =>
        exact Json.allFields_field
          ⟨_, rfl, DocumentSchema.covers_definition rfl (covers_ofDeclaration d)⟩
    · exact Json.allFields_optionalField (lists_text rfl _)
    · exact Json.allFields_field ⟨_, rfl, covers_ofDescription description⟩
    · exact Json.allFields_field ⟨_, rfl, Schema.covers_array htags _⟩
    · exact Json.allFields_field ⟨_, rfl, Schema.covers_bool _ _⟩
    · exact Json.allFields_field ⟨_, rfl, Schema.covers_bool _ _⟩

/-! ## Tags, and the comments inside them -/

mutual

theorem covers_ofInclusion (description : Text) : ∀ inclusion : Inclusion,
    (Schema.anyOf description [.text "", .array "" (.reference "comment")]).Covers published
      (ofInclusion inclusion)
  | .reference path =>
    Schema.covers_anyOf (List.mem_cons_self ..) (Schema.covers_text "" path) description
  | .contents _ comments => by
    refine Schema.covers_anyOf (List.mem_cons_of_mem _ (List.mem_cons_self ..)) ?_ description
    exact Schema.covers_array (covers_ofComments comments) ""

theorem covers_ofComments : ∀ comments : List (Comment Inclusion), ∀ value ∈ ofComments comments,
    (Schema.reference "comment").Covers published value
  | [] => fun value h => nomatch h
  | c :: cs => by
    intro value h
    rcases List.mem_cons.mp h with rfl | h
    · exact DocumentSchema.covers_definition rfl (covers_ofComment c)
    · exact covers_ofComments cs value h

theorem covers_ofComment : ∀ c : Comment Inclusion, Schema.comment.Covers published (ofComment c)
  | ⟨declaration, code, description, tags, isPrivate, isBanner⟩ =>
    covers_commentFields declaration code description isPrivate isBanner (covers_ofTags tags)

theorem covers_ofTags : ∀ tags : List (Tag Inclusion), ∀ value ∈ ofTags tags,
    (Schema.reference "tag").Covers published value
  | [] => fun value h => nomatch h
  | t :: ts => by
    intro value h
    rcases List.mem_cons.mp h with rfl | h
    · exact DocumentSchema.covers_definition rfl (covers_ofTag t)
    · exact covers_ofTags ts value h

theorem covers_ofTag : ∀ t : Tag Inclusion, Schema.tag.Covers published (ofTag t)
  | .param types name description => by
    refine Schema.covers_object (by simp [Json.textField]) (.append (.append (.append ?_ ?_) ?_) ?_)
    · exact Json.allFields_textField (lists_text rfl _)
    · exact Json.allFields_textField (lists_text rfl name)
    · exact Json.allFields_textField (lists_text rfl description)
    · exact Json.allFields_field (lists_texts rfl types)
  | .returns types description => by
    refine Schema.covers_object (by simp [Json.textField]) (.append (.append ?_ ?_) ?_)
    · exact Json.allFields_textField (lists_text rfl _)
    · exact Json.allFields_textField (lists_text rfl description)
    · exact Json.allFields_field (lists_texts rfl types)
  | .see title url reference visibility => by
    refine Schema.covers_object (by simp [Json.textField])
      (.append (.append (.append (.append ?_ ?_) ?_) ?_) ?_)
    · exact Json.allFields_textField (lists_text rfl _)
    · exact Json.allFields_optionalField (lists_text rfl title)
    · exact Json.allFields_optionalField (lists_text rfl url)
    · exact Json.allFields_optionalField (lists_text rfl reference)
    · exact Json.allFields_optionalField (lists_text rfl visibility)
  | .api visibility => by
    refine Schema.covers_object (by simp [Json.textField]) (.append ?_ ?_)
    · exact Json.allFields_textField (lists_text rfl _)
    · exact Json.allFields_optionalField (lists_text rfl visibility)
  | .type types => by
    refine Schema.covers_object (by simp [Json.textField]) (.append ?_ ?_)
    · exact Json.allFields_textField (lists_text rfl _)
    · exact Json.allFields_field (lists_texts rfl types)
  | .memberOf parent => by
    refine Schema.covers_object (by simp [Json.textField]) (.append ?_ ?_)
    · exact Json.allFields_textField (lists_text rfl _)
    · exact Json.allFields_optionalField (lists_text rfl parent)
  | .augments base => by
    refine Schema.covers_object (by simp [Json.textField]) (.append ?_ ?_)
    · exact Json.allFields_textField (lists_text rfl _)
    · exact Json.allFields_optionalField (lists_text rfl base)
  | .borrows source target => by
    refine Schema.covers_object (by simp [Json.textField]) (.append (.append ?_ ?_) ?_)
    · exact Json.allFields_textField (lists_text rfl _)
    · exact Json.allFields_textField (lists_text rfl source)
    · exact Json.allFields_optionalField (lists_text rfl target)
  | .detail content => by
    refine Schema.covers_object (by simp [Json.textField]) (.append ?_ ?_)
    · exact Json.allFields_field ⟨_, rfl, covers_ofInclusion _ content⟩
    · exact Json.allFields_textField (lists_text rfl _)
  | .other name text => by
    refine Schema.covers_object (by simp [Json.textField]) (.append ?_ ?_)
    · exact Json.allFields_textField (lists_text rfl name)
    · exact Json.allFields_textField (lists_text rfl text)

end

/-! ## Whole documents -/

theorem ofComments_length (comments : List (Comment Inclusion)) :
    (ofComments comments).length = comments.length := by
  induction comments with
  | nil => rfl
  | cons c cs ih => rw [ofComments, List.length_cons, List.length_cons, ih]

/-- The published schema accepts every list of comments but the empty one. -/
theorem validates_ofFile_iff (comments : List (Comment Inclusion)) :
    Json.Validates published published (ofFile comments) ↔ comments ≠ [] := by
  have hitems := covers_ofComments comments
  rw [published, ofFile, DocumentSchema.validates_array_iff hitems, ofComments_length]
  exact List.length_pos_iff

/-- The published schema lists every field that a document has. -/
theorem describes_ofFile (comments : List (Comment Inclusion)) :
    Json.Describes published published (ofFile comments) :=
  DocumentSchema.describes_array (covers_ofComments comments)

/-- The document of whatever is extracted is valid for the published schema, which lists every field
of every object in it, the comments of included files too. -/
theorem extraction_fitsSchema {ε : Type} (load : Loader ε) (reading : Reading) (depth : Int)
    (path : Text) :
    (∀ t comments, (Extraction.ofSource load reading depth path t).result = .ok comments →
      Json.Validates published published (ofFile comments) ∧
        Json.Describes published published (ofFile comments)) ∧
    ∀ comments, (Extraction.extract load reading depth path).result = .ok comments →
      Json.Validates published published (ofFile comments) ∧
        Json.Describes published published (ofFile comments) := by
  have hsource : ∀ t comments,
      (Extraction.ofSource load reading depth path t).result = .ok comments →
        Json.Validates published published (ofFile comments) ∧
          Json.Describes published published (ofFile comments) := by
    intro t comments hread
    have hne := Extraction.ne_nil_of_ofSource hread
    exact ⟨(validates_ofFile_iff comments).mpr hne, describes_ofFile comments⟩
  refine ⟨hsource, fun comments hread => ?_⟩
  obtain ⟨t, ht⟩ := Extraction.ofSource_of_extract hread
  exact hsource t comments ht

/-- A file that includes itself once. -/
theorem extraction_fitsSchema_included :
    ∃ comments, (Extraction.extract (fun _ => (.ok "/** @detail a */\nvar x = 1;" : Except Unit Text))
        ⟨false, id⟩ 1 "a").result = .ok comments ∧
      (comments.flatMap Comment.details).map Inclusion.isIncluded = [true] ∧
      Json.Validates published published (ofFile comments) ∧
        Json.Describes published published (ofFile comments) := by
  have hincluded : (Extraction.extract
      (fun _ => (.ok "/** @detail a */\nvar x = 1;" : Except Unit Text)) ⟨false, id⟩ 1
        "a").result.toOption.map
          (fun comments => (comments.flatMap Comment.details).map Inclusion.isIncluded)
            = some [true] := by
    decide +kernel
  obtain ⟨comments, hread, hcomments⟩ := exists_ok_of_map_toOption hincluded
  exact ⟨comments, hread, hcomments, (extraction_fitsSchema _ _ _ _).2 comments hread⟩

end Document

end DocBlock
