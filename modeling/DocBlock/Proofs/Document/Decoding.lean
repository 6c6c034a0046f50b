import DocBlock.Proofs.Document.Layout
import DocBlock.Proofs.Document.Repaired

/-!
# Reading a document back

A document says what its comments are, but for the paths of the files that are included: where the
comments of a file stand, its path does not. `file?` reads comments from a document, one field at a
time, and `Inclusion.forgotten` is what a document keeps of a tree.

Not every tree can be read back. A tag is told by its name, so a name with a grammar of its own must
not stand on a tag that only keeps its words; and the owner of a member is told by which of two
fields is there, so a constructor must have a name (`Comment.Legible`). Both hold of whatever is
read from a source text, at every level:

> `ofSource_recovered`: the JSON value of a result is read back as the result, less its stray bytes
> and the paths of the files that are included; so two results with the same value differ in nothing
> else.
-/

namespace DocBlock

namespace Inclusion

/-- The tree without the paths of the files that are included. -/
def forgotten : Inclusion → Inclusion := fold .reference fun _ comments => .contents [] comments

theorem forgotten_contents (path : Text) (comments : List (Comment Inclusion)) :
    (contents path comments).forgotten = .contents [] (comments.map (Comment.map forgotten)) :=
  fold_contents _ _ path comments

end Inclusion

/-- A comment that a document can be read back to: a member has an owner with a name, and every tag
is of the kind that its name selects. -/
structure Comment.Legible {Δ : Type} (c : Comment Δ) : Prop where
  owner : ∀ d ∈ c.declaration, ∀ owner ∈ d.owner?, owner.word ≠ []
  kind : ∀ tag ∈ c.tags, tag.kind = .ofName tag.name

theorem Comment.WellFormed.legible {Δ : Type} {c : Comment Δ} (h : c.WellFormed) : c.Legible where
  owner := by
    intro d hd owner howner
    rw [h.declaration] at hd
    exact ((Declaration.declares_of_infer? hd).owner owner howner).1
  kind := h.kind

/-! ## Stray bytes -/

/-- Only the name of a kind is repaired to one. -/
theorem Tag.Kind.ofName_repaired (name : Text) :
    Kind.ofName (Text.repaired name) = Kind.ofName name := by
  have hnames : ∀ n ∈ names, Text.IsAscii n := by decide
  by_cases hrepaired : Text.repaired name ∈ names
  · rw [Text.repaired_eq_self_of_isAscii (hnames _ hrepaired)]
  · have hname : name ∉ names := by
      intro hmem
      rw [Text.repaired_eq_self (hnames name hmem).isWellFormed] at hrepaired
      exact hrepaired hmem
    rw [Kind.ofName_of_not_mem hrepaired, Kind.ofName_of_not_mem hname]

section
variable {Δ : Type}

theorem Tag.kind_repaired (t : Tag Δ) : t.repaired.kind = t.kind := by
  cases t <;> rfl

theorem Tag.name_repaired (t : Tag Δ) : t.repaired.name = Text.repaired t.name := by
  cases t <;> rfl

theorem Tag.detail?_repaired (t : Tag Δ) : t.repaired.detail? = t.detail? := by
  cases t <;> rfl

theorem Comment.details_repaired (c : Comment Δ) : c.repaired.details = c.details := by
  show (c.tags.map Tag.repaired).filterMap Tag.detail? = _
  rw [List.filterMap_map]
  congr 1
  funext t
  exact Tag.detail?_repaired t

theorem Comment.Legible.map {Γ : Type} {c : Comment Δ} (h : c.Legible) (f : Δ → Γ) :
    (c.map f).Legible where
  owner := h.owner
  kind := by
    intro tag htag
    obtain ⟨t, ht, rfl⟩ := List.mem_map.mp htag
    have hkind := h.kind t ht
    cases t <;> exact hkind

theorem Comment.Legible.repaired {c : Comment Δ} (h : c.Legible) : c.repaired.Legible where
  owner := by
    intro d hd owner howner
    obtain ⟨plain, hplain, rfl⟩ := Option.map_eq_some_iff.mp hd
    rw [Declaration.owner?_repaired] at howner
    obtain ⟨named, hnamed, rfl⟩ := Option.map_eq_some_iff.mp howner
    have hword : named.repaired.word = Text.repaired named.word := by
      cases named <;> rfl
    rw [hword, ne_eq, Text.repaired_eq_nil_iff]
    exact h.owner plain hplain named hnamed
  kind := by
    intro tag htag
    obtain ⟨t, ht, rfl⟩ := List.mem_map.mp htag
    rw [Tag.kind_repaired, Tag.name_repaired, Tag.Kind.ofName_repaired]
    exact h.kind t ht

end

/-- A tree that can be read back can be without its stray bytes. -/
theorem Inclusion.Everywhere.repaired {inclusion : Inclusion}
    (h : inclusion.Everywhere Comment.Legible) : inclusion.repaired.Everywhere Comment.Legible := by
  induction h with
  | reference path => exact .reference _
  | @contents path comments own inner ih =>
    rw [Inclusion.repaired_contents]
    refine .contents _ (fun c hc => ?_) fun c hc inclusion hinclusion => ?_
    · obtain ⟨plain, hplain, rfl⟩ := List.mem_map.mp hc
      exact ((own plain hplain).map Inclusion.repaired).repaired
    · obtain ⟨plain, hplain, rfl⟩ := List.mem_map.mp hc
      rw [Comment.repairedTree, Comment.details_repaired, Comment.details_map] at hinclusion
      obtain ⟨below, hbelow, rfl⟩ := List.mem_map.mp hinclusion
      exact ih plain hplain below hbelow

/-- What is kept of a comment: neither its stray bytes nor the paths of the files that it
includes. -/
def Comment.kept (c : Comment Inclusion) : Comment Inclusion :=
  c.repairedTree.map Inclusion.forgotten

/-! ## Fields -/

namespace Json

def asText? : Json → Option Text
  | string t => some t
  | _ => none

def asTexts? : Json → Option (List Text)
  | array items => items.mapM asText?
  | _ => none

def asBool? : Json → Option Bool
  | bool b => some b
  | _ => none

/-- A text that is left out when it is empty. -/
def orEmpty? : Option Json → Option Text
  | none => some []
  | some value => asText? value

def text? (name : Text) (value : Json) : Option Text := (value.field? name).bind asText?

def texts? (name : Text) (value : Json) : Option (List Text) := (value.field? name).bind asTexts?

def bool? (name : Text) (value : Json) : Option Bool := (value.field? name).bind asBool?

def optionalText? (name : Text) (value : Json) : Option Text := orEmpty? (value.field? name)

section
variable {name other : Text}

@[simp] theorem field?_append (fs gs : List (Text × Json)) :
    field? name (object (fs ++ gs)) = (field? name (object fs)).or (field? name (object gs)) := by
  rw [field?, List.find?_append, Option.map_or]
  rfl

@[simp] theorem field?_field (name : Text) (value : Json) :
    field? name (object (field name value)) = some value := by
  simp [field?, field]

@[simp] theorem field?_field_of_ne (h : other ≠ name) (value : Json) :
    field? name (object (field other value)) = none := by
  simp [field?, field, h]

@[simp] theorem field?_textField (name value : Text) :
    field? name (object (textField name value)) = some (string value) :=
  field?_field name (string value)

@[simp] theorem field?_textField_of_ne (h : other ≠ name) (value : Text) :
    field? name (object (textField other value)) = none :=
  field?_field_of_ne h (string value)

@[simp] theorem field?_optionalField_of_ne (h : other ≠ name) (value : Text) :
    field? name (object (optionalField other value)) = none := by
  unfold optionalField
  split
  · rfl
  · exact field?_field_of_ne h (string value)

@[simp] theorem orEmpty?_optionalField (name value : Text) :
    orEmpty? (field? name (object (optionalField name value))) = some value := by
  cases value with
  | nil => rfl
  | cons b t =>
    show orEmpty? (field? name (object (textField name (b :: t)))) = _
    rw [field?_textField]
    rfl

@[simp] theorem asTexts?_strings (texts : List Text) : asTexts? (strings texts) = some texts := by
  rw [strings, asTexts?, List.mapM_map]
  induction texts with
  | nil => rfl
  | cons t ts ih =>
    rw [List.mapM_cons, ih]
    rfl

end

end Json

/-! ## The reader -/

namespace Document

/-- The owner of a member: of the two fields, one is there. -/
def owner? (value : Json) : Option Owner := do
  let constructor ← value.optionalText? "constructor"
  let receiver ← value.optionalText? "receiver"
  return if constructor.isEmpty then .object receiver else .prototype constructor

def declaration? (value : Json) : Option Declaration := do
  let kind ← value.text? "type"
  let name ← value.text? "name"
  if kind = "function" then return .function name
  else if kind = "method" then return .method (← owner? value) name
  else if kind = "property" then
    return .property (← owner? value) name (← value.optionalText? "value")
  else if kind = "declaration" then return .binding name (← value.optionalText? "value")
  else none

def description? (value : Json) : Option Description := do
  return ⟨← value.text? "full", ← value.text? "summary", ← value.text? "body"⟩

/-- A field that holds a declaration, if there is one. -/
def declarationField? (value : Json) : Option (Option Declaration) :=
  match value.field? "ctx" with
  | none => some none
  | some found => (declaration? found).map some

/-- A tag of a kind and a name, given what its detail is read as. -/
def tagOfKind? (content : Option Inclusion) (value : Json) (name : Text) :
    Tag.Kind → Option (Tag Inclusion)
  | .param => do
    return .param (← value.texts? "types") (← value.text? "name") (← value.text? "description")
  | .returns => do return .returns (← value.texts? "types") (← value.text? "description")
  | .see => do
    return .see (← value.optionalText? "title") (← value.optionalText? "url")
      (← value.optionalText? "local") (← value.optionalText? "visibility")
  | .api => do return .api (← value.optionalText? "visibility")
  | .type => do return .type (← value.texts? "types")
  | .memberOf => do return .memberOf (← value.optionalText? "parent")
  | .augments => do return .augments (← value.optionalText? "otherClass")
  | .borrows => do
    return .borrows (← value.text? "otherMemberName") (← value.optionalText? "thisMemberName")
  | .detail => do return .detail (← content)
  | .other => do return .other name (← value.text? "string")

/-- A tag, given what its detail is read as. -/
def tagWith? (content : Option Inclusion) (value : Json) : Option (Tag Inclusion) := do
  let name ← value.text? "type"
  tagOfKind? content value name (Tag.Kind.ofName name)

/-- A comment, given what its tags are read as. -/
def commentWith? (tags : Option (List (Tag Inclusion))) (value : Json) :
    Option (Comment Inclusion) := do
  return {
    declaration := ← declarationField? value
    code := ← value.optionalText? "code"
    description := ← (value.field? "description").bind description?
    tags := ← tags
    isPrivate := ← value.bool? "isPrivate"
    isBanner := ← value.bool? "ignore" }

mutual

def inclusion? : Json → Option Inclusion
  | .string path => some (.reference path)
  | .array items => (comments? items).map (.contents [])
  | _ => none

def comments? : List Json → Option (List (Comment Inclusion))
  | [] => some []
  | item :: items => do
    let c ← comment? item
    let cs ← comments? items
    return c :: cs

def comment? : Json → Option (Comment Inclusion)
  | .object fields => commentWith? (tagsField? fields) (.object fields)
  | _ => none

/-- The tags in the first field for tags. -/
def tagsField? : List (Text × Json) → Option (List (Tag Inclusion))
  | [] => none
  | (name, value) :: fields => if name = "tags" then tagArray? value else tagsField? fields

def tagArray? : Json → Option (List (Tag Inclusion))
  | .array items => tags? items
  | _ => none

def tags? : List Json → Option (List (Tag Inclusion))
  | [] => some []
  | item :: items => do
    let t ← tag? item
    let ts ← tags? items
    return t :: ts

def tag? : Json → Option (Tag Inclusion)
  | .object fields => tagWith? (detailField? fields) (.object fields)
  | _ => none

/-- What is included by the first field for it. -/
def detailField? : List (Text × Json) → Option Inclusion
  | [] => none
  | (name, value) :: fields => if name = "detail" then inclusion? value else detailField? fields

end

/-- The comments of a file. -/
def file? : Json → Option (List (Comment Inclusion))
  | .array items => comments? items
  | _ => none

theorem tagsField?_eq (fields : List (Text × Json)) :
    tagsField? fields = ((Json.object fields).field? "tags").bind tagArray? := by
  induction fields with
  | nil => rfl
  | cons f fields ih =>
    obtain ⟨name, value⟩ := f
    rw [tagsField?]
    by_cases hname : name = "tags"
    · simp [hname, Json.field?]
    · simpa [hname, Json.field?] using ih

theorem detailField?_eq (fields : List (Text × Json)) :
    detailField? fields = ((Json.object fields).field? "detail").bind inclusion? := by
  induction fields with
  | nil => rfl
  | cons f fields ih =>
    obtain ⟨name, value⟩ := f
    rw [detailField?]
    by_cases hname : name = "detail"
    · simp [hname, Json.field?]
    · simpa [hname, Json.field?] using ih

/-! ## Reading what was written -/

theorem owner?_ofDeclaration {d : Declaration} {owner : Owner} (howner : d.owner? = some owner)
    (hword : owner.word ≠ []) : owner? (ofDeclaration d) = some owner := by
  have hfields : owner? (ofDeclaration d) =
      some (if d.constructor.isEmpty then .object d.receiver else .prototype d.constructor) := by
    simp (disch := decide) [owner?, ofDeclaration, Json.optionalText?]
  rw [hfields]
  cases owner with
  | prototype k =>
    have hconstructor := (Declaration.words_of_prototype howner).1
    have hk : k.isEmpty = false := List.isEmpty_eq_false_iff.mpr hword
    rw [hconstructor, if_neg (by simp [hk])]
  | object r =>
    obtain ⟨hconstructor, hreceiver⟩ := Declaration.words_of_object howner
    rw [hconstructor, hreceiver]
    rfl

theorem declaration?_ofDeclaration {d : Declaration}
    (howner : ∀ owner ∈ d.owner?, owner.word ≠ []) : declaration? (ofDeclaration d) = some d := by
  have hkind : (ofDeclaration d).text? "type" = some d.kind := by
    simp (disch := decide) [ofDeclaration, Json.text?, Json.asText?]
  have hname : (ofDeclaration d).text? "name" = some d.name := by
    simp (disch := decide) [ofDeclaration, Json.text?, Json.asText?]
  have hvalue : (ofDeclaration d).optionalText? "value" = some d.value := by
    simp (disch := decide) [ofDeclaration, Json.optionalText?]
  rw [declaration?, hkind, hname, hvalue]
  cases d with
  | function name => rfl
  | method owner name =>
    rw [owner?_ofDeclaration rfl (howner owner rfl)]
    rfl
  | property owner name value =>
    rw [owner?_ofDeclaration rfl (howner owner rfl)]
    rfl
  | binding name value => rfl

theorem tag?_eq (value : Json) :
    tag? value = tagWith? ((value.field? "detail").bind inclusion?) value := by
  cases value with
  | object fields => rw [tag?, detailField?_eq]
  | _ => rfl

theorem comment?_eq (value : Json) :
    comment? value = commentWith? ((value.field? "tags").bind tagArray?) value := by
  cases value with
  | object fields => rw [comment?, tagsField?_eq]
  | _ => rfl

theorem name_ofTag (t : Tag Inclusion) : (ofTag t).text? "type" = some t.name := by
  cases t <;> simp (disch := decide) [ofTag, Json.text?, Json.asText?, Tag.name]

theorem tag?_ofTag {t : Tag Inclusion} (hkind : t.kind = .ofName t.name)
    (hdetail : ∀ i ∈ t.detail?, inclusion? (ofInclusion i) = some i.forgotten) :
    tag? (ofTag t) = some (t.map Inclusion.forgotten) := by
  rw [tag?_eq, tagWith?, name_ofTag, Option.bind_eq_bind, Option.bind_some, ← hkind]
  cases t with
  | detail content =>
    simp (disch := decide) [Tag.kind, tagOfKind?, ofTag, Tag.map, hdetail content rfl]
  | _ =>
    simp (disch := decide) [Tag.kind, tagOfKind?, ofTag, Json.text?, Json.texts?,
      Json.optionalText?, Json.asText?, Tag.map, Tag.name]

theorem description?_ofDescription (d : Description) :
    description? (ofDescription d) = some d := by
  simp (disch := decide) [description?, ofDescription, Json.text?, Json.asText?]

theorem tags?_ofTags {tags : List (Tag Inclusion)}
    (h : ∀ t ∈ tags, tag? (ofTag t) = some (t.map Inclusion.forgotten)) :
    tags? (ofTags tags) = some (tags.map (Tag.map Inclusion.forgotten)) := by
  induction tags with
  | nil => rfl
  | cons t ts ih =>
    rw [ofTags, tags?, h t (List.mem_cons_self ..), ih fun u hu => h u (List.mem_cons_of_mem _ hu)]
    rfl

theorem comments?_ofComments {comments : List (Comment Inclusion)}
    (h : ∀ c ∈ comments, comment? (ofComment c) = some (c.map Inclusion.forgotten)) :
    comments? (ofComments comments) = some (comments.map (Comment.map Inclusion.forgotten)) := by
  induction comments with
  | nil => rfl
  | cons c cs ih =>
    rw [ofComments, comments?, h c (List.mem_cons_self ..),
      ih fun d hd => h d (List.mem_cons_of_mem _ hd)]
    rfl

@[simp] theorem field?_declarationField_of_ne {name : Text} (h : "ctx" ≠ name)
    (declaration : Option Declaration) :
    Json.field? name (.object (declarationField declaration)) = none := by
  cases declaration with
  | none => rfl
  | some d => exact Json.field?_field_of_ne h _

theorem ofComment_eq (c : Comment Inclusion) :
    ofComment c = .object (commentFields c.declaration c.code c.description (ofTags c.tags)
      c.isPrivate c.isBanner) := by
  cases c
  rfl

theorem comment?_ofComment {c : Comment Inclusion} (hlegible : c.Legible)
    (hdetails : ∀ i ∈ c.details, inclusion? (ofInclusion i) = some i.forgotten) :
    comment? (ofComment c) = some (c.map Inclusion.forgotten) := by
  have htags : tags? (ofTags c.tags) = some (c.tags.map (Tag.map Inclusion.forgotten)) :=
    tags?_ofTags fun t ht => tag?_ofTag (hlegible.kind t ht) fun i hi =>
      hdetails i (List.mem_filterMap.mpr ⟨t, ht, hi⟩)
  have hdeclaration : declarationField? (ofComment c) = some c.declaration := by
    rw [declarationField?, ofComment_eq]
    cases hd : c.declaration with
    | none => simp (disch := decide) [commentFields, declarationField]
    | some d =>
      have hread := declaration?_ofDeclaration (hlegible.owner d hd)
      simp [commentFields, declarationField, hread]
  rw [comment?_eq, commentWith?, hdeclaration]
  simp (disch := decide) [ofComment_eq, commentFields, Json.optionalText?, Json.bool?, Json.asBool?,
    description?_ofDescription, tagArray?, htags, Comment.map]

/-- A tree is read back as what a document keeps of it. -/
theorem inclusion?_ofInclusion {inclusion : Inclusion} (h : inclusion.Everywhere Comment.Legible) :
    inclusion? (ofInclusion inclusion) = some inclusion.forgotten := by
  induction h with
  | reference path => rfl
  | contents path own inner ih =>
    have hcomments := comments?_ofComments fun c hc => comment?_ofComment (own c hc) (ih c hc)
    rw [ofInclusion, inclusion?, hcomments, Inclusion.forgotten_contents]
    rfl

/-- Whatever is extracted can be read back, at every level. -/
theorem everywhere_legible {ε : Type} {load : Loader ε} {reading : Reading} {depth : Int}
    {path t : Text} {result : List (Comment Inclusion)}
    (h : (Extraction.ofSource load reading depth path t).result = .ok result) :
    (Inclusion.contents path result).Everywhere Comment.Legible :=
  Extraction.everywhere_of_ofSource (Q := fun _ _ => True)
    (fun _ _ _ _ _ hread _ hc => (Extraction.wellFormed_of_ofSource hread hc).legible)
    (fun _ _ _ _ _ _ => trivial) trivial h

theorem file?_ofFile {path : Text} {comments : List (Comment Inclusion)}
    (h : (Inclusion.contents path comments).Everywhere Comment.Legible) :
    file? (ofFile comments) = some (comments.map (Comment.map Inclusion.forgotten)) := by
  have hread := inclusion?_ofInclusion h
  rw [ofInclusion, inclusion?, Inclusion.forgotten_contents] at hread
  obtain ⟨read, hread, hcontents⟩ := Option.map_eq_some_iff.mp hread
  rw [ofFile, file?, hread, (Inclusion.contents.inj hcontents).2]

/-! ## The value of a result -/

/-- The JSON value of comments: what is read from their document once it is printed. -/
def value (comments : List (Comment Inclusion)) : Json := (ofFile comments).repaired

/-- A result whose document shows well-formed texts alone has this document as its value. -/
theorem value_eq_ofFile {comments : List (Comment Inclusion)}
    (h : ∀ s ∈ comments.flatMap (Comment.texts Inclusion.shown), Text.isWellFormed s = true) :
    value comments = ofFile comments :=
  Json.repaired_eq_self _ (WellFormed.file h).isWellFormed

/-- The value of comments is read back as the comments without their stray bytes. -/
theorem file?_value {path : Text} {comments : List (Comment Inclusion)}
    (h : (Inclusion.contents path comments).Everywhere Comment.Legible) :
    file? (value comments) = some (comments.map Comment.kept) := by
  have hrepaired := h.repaired
  rw [Inclusion.repaired_contents] at hrepaired
  rw [value, repaired_ofFile, file?_ofFile hrepaired, List.map_map]
  rfl

/-- Documents that are printed alike have the same value. -/
theorem value_eq_of_print_eq {first second : List (Comment Inclusion)} {indent : Nat}
    (h : Json.print indent (ofFile first) = Json.print indent (ofFile second)) :
    value first = value second := by
  have hfirst : Json.read? (Json.print indent (ofFile first)) = some (value first) :=
    Json.read?_print _ indent
  have hsecond : Json.read? (Json.print indent (ofFile second)) = some (value second) :=
    Json.read?_print _ indent
  rw [h, hsecond] at hfirst
  exact (Option.some.inj hfirst).symm

/-- A source text with a comment that holds one byte. -/
def strayText (b : UInt8) : Text := "/** " ++ [b] ++ " */"

/-- The comment of `strayText`. -/
def strayComment (b : UInt8) : Comment Inclusion := ⟨none, [], ⟨[b], [b], []⟩, [], false, false⟩

end Document

end DocBlock
