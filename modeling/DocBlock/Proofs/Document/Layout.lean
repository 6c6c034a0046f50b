import DocBlock.Options
import DocBlock.Proofs.Extraction.Encoding
import DocBlock.Proofs.Json.Layout
import DocBlock.Proofs.Schema.Validation

/-!
# Documents are read back at every indentation

The strings of a document are the texts of its comments, with fixed words between them. So where
these texts are well-formed, the document is, and what holds of the layout of a value holds of it:

> `write_readsBack`: at every indentation a document is one JSON text and a line feed. The text is
> read back as the document, and without its white space it is the text on one line.
-/

namespace DocBlock

open Text (isWellFormed)

namespace Inclusion

/-- The texts of a tree that its document shows. The path of a file that is included is not among
them. -/
def shown : Inclusion → List Text :=
  fold (fun path => [path]) fun _ comments => comments.flatMap (Comment.texts id)

theorem shown_contents (path : Text) (comments : List (Comment Inclusion)) :
    (contents path comments).shown = comments.flatMap (Comment.texts shown) := by
  rw [shown, fold_contents, List.flatMap_map]
  congr 1
  funext c
  exact Comment.texts_map id _ c

end Inclusion

namespace Document

/-! ## Fields -/

/-- The name and the value of a field are well-formed. -/
abbrev FieldFits (name : Text) (part : Json) : Prop :=
  isWellFormed name = true ∧ part.IsWellFormed

section
variable {name value : Text} {fields : List (Text × Json)}

theorem isWellFormed_fields (h : Json.AllFields FieldFits fields) :
    (Json.object fields).IsWellFormed :=
  Json.isWellFormed_object fun f hf => h f.1 f.2 hf

theorem fits_text (h : isWellFormed value = true)
    (hname : isWellFormed name = true := by decide) :
    Json.AllFields FieldFits (Json.textField name value) :=
  Json.allFields_textField ⟨hname, Json.isWellFormed_string.mpr h⟩

theorem fits_optional (h : isWellFormed value = true)
    (hname : isWellFormed name = true := by decide) :
    Json.AllFields FieldFits (Json.optionalField name value) :=
  Json.allFields_optionalField ⟨hname, Json.isWellFormed_string.mpr h⟩

theorem fits_field {part : Json} (h : part.IsWellFormed)
    (hname : isWellFormed name = true := by decide) :
    Json.AllFields FieldFits (Json.field name part) :=
  Json.allFields_field ⟨hname, h⟩

theorem isWellFormed_strings {texts : List Text} (h : ∀ s ∈ texts, isWellFormed s = true) :
    (Json.strings texts).IsWellFormed := by
  refine Json.isWellFormed_array fun v hv => ?_
  obtain ⟨s, hs, rfl⟩ := List.mem_map.mp hv
  exact Json.isWellFormed_string.mpr (h s hs)

end

/-! ## Comments -/

theorem isWellFormed_ofDeclaration {d : Declaration}
    (h : ∀ s ∈ d.texts, isWellFormed s = true) : (ofDeclaration d).IsWellFormed := by
  simp only [Declaration.texts, List.forall_mem_cons] at h
  obtain ⟨hkind, hconstructor, hreceiver, hname, hvalue, hdisplay, -⟩ := h
  refine isWellFormed_fields (.append (.append (.append (.append (.append ?_ ?_) ?_) ?_) ?_) ?_)
  · exact fits_text hkind
  · exact fits_optional hconstructor
  · exact fits_optional hreceiver
  · exact fits_text hname
  · exact fits_optional hvalue
  · exact fits_text hdisplay

mutual

theorem isWellFormed_ofInclusion : ∀ inclusion : Inclusion,
    (∀ s ∈ inclusion.shown, isWellFormed s = true) → (ofInclusion inclusion).IsWellFormed
  | .reference path, h => Json.isWellFormed_string.mpr (h path (List.mem_singleton_self _))
  | .contents path comments, h => by
    rw [Inclusion.shown_contents] at h
    exact Json.isWellFormed_array (isWellFormed_ofComments comments h)

theorem isWellFormed_ofComments : ∀ comments : List (Comment Inclusion),
    (∀ s ∈ comments.flatMap (Comment.texts Inclusion.shown), isWellFormed s = true) →
      ∀ v ∈ ofComments comments, v.IsWellFormed
  | [], _ => fun v hv => nomatch hv
  | c :: cs, h => by
    rw [List.flatMap_cons, List.forall_mem_append] at h
    intro v hv
    rcases List.mem_cons.mp hv with rfl | hv
    · exact isWellFormed_ofComment c h.1
    · exact isWellFormed_ofComments cs h.2 v hv

theorem isWellFormed_ofComment : ∀ c : Comment Inclusion,
    (∀ s ∈ c.texts Inclusion.shown, isWellFormed s = true) → (ofComment c).IsWellFormed
  | ⟨declaration, code, description, tags, isPrivate, isBanner⟩, h => by
    obtain ⟨hdeclaration, hcode, ⟨hfull, hsummary, hbody⟩, htags⟩ := Comment.forall_mem_texts.mp h
    have hdescription : (ofDescription description).IsWellFormed :=
      isWellFormed_fields (.append (.append (fits_text hfull) (fits_text hsummary))
        (fits_text hbody))
    refine isWellFormed_fields (.append (.append (.append (.append (.append ?_ ?_) ?_) ?_) ?_) ?_)
    · cases declaration with
      | none => exact Json.allFields_nil
      | some d => exact fits_field (isWellFormed_ofDeclaration (hdeclaration d rfl))
    · exact fits_optional hcode
    · exact fits_field hdescription
    · exact fits_field (Json.isWellFormed_array (isWellFormed_ofTags tags htags))
    · exact fits_field (Json.isWellFormed_bool isPrivate)
    · exact fits_field (Json.isWellFormed_bool isBanner)

theorem isWellFormed_ofTags : ∀ tags : List (Tag Inclusion),
    (∀ tag ∈ tags, ∀ s ∈ tag.texts Inclusion.shown, isWellFormed s = true) →
      ∀ v ∈ ofTags tags, v.IsWellFormed
  | [], _ => fun v hv => nomatch hv
  | t :: ts, h => by
    rw [List.forall_mem_cons] at h
    intro v hv
    rcases List.mem_cons.mp hv with rfl | hv
    · exact isWellFormed_ofTag t h.1
    · exact isWellFormed_ofTags ts h.2 v hv

theorem isWellFormed_ofTag : ∀ t : Tag Inclusion,
    (∀ s ∈ t.texts Inclusion.shown, isWellFormed s = true) → (ofTag t).IsWellFormed
  | .param types name description, h => by
    simp only [Tag.texts, Tag.fields, List.forall_mem_cons] at h
    obtain ⟨hkind, hname, hdescription, htypes⟩ := h
    refine isWellFormed_fields (.append (.append (.append (fits_text hkind) ?_) ?_) ?_)
    · exact fits_text hname
    · exact fits_text hdescription
    · exact fits_field (isWellFormed_strings htypes)
  | .returns types description, h => by
    simp only [Tag.texts, Tag.fields, List.forall_mem_cons] at h
    obtain ⟨hkind, hdescription, htypes⟩ := h
    refine isWellFormed_fields (.append (.append (fits_text hkind) ?_) ?_)
    · exact fits_text hdescription
    · exact fits_field (isWellFormed_strings htypes)
  | .see title url reference visibility, h => by
    simp only [Tag.texts, Tag.fields, List.forall_mem_cons] at h
    obtain ⟨hkind, htitle, hurl, hreference, hvisibility, -⟩ := h
    refine isWellFormed_fields (.append (.append (.append (.append (fits_text hkind) ?_) ?_) ?_) ?_)
    · exact fits_optional htitle
    · exact fits_optional hurl
    · exact fits_optional hreference
    · exact fits_optional hvisibility
  | .api visibility, h => by
    simp only [Tag.texts, Tag.fields, List.forall_mem_cons] at h
    exact isWellFormed_fields (.append (fits_text h.1) (fits_optional h.2.1))
  | .type types, h => by
    simp only [Tag.texts, Tag.fields, List.forall_mem_cons] at h
    exact isWellFormed_fields (.append (fits_text h.1) (fits_field (isWellFormed_strings h.2)))
  | .memberOf parent, h => by
    simp only [Tag.texts, Tag.fields, List.forall_mem_cons] at h
    exact isWellFormed_fields (.append (fits_text h.1) (fits_optional h.2.1))
  | .augments base, h => by
    simp only [Tag.texts, Tag.fields, List.forall_mem_cons] at h
    exact isWellFormed_fields (.append (fits_text h.1) (fits_optional h.2.1))
  | .borrows source target, h => by
    simp only [Tag.texts, Tag.fields, List.forall_mem_cons] at h
    obtain ⟨hkind, hsource, htarget, -⟩ := h
    refine isWellFormed_fields (.append (.append (fits_text hkind) ?_) ?_)
    · exact fits_text hsource
    · exact fits_optional htarget
  | .detail content, h => by
    simp only [Tag.texts, Tag.fields, List.forall_mem_cons] at h
    refine isWellFormed_fields (.append ?_ (fits_text h.1))
    exact fits_field (isWellFormed_ofInclusion content h.2)
  | .other name text, h => by
    simp only [Tag.texts, Tag.fields, List.forall_mem_cons] at h
    exact isWellFormed_fields (.append (fits_text h.1) (fits_text h.2.1))

end

/-! ## Whole documents -/

theorem fits_insertFile {path : Text} {document : Json} {fields : List (Text × Json)}
    (h : FieldFits path document) (hfields : Json.AllFields FieldFits fields) :
    Json.AllFields FieldFits (insertFile path document fields) := by
  have hfile : Json.AllFields FieldFits [(path, document)] := Json.allFields_field h
  fun_induction insertFile path document fields with
  | case1 => exact hfile
  | case2 d rest =>
    refine hfile.append fun name part hpart => ?_
    exact hfields name part (List.mem_cons_of_mem _ hpart)
  | case3 q d rest hne hprec => exact hfile.append hfields
  | case4 q d rest hne hprec ih =>
    have hrest := ih fun name part hpart => hfields name part (List.mem_cons_of_mem _ hpart)
    exact Json.AllFields.append (a := [(q, d)])
      (Json.allFields_field (hfields q d (List.mem_cons_self ..))) hrest

/-- The documents of comments whose texts are well-formed: of one file, and of several files under
their paths. -/
inductive WellFormed : Json → Prop
  | file {comments : List (Comment Inclusion)}
      (h : ∀ s ∈ comments.flatMap (Comment.texts Inclusion.shown), isWellFormed s = true) :
      WellFormed (ofFile comments)
  | files {files : List (Text × List (Comment Inclusion))}
      (hpaths : ∀ f ∈ files, isWellFormed f.1 = true)
      (h : ∀ f ∈ files, ∀ s ∈ f.2.flatMap (Comment.texts Inclusion.shown), isWellFormed s = true) :
      WellFormed (ofFiles files)

theorem WellFormed.isWellFormed {document : Json} (h : WellFormed document) :
    document.IsWellFormed := by
  cases h with
  | file h => exact Json.isWellFormed_array (isWellFormed_ofComments _ h)
  | @files files hpaths h =>
    refine isWellFormed_fields ?_
    have hnone : Json.AllFields FieldFits [] := Json.allFields_nil
    -- Each file is put among fields that fit.
    generalize ([] : List (Text × Json)) = fields at hnone ⊢
    induction files generalizing fields with
    | nil => exact hnone
    | cons f files ih =>
      rw [List.forall_mem_cons] at hpaths h
      rw [List.foldl_cons]
      refine ih hpaths.2 h.2 _ (fits_insertFile ⟨hpaths.1, ?_⟩ hnone)
      exact Json.isWellFormed_array (isWellFormed_ofComments _ h.1)

/-- A document is written as one JSON text and a line feed. At every indentation the text is read
back as the document, and without the white space outside its strings it is the compact text. -/
theorem write_readsBack (document : Json) (h : WellFormed document) :
    ∃ compact, (Encoding.ofName "json" 0).write document = compact ++ "\n" ∧
      ∀ indent : Nat, ∃ text, (Encoding.ofName "json" indent).write document = text ++ "\n" ∧
        (∀ b ∈ text.getLast?, b ≠ '\n') ∧ Json.read? text = some document ∧
        Json.squeeze text = compact := by
  refine ⟨Json.print 0 document, rfl, fun indent => ⟨Json.print indent document, rfl, ?_⟩⟩
  refine ⟨Json.getLast?_print indent document, ?_, ?_⟩
  · rw [Json.read?_print, Json.repaired_eq_self document h.isWellFormed]
  · exact Json.squeeze_print document indent

/-- Two files, and a comment with characters of every kind: quotation marks, backslashes, control
characters, markup, the two separators and characters of two to four bytes. -/
def escapes : Json :=
  ofFiles [("b c.js", [⟨some (.binding "a" "'\\n'"), "var a = '\\n'",
    ⟨"a \"b\"\n\t<c> & d\x01\x7F", "\r \u2028 \u2029", "é € 😀"⟩,
    [.detail (.contents "d.js" []), .param ["X", "Y"] "x" []], false, true⟩]), ("a.js", [])]

/-- It is read back from an indented text that differs from the compact one. -/
theorem write_readsBack_escapes :
    ∃ compact indented, (Encoding.ofName "json" 0).write escapes = compact ++ "\n" ∧
      (Encoding.ofName "json" 2).write escapes = indented ++ "\n" ∧ compact ≠ indented ∧
      Json.read? indented = some escapes ∧ Json.squeeze indented = compact := by
  have hwell : WellFormed escapes := .files (by decide) (by decide +kernel)
  have hdiffer : (Encoding.ofName "json" 0).write escapes
      ≠ (Encoding.ofName "json" 2).write escapes := by
    decide +kernel
  obtain ⟨compact, hcompact, hindents⟩ := write_readsBack escapes hwell
  obtain ⟨indented, hindented, -, hread, hsqueeze⟩ := hindents 2
  refine ⟨compact, indented, hcompact, hindented, fun heq => hdiffer ?_, hread, hsqueeze⟩
  rw [hcompact, heq]
  exact hindented.symm

end Document

end DocBlock
