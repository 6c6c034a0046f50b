import DocBlock.Document
import DocBlock.Proofs.Declaration
import DocBlock.Proofs.Extraction.Tree
import DocBlock.Proofs.Json.Layout

/-!
# Documents without stray bytes

JSON has no stray bytes: a text that holds one is read back with the replacement character in its
place (`Text.repaired`). The bytes around it are kept, and a stray byte next to an ASCII byte stays
one. So repairing a document gives the document of the comments whose texts are repaired:

> `repaired_ofFile`: the value that is read from a printed document is the document of the repaired
> comments.

Nothing but the bytes is lost: a text is empty if and only if it is once it is repaired, and what is
ASCII once it is repaired was so before. So a field is left out of both documents or of none.
-/

namespace DocBlock

/-! ## Texts -/

namespace Text

variable {s t : Text}

theorem repaired_append (s : Text) (h : ∀ b ∈ t.head?, isTail b = false) :
    repaired (s ++ t) = repaired s ++ repaired t := by
  rw [repaired, characters_append s h, List.flatMap_append]
  rfl

theorem repaired_ascii_append (hs : IsAscii s) (t : Text) :
    repaired (s ++ t) = s ++ repaired t := by
  induction s with
  | nil => rfl
  | cons b s ih =>
    obtain ⟨hb, hs⟩ := List.forall_mem_cons.mp hs
    have hkeep : repairedCharacter [b] = [b] := if_pos (by simp [codePoint, hb])
    have hcons (u : Text) : repaired (b :: u) = b :: repaired u := by
      rw [repaired, characters_cons_of_lt hb, List.flatMap_cons, hkeep]
      rfl
    rw [List.cons_append, hcons, ih hs, List.cons_append]

theorem repaired_eq_nil_iff : repaired t = [] ↔ t = [] := by
  constructor
  · intro h
    by_contra hne
    have hwidth := firstWidth_pos hne
    have hlength := List.length_pos_iff.mpr hne
    have hfirst : firstCharacter t ≠ [] := by
      rw [firstCharacter, ne_eq, List.take_eq_nil_iff, not_or]
      exact ⟨Nat.ne_of_gt hwidth, hne⟩
    rw [repaired, characters_eq_cons hne, List.flatMap_cons, List.append_eq_nil_iff] at h
    -- the first character leaves something, be it a sequence or a stray byte
    have hgone := h.1
    unfold repairedCharacter at hgone
    split at hgone
    · exact hfirst hgone
    · exact List.cons_ne_nil _ _ hgone
  · rintro rfl
    rfl

theorem isEmpty_repaired (t : Text) : (repaired t).isEmpty = t.isEmpty := by
  rw [Bool.eq_iff_iff, List.isEmpty_iff, List.isEmpty_iff, repaired_eq_nil_iff]

/-- Only an ASCII text is repaired to one. -/
theorem repaired_eq_self_of_isAscii (h : IsAscii (repaired t)) : repaired t = t := by
  refine repaired_eq_self (List.all_eq_true.mpr fun c hc => ?_)
  by_contra hpoint
  have hmem : (0xEF : UInt8) ∈ repaired t := by
    refine List.mem_flatMap.mpr ⟨c, hc, ?_⟩
    rw [repairedCharacter, if_neg hpoint]
    decide
  exact absurd (h _ hmem) (by decide)

end Text

/-! ## Comments -/

/-- The owner with its word repaired. -/
def Owner.repaired : Owner → Owner
  | .prototype constructor => .prototype (Text.repaired constructor)
  | .object receiver => .object (Text.repaired receiver)

/-- The declaration with its texts repaired. -/
def Declaration.repaired : Declaration → Declaration
  | function name => .function (Text.repaired name)
  | method owner name => .method owner.repaired (Text.repaired name)
  | property owner name value => .property owner.repaired (Text.repaired name) (Text.repaired value)
  | binding name value => .binding (Text.repaired name) (Text.repaired value)

section
variable {Δ : Type}

/-- The tag with its texts repaired, and what it refers to as it is. -/
def Tag.repaired : Tag Δ → Tag Δ
  | param types name description =>
    .param (types.map Text.repaired) (Text.repaired name) (Text.repaired description)
  | returns types description => .returns (types.map Text.repaired) (Text.repaired description)
  | see title url reference visibility =>
    .see (Text.repaired title) (Text.repaired url) (Text.repaired reference)
      (Text.repaired visibility)
  | api visibility => .api (Text.repaired visibility)
  | type types => .type (types.map Text.repaired)
  | memberOf parent => .memberOf (Text.repaired parent)
  | augments base => .augments (Text.repaired base)
  | borrows source target => .borrows (Text.repaired source) (Text.repaired target)
  | detail content => .detail content
  | other name text => .other (Text.repaired name) (Text.repaired text)

/-- The comment with its texts repaired, and what it refers to as it is. -/
def Comment.repaired (c : Comment Δ) : Comment Δ where
  declaration := c.declaration.map Declaration.repaired
  code := Text.repaired c.code
  description := ⟨Text.repaired c.description.full, Text.repaired c.description.summary,
    Text.repaired c.description.body⟩
  tags := c.tags.map Tag.repaired
  isPrivate := c.isPrivate
  isBanner := c.isBanner

end

/-- The tree with its texts repaired, at every level. -/
def Inclusion.repaired : Inclusion → Inclusion :=
  fold (fun path => .reference (Text.repaired path)) fun path comments =>
    .contents (Text.repaired path) (comments.map Comment.repaired)

/-- The comment with its texts repaired, and those of the files that it includes. -/
def Comment.repairedTree (c : Comment Inclusion) : Comment Inclusion :=
  (c.map Inclusion.repaired).repaired

theorem Inclusion.repaired_contents (path : Text) (comments : List (Comment Inclusion)) :
    (contents path comments).repaired
      = .contents (Text.repaired path) (comments.map Comment.repairedTree) := by
  rw [repaired, fold_contents, List.map_map]
  rfl

/-! ## Their documents -/

namespace Json

section
variable {name : Text}

theorem repairedFields_append (fs gs : List (Text × Json)) :
    repairedFields (fs ++ gs) = repairedFields fs ++ repairedFields gs := by
  induction fs with
  | nil => rfl
  | cons f fs ih =>
    obtain ⟨name, value⟩ := f
    rw [List.cons_append, repairedFields, ih, repairedFields, List.cons_append]

theorem repairedFields_field (hname : Text.isWellFormed name = true) (value : Json) :
    repairedFields (field name value) = field name value.repaired := by
  rw [field, repairedFields, repairedFields, Text.repaired_eq_self hname, field]

theorem repairedFields_textField (hname : Text.isWellFormed name = true) (value : Text) :
    repairedFields (textField name value) = textField name (Text.repaired value) :=
  repairedFields_field hname (string value)

theorem repairedFields_word (hname : Text.isWellFormed name = true) {word : Text}
    (hword : Text.isWellFormed word = true) :
    repairedFields (textField name word) = textField name word := by
  rw [repairedFields_textField hname, Text.repaired_eq_self hword]

theorem repairedFields_optionalField (hname : Text.isWellFormed name = true) (value : Text) :
    repairedFields (optionalField name value) = optionalField name (Text.repaired value) := by
  rw [optionalField, optionalField, Text.isEmpty_repaired]
  split
  · rfl
  · exact repairedFields_textField hname value

theorem repaired_strings (texts : List Text) :
    (strings texts).repaired = strings (texts.map Text.repaired) := by
  rw [strings, repaired, strings]
  congr 1
  induction texts with
  | nil => rfl
  | cons t ts ih =>
    rw [List.map_cons, repairedItems, ih, repaired]
    rfl

end

end Json

namespace Declaration

theorem kind_repaired (d : Declaration) : d.repaired.kind = d.kind := by
  cases d <;> rfl

theorem name_repaired (d : Declaration) : d.repaired.name = Text.repaired d.name := by
  cases d <;> rfl

theorem value_repaired (d : Declaration) : d.repaired.value = Text.repaired d.value := by
  cases d <;> rfl

theorem owner?_repaired (d : Declaration) : d.repaired.owner? = d.owner?.map Owner.repaired := by
  cases d <;> rfl

theorem constructor_repaired (d : Declaration) :
    d.repaired.constructor = Text.repaired d.constructor := by
  cases d with
  | function | binding => rfl
  | method owner | property owner => cases owner <;> rfl

theorem receiver_repaired (d : Declaration) : d.repaired.receiver = Text.repaired d.receiver := by
  cases d with
  | function | binding => rfl
  | method owner | property owner => cases owner <;> rfl

/-- The words of a member are apart from the dots between them. -/
theorem repaired_path_append (owner : Owner) (t : Text) :
    Text.repaired (owner.path ++ t) = owner.repaired.path ++ Text.repaired t := by
  cases owner with
  | prototype constructor =>
    show Text.repaired (constructor ++ ".prototype." ++ t)
      = Text.repaired constructor ++ ".prototype." ++ Text.repaired t
    rw [List.append_assoc, Text.repaired_append _ (by rintro b ⟨⟩; decide),
      Text.repaired_ascii_append (by decide), List.append_assoc]
  | object receiver =>
    show Text.repaired (receiver ++ "." ++ t) = Text.repaired receiver ++ "." ++ Text.repaired t
    rw [List.append_assoc, Text.repaired_append _ (by rintro b ⟨⟩; decide),
      Text.repaired_ascii_append (by decide), List.append_assoc]

theorem display_repaired (d : Declaration) : d.repaired.display = Text.repaired d.display := by
  have hcall (t : Text) : Text.repaired (t ++ "()") = Text.repaired t ++ "()" :=
    Text.repaired_append t (by rintro b ⟨⟩; decide)
  cases d with
  | function name => exact (hcall name).symm
  | method owner name =>
    show owner.repaired.path ++ Text.repaired name ++ "()"
      = Text.repaired (owner.path ++ name ++ "()")
    rw [hcall, repaired_path_append]
  | property owner name value => exact (repaired_path_append owner name).symm
  | binding name value => rfl

end Declaration

namespace Document

open Json

theorem repaired_ofDeclaration (d : Declaration) :
    (ofDeclaration d).repaired = ofDeclaration d.repaired := by
  have hkind : Text.repaired d.kind = d.kind := by
    cases d <;> rfl
  rw [ofDeclaration, Json.repaired]
  simp (disch := decide) only [repairedFields_append, repairedFields_textField,
    repairedFields_optionalField, hkind, ofDeclaration, Declaration.kind_repaired,
    Declaration.constructor_repaired, Declaration.receiver_repaired, Declaration.name_repaired,
    Declaration.value_repaired, Declaration.display_repaired]

mutual

theorem repaired_ofInclusion : ∀ inclusion : Inclusion,
    (ofInclusion inclusion).repaired = ofInclusion inclusion.repaired
  | .reference path => rfl
  | .contents path comments => by
    rw [Inclusion.repaired_contents, ofInclusion, ofInclusion, Json.repaired,
      repairedItems_ofComments comments]

theorem repairedItems_ofComments : ∀ comments : List (Comment Inclusion),
    repairedItems (ofComments comments) = ofComments (comments.map Comment.repairedTree)
  | [] => rfl
  | c :: cs => by
    rw [ofComments, repairedItems, repaired_ofComment c, repairedItems_ofComments cs, List.map_cons,
      ofComments]

theorem repaired_ofComment : ∀ c : Comment Inclusion,
    (ofComment c).repaired = ofComment c.repairedTree
  | ⟨declaration, code, description, tags, isPrivate, isBanner⟩ => by
    have htags := repairedItems_ofTags tags
    have hdeclaration : repairedFields (declarationField declaration)
        = declarationField (declaration.map Declaration.repaired) := by
      cases declaration with
      | none => rfl
      | some d =>
        rw [declarationField, repairedFields_field (by decide), repaired_ofDeclaration]
        rfl
    rw [ofComment, Json.repaired, commentFields]
    simp (disch := decide) only [repairedFields_append, hdeclaration, repairedFields_optionalField,
      repairedFields_field, Json.repaired, htags, ofDescription, repairedFields_textField]
    rfl

theorem repairedItems_ofTags : ∀ tags : List (Tag Inclusion),
    repairedItems (ofTags tags)
      = ofTags ((tags.map (Tag.map Inclusion.repaired)).map Tag.repaired)
  | [] => rfl
  | t :: ts => by
    rw [ofTags, repairedItems, repaired_ofTag t, repairedItems_ofTags ts, List.map_cons,
      List.map_cons, ofTags]

theorem repaired_ofTag : ∀ t : Tag Inclusion,
    (ofTag t).repaired = ofTag (t.map Inclusion.repaired).repaired
  | .detail content => by
    have hcontent := repaired_ofInclusion content
    rw [ofTag, Json.repaired]
    simp (disch := decide) only [repairedFields_append, repairedFields_field, hcontent,
      repairedFields_word]
    rfl
  | .param _ _ _ | .returns _ _ | .see _ _ _ _ | .api _ | .type _ | .memberOf _ | .augments _
  | .borrows _ _ | .other _ _ => by
    rw [ofTag, Json.repaired]
    simp (disch := decide) only [repairedFields_append, repairedFields_field, repaired_strings,
      repairedFields_word, repairedFields_textField, repairedFields_optionalField]
    rfl

end

/-- The repaired document is that of the repaired comments. -/
theorem repaired_ofFile (comments : List (Comment Inclusion)) :
    (ofFile comments).repaired = ofFile (comments.map Comment.repairedTree) := by
  rw [ofFile, Json.repaired, repairedItems_ofComments, ofFile]

end Document

end DocBlock
