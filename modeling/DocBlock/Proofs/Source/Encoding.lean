import DocBlock.Proofs.Declaration
import DocBlock.Proofs.Extraction.Details
import DocBlock.Proofs.Path
import DocBlock.Proofs.Source.Comments
import DocBlock.Proofs.Tag

/-!
# The texts of a comment are well-formed

A source text is walked byte by byte, but every place where it is cut is next to an ASCII byte or
between two whole characters: a delimiter, the character after it, the end of a line, a space, a
slash in a path. So if the text and its path are well-formed UTF-8, then every text that is put into
a comment is too (`Tag.texts`, `Comment.texts`):

> `Source.isWellFormed_of_mem_comments`: this holds of every comment of a source text, if the
> renderer keeps well-formed texts well-formed.
-/

namespace DocBlock

open Text (isWellFormed)

/-! ## Paths -/

namespace Path

theorem isWellFormed_of_mem_elements {path : Text} (h : isWellFormed path = true) :
    ∀ element ∈ elements path, isWellFormed element = true :=
  Text.isWellFormed_of_mem_splitWhere (fun _ => Text.lt_of_beq (by decide)) h

section
variable {path reference : Text}

theorem isWellFormed_clean (h : isWellFormed path = true) : isWellFormed (clean path) = true := by
  have hbody : isWellFormed (Text.join "/" (resolved path)) = true :=
    Text.isWellFormed_join (by decide) fun e he =>
      isWellFormed_of_mem_elements h e (resolved_subset path he)
  unfold clean
  dsimp only
  split
  · rw [Text.isWellFormed_cons_of_lt (by decide)]
    exact hbody
  · split
    · decide
    · exact hbody

theorem isWellFormed_directory (h : isWellFormed path = true) :
    isWellFormed (directory path) = true := by
  refine isWellFormed_clean (Text.isWellFormed_dropWhileRight (Or.inr fun b hb => ?_) h)
  exact Text.lt_of_bne (by decide) hb

theorem isWellFormed_beside (h : isWellFormed path = true) (href : isWellFormed reference = true) :
    isWellFormed (beside path reference) = true := by
  unfold beside joined
  split
  · split
    · rfl
    · exact isWellFormed_clean href
  · refine isWellFormed_clean (Text.isWellFormed_append (Text.isWellFormed_append ?_ ?_) href)
    · exact isWellFormed_directory h
    · decide

end

end Path

/-! ## Tags -/

namespace Tag

section
variable {Δ : Type} (f : Δ → List Text)

/-- The texts of a tag after its name, with `f` for what a `@detail` tag holds. -/
def fields : Tag Δ → List Text
  | param types name description => name :: description :: types
  | returns types description => description :: types
  | see title url reference visibility => [title, url, reference, visibility]
  | api visibility => [visibility]
  | type types => types
  | memberOf parent => [parent]
  | augments base => [base]
  | borrows source target => [source, target]
  | detail content => f content
  | other _ text => [text]

/-- The texts of a tag. -/
def texts (t : Tag Δ) : List Text := t.name :: t.fields f

end

theorem isWellFormed_of_mem_laterTypes {pieces : List Text}
    (h : ∀ piece ∈ pieces, isWellFormed piece = true) :
    ∀ name ∈ laterTypes pieces, isWellFormed name = true := by
  have hspace : ∀ b : UInt8, (b == ' ') = true → b < 0x80 := fun b => Text.lt_of_beq (by decide)
  fun_induction laterTypes pieces with
  | case1 => exact fun name hname => nomatch hname
  | case2 piece =>
    intro name hname
    rw [List.mem_singleton.mp hname]
    exact Text.isWellFormed_dropWhile hspace (h piece (List.mem_cons_self ..))
  | case3 piece pieces hne ih =>
    intro name hname
    rcases List.mem_cons.mp hname with rfl | hname
    · exact Text.isWellFormed_trimWhere hspace (h piece (List.mem_cons_self ..))
    · exact ih (fun p hp => h p (List.mem_cons_of_mem _ hp)) name hname

theorem isWellFormed_withoutBraces {t : Text} (h : isWellFormed t = true) :
    isWellFormed (t.filter fun b => b != Byte.leftBrace && b != Byte.rightBrace) = true := by
  have hbrace : ∀ b, (b == Byte.leftBrace || b == Byte.rightBrace) = true → b < 0x80 := by
    intro b hb
    rcases Bool.or_eq_true_iff.mp hb with hb | hb
    · exact Text.lt_of_beq (by decide) hb
    · exact Text.lt_of_beq (by decide) hb
  have hfilter := Text.isWellFormed_filter hbrace h
  simpa only [Bool.not_or, bne] using hfilter

theorem lt_of_isTypeSeparator {b : UInt8} (h : isTypeSeparator b = true) : b < 0x80 := by
  simp only [isTypeSeparator, Bool.or_eq_true] at h
  rcases h with (h | h) | h <;> exact Text.lt_of_beq (by decide) h

theorem isWellFormed_of_mem_typeNames {t : Text} (h : isWellFormed t = true) :
    ∀ name ∈ typeNames t, isWellFormed name = true := by
  have hpieces := Text.isWellFormed_of_mem_splitWhere (p := isTypeSeparator)
    (fun _ => lt_of_isTypeSeparator) (isWellFormed_withoutBraces h)
  unfold typeNames
  dsimp only
  split
  · exact fun name hname => nomatch hname
  · split
    next => exact fun name hname => nomatch hname
    next only hsplit =>
      rw [hsplit] at hpieces
      exact hpieces
    next first others hne hsplit =>
      rw [hsplit] at hpieces
      intro name hname
      rcases List.mem_cons.mp hname with rfl | hname
      · exact Text.isWellFormed_dropWhileRight (Or.inl fun _ => Text.lt_of_beq (by decide))
          (hpieces first (List.mem_cons_self ..))
      · exact isWellFormed_of_mem_laterTypes
          (fun p hp => hpieces p (List.mem_cons_of_mem _ hp)) name hname

/-- A tag line all of whose parts are well-formed. -/
structure Line.WellFormed (line : Line) : Prop where
  name : isWellFormed line.name = true
  words : ∀ word ∈ line.words, isWellFormed word = true
  continuation : isWellFormed line.continuation = true

namespace Line

theorem wellFormed_ofText {t : Text} (h : isWellFormed t = true) : (ofText t).WellFormed := by
  obtain ⟨hline, hcontinuation⟩ := Text.isWellFormed_takeWhile
    (p := fun b => b != (('\n' : Char) : UInt8))
    (fun _ => Text.lt_of_bne (by decide)) h
  have hwords := Text.isWellFormed_of_mem_words hline
  refine ⟨?_, fun word hword => hwords word (List.mem_of_mem_tail hword), hcontinuation⟩
  exact Text.isWellFormed_erase (by decide) (Text.isWellFormed_headD hwords)

variable {line : Line}

theorem WellFormed.wordsFrom (h : line.WellFormed) (k : Nat) :
    isWellFormed (line.wordsFrom k) = true :=
  Text.isWellFormed_join (by decide) fun word hword => h.words word (List.mem_of_mem_drop hword)

theorem WellFormed.word (h : line.WellFormed) (k : Nat) : isWellFormed (line.word k) = true :=
  Text.isWellFormed_headD fun word hword => h.words word (List.mem_of_mem_drop hword)

end Line

theorem isWellFormed_of_mem_fields_seeOf {line : Line} (hline : line.WellFormed) :
    ∀ s ∈ (seeOf line).fields fun target => [target], isWellFormed s = true := by
  have hnil : isWellFormed [] = true := rfl
  fun_cases seeOf line <;> simp [fields, hline.word, hline.wordsFrom, hnil]

theorem isWellFormed_of_mem_fields_borrowsOf {line : Line} (hline : line.WellFormed) :
    ∀ s ∈ (borrowsOf line).fields fun target => [target], isWellFormed s = true := by
  have hmembers := Text.isWellFormed_of_mem_splitOn " as " (by decide) (by decide)
    (hline.wordsFrom 0)
  have hsource := Text.isWellFormed_headD hmembers
  have htarget := Text.isWellFormed_headD fun m hm => hmembers m (List.mem_of_mem_tail hm)
  simp only [borrowsOf, fields, List.forall_mem_cons]
  exact ⟨hsource, htarget, fun s hs => nomatch hs⟩

section
variable {render : Text → Text} {path : Text} {line : Line}
  (hrender : ∀ s, isWellFormed s = true → isWellFormed (render s) = true)
include hrender

theorem isWellFormed_of_mem_texts_ofLine (hpath : isWellFormed path = true)
    (hline : line.WellFormed) :
    ∀ s ∈ (ofLine render path line).texts fun target => [target], isWellFormed s = true := by
  have hname : isWellFormed (ofLine render path line).name = true := by
    rw [(ofLine_kind render path line).1]
    exact hline.name
  refine List.forall_mem_cons.mpr ⟨hname, ?_⟩
  fun_cases ofLine render path line with
  | case1 =>
    have hdescription := hrender _
      (Text.isWellFormed_append (hline.wordsFrom 2) hline.continuation)
    have htypes := isWellFormed_of_mem_typeNames (hline.word 0)
    exact List.forall_mem_cons.mpr ⟨hline.word 1, List.forall_mem_cons.mpr ⟨hdescription, htypes⟩⟩
  | case2 =>
    have hdescription := hrender _
      (Text.isWellFormed_append (hline.wordsFrom 1) hline.continuation)
    exact List.forall_mem_cons.mpr ⟨hdescription, isWellFormed_of_mem_typeNames (hline.word 0)⟩
  | case3 => exact isWellFormed_of_mem_fields_seeOf hline
  | case5 => exact isWellFormed_of_mem_typeNames (hline.word 0)
  | case8 => exact isWellFormed_of_mem_fields_borrowsOf hline
  | case9 => simpa [fields] using Path.isWellFormed_beside hpath (hline.word 0)
  | case10 => simpa [fields] using hline.wordsFrom 0
  | _ => simpa [fields] using hline.word 0

end

end Tag

/-! ## Declarations -/

theorem Owner.isWellFormed_path {owner : Owner} (h : isWellFormed owner.word = true) :
    isWellFormed owner.path = true := by
  cases owner with
  | prototype k => exact Text.isWellFormed_append h (by decide)
  | object r => exact Text.isWellFormed_append h (by decide)

namespace Declaration

/-- The texts that say what is declared. -/
def texts (d : Declaration) : List Text :=
  [d.kind, d.constructor, d.receiver, d.name, d.value, d.display]

theorem isWellFormed_of_mem_texts {line : Text} {d : Declaration} (hline : isWellFormed line = true)
    (h : Declares line d) : ∀ s ∈ d.texts, isWellFormed s = true := by
  have hname := h.name.isAscii.isWellFormed
  have howner : ∀ owner ∈ d.owner?, isWellFormed owner.word = true :=
    fun owner ho => (h.owner owner ho).isAscii.isWellFormed
  have hvalue : isWellFormed d.value = true := by
    rcases h.value with hnil | ⟨right, hright, heq⟩
    · rw [hnil]
      rfl
    · rw [heq]
      exact Text.isWellFormed_trimRight (hright.isWellFormed hline)
  have hwords : isWellFormed d.constructor = true ∧ isWellFormed d.receiver = true := by
    cases hd : d.owner? with
    | none =>
      obtain ⟨hconstructor, hreceiver⟩ := words_of_none hd
      rw [hconstructor, hreceiver]
      exact ⟨rfl, rfl⟩
    | some owner =>
      have hword := howner owner hd
      cases owner with
      | prototype k =>
        obtain ⟨hconstructor, hreceiver⟩ := words_of_prototype hd
        rw [hconstructor, hreceiver]
        exact ⟨hword, rfl⟩
      | object r =>
        obtain ⟨hconstructor, hreceiver⟩ := words_of_object hd
        rw [hconstructor, hreceiver]
        exact ⟨rfl, hword⟩
  have hdisplay : isWellFormed d.display = true := by
    cases d with
    | function name => exact Text.isWellFormed_append hname (by decide)
    | binding name value => exact hname
    | method owner name =>
      have hpath := Owner.isWellFormed_path (howner owner rfl)
      exact Text.isWellFormed_append (Text.isWellFormed_append hpath hname) (by decide)
    | property owner name value =>
      exact Text.isWellFormed_append (Owner.isWellFormed_path (howner owner rfl)) hname
  have hkind : isWellFormed d.kind = true := by
    cases d <;> rfl
  simp only [texts, List.forall_mem_cons]
  exact ⟨hkind, hwords.1, hwords.2, hname, hvalue, hdisplay, fun s hs => nomatch hs⟩

end Declaration

/-! ## Comments -/

namespace Comment

/-- The texts of a comment, with `f` for what its `@detail` tags hold. -/
def texts {Δ : Type} (f : Δ → List Text) (c : Comment Δ) : List Text :=
  c.declaration.toList.flatMap Declaration.texts
    ++ [c.code, c.description.full, c.description.summary, c.description.body]
    ++ c.tags.flatMap (Tag.texts f)

theorem forall_mem_texts {Δ : Type} {f : Δ → List Text} {c : Comment Δ} {p : Text → Prop} :
    (∀ s ∈ c.texts f, p s) ↔
      (∀ d ∈ c.declaration, ∀ s ∈ d.texts, p s) ∧ p c.code ∧
        (p c.description.full ∧ p c.description.summary ∧ p c.description.body) ∧
        ∀ tag ∈ c.tags, ∀ s ∈ tag.texts f, p s := by
  simp only [texts, List.forall_mem_append, List.forall_mem_cons, List.forall_mem_flatMap,
    Option.mem_toList, Option.mem_def, List.not_mem_nil, false_imp_iff, implies_true, and_true,
    and_assoc]

theorem isWellFormed_parts {body : Text} (h : isWellFormed body = true) :
    isWellFormed (parts body).1 = true ∧ ∀ tags ∈ (parts body).2, isWellFormed tags = true := by
  unfold parts
  split
  · refine ⟨rfl, fun tags htags => ?_⟩
    cases htags
    exact h
  · split
    next => exact ⟨h, fun tags htags => nomatch htags⟩
    next full tags hcut =>
      obtain ⟨hfull, htags⟩ := Text.isWellFormed_of_cut "\n@" (by decide) (by decide) h hcut
      refine ⟨hfull, fun text htext => ?_⟩
      cases htext
      rw [Text.isWellFormed_cons_of_lt (by decide)]
      exact htags

theorem isWellFormed_of_mem_tagTexts (multiLine : Bool) {tags : Option Text}
    (h : ∀ text ∈ tags, isWellFormed text = true) :
    ∀ line ∈ tagTexts multiLine tags, isWellFormed line = true := by
  cases tags with
  | none => exact fun line hline => nomatch hline
  | some text =>
    cases multiLine with
    | true =>
      exact Text.isWellFormed_of_mem_splitOn "\n@" (by decide) (by decide) (h text rfl)
    | false => exact Text.isWellFormed_of_mem_lines (h text rfl)

section
variable {reading : Reading} {path body : Text}
  (hrender : ∀ s, isWellFormed s = true → isWellFormed (reading.render s) = true)
include hrender

theorem isWellFormed_of_mem_texts_ofBody (hpath : isWellFormed path = true)
    (hbody : isWellFormed body = true) :
    ∀ s ∈ (ofBody reading path body).texts fun target => [target], isWellFormed s = true := by
  obtain ⟨hfull, htags⟩ := isWellFormed_parts (Text.isWellFormed_trim hbody)
  have hlines := isWellFormed_of_mem_tagTexts reading.multiLine htags
  have hsummary := Text.isWellFormed_before "\n\n" (by decide) (by decide) hfull
  have hrest := Text.isWellFormed_after "\n\n" (by decide) (by decide) hfull
  refine forall_mem_texts.mpr ⟨(fun d hd => nomatch hd), rfl, ?_, ?_⟩
  · exact ⟨hrender _ hfull, hrender _ hsummary, hrender _ hrest⟩
  · intro tag htag
    obtain ⟨line, hline, rfl⟩ := List.mem_map.mp htag
    exact Tag.isWellFormed_of_mem_texts_ofLine hrender hpath
      (Tag.Line.wellFormed_ofText (hlines line hline))

end

theorem isWellFormed_of_mem_texts_withCode {Δ : Type} {f : Δ → List Text} {c : Comment Δ}
    {code : Text} (hc : ∀ s ∈ c.texts f, isWellFormed s = true) (hcode : isWellFormed code = true) :
    ∀ s ∈ (c.withCode code).texts f, isWellFormed s = true := by
  obtain ⟨-, -, hdescription, htags⟩ := forall_mem_texts.mp hc
  have htrim := Text.isWellFormed_trim hcode
  refine forall_mem_texts.mpr ⟨fun d hd => ?_, htrim, hdescription, htags⟩
  have hline := Text.isWellFormed_before "\n" (by decide) (by decide) htrim
  exact Declaration.isWellFormed_of_mem_texts hline (Declaration.declares_of_infer? hd)

end Comment

/-! ## Source texts -/

theorem isWellFormed_splitCode {t : Text} (h : isWellFormed t = true) :
    isWellFormed (splitCode false t).1 = true ∧ isWellFormed (splitCode false t).2 = true := by
  rw [← splitCode_append_eq t] at h
  refine Text.isWellFormed_seam h (Or.inr fun b hb => ?_)
  rcases splitCode_snd_cases t with hnil | ⟨inner, hinner⟩
  · rw [hnil] at hb
    nomatch hb
  · rw [hinner] at hb
    cases hb
    decide

namespace Layout

/-- The pieces that a text is cut into at its comments. -/
theorem isWellFormed_comments {t : Text} (ht : t = [] ∨ ∃ inner, t = "/*" ++ inner)
    (h : isWellFormed t = true) :
    (∀ block ∈ (comments t).1, isWellFormed block.body = true ∧ isWellFormed block.code = true) ∧
      ∀ comment ∈ (comments t).2, isWellFormed comment.body = true := by
  rcases ht with ht | ⟨inner, ht⟩
  · rw [ht, comments_nil]
    exact ⟨(fun block hblock => nomatch hblock), fun comment hcomment => nomatch hcomment⟩
  · rw [ht] at h
    -- The mark is a whole character, whatever its width.
    obtain ⟨-, hinner⟩ := Text.isWellFormed_first
      (Text.isWellFormed_of_ascii_append (s := "/*") (by decide) h)
    cases hcut : Text.cut "*/" (Text.afterFirst inner) with
    | none =>
      rw [ht, comments_of_cut_none hcut]
      refine ⟨(fun block hblock => nomatch hblock), fun comment hcomment => ?_⟩
      cases hcomment
      exact hinner
    | some parts =>
      obtain ⟨body, outer⟩ := parts
      obtain ⟨hbody, houter⟩ := Text.isWellFormed_of_cut "*/" (by decide) (by decide) hinner hcut
      -- So is the gap.
      obtain ⟨-, hafter⟩ := Text.isWellFormed_first houter
      obtain ⟨hcode, hlater⟩ := isWellFormed_splitCode hafter
      have hlen : (splitCode false (Text.afterFirst outer)).2.length < t.length := by
        have hle := length_splitCode_snd_le false (Text.afterFirst outer)
        have hsplit := congrArg List.length (Text.eq_append_of_cut hcut)
        rw [ht]
        have hstar : 0 < List.length ("*/" : Text) := by decide
        simp only [Text.afterFirst, List.length_append, List.length_drop] at hle hsplit ⊢
        omega
      obtain ⟨hblocks, hunclosed⟩ := isWellFormed_comments (splitCode_snd_cases _) hlater
      rw [ht, comments_of_cut hcut]
      exact ⟨List.forall_mem_cons.mpr ⟨⟨hbody, hcode⟩, hblocks⟩, hunclosed⟩
termination_by t.length

end Layout

namespace Source

theorem isWellFormed_undecorate {line : Text} (h : isWellFormed line = true) :
    isWellFormed (undecorate line) = true := by
  have hskip : isWellFormed (Text.skipSpaces line) = true :=
    (ReadsTo.skipSpaces line).isWellFormed h
  unfold undecorate
  split
  next b rest hline =>
    rw [hline] at hskip
    by_cases hb : b = '*'
    · rw [hb, Text.isWellFormed_cons_of_lt (by decide)] at hskip
      rw [if_pos hb]
      split
      next hspace =>
        obtain ⟨rest, rfl⟩ := List.head?_eq_some_iff.mp (beq_iff_eq.mp hspace)
        rw [Text.isWellFormed_cons_of_lt (by decide)] at hskip
        exact hskip
      next => exact hskip
    · rw [if_neg hb]
      exact h
  next => exact h

theorem isWellFormed_bodyText {body : Text} (h : isWellFormed body = true) :
    isWellFormed (bodyText body) = true := by
  refine Text.isWellFormed_join (by decide) fun line hline => ?_
  obtain ⟨plain, hplain, rfl⟩ := List.mem_map.mp hline
  exact isWellFormed_undecorate (Text.isWellFormed_of_mem_lines h plain hplain)

theorem isWellFormed_of_mem_comments {reading : Reading} {path t : Text}
    (hrender : ∀ s, isWellFormed s = true → isWellFormed (reading.render s) = true)
    (hpath : isWellFormed path = true) (ht : isWellFormed t = true) :
    ∀ c ∈ comments reading path t, ∀ s ∈ c.texts fun target => [target], isWellFormed s = true := by
  have hnewlines := Text.isWellFormed_unixNewlines ht
  obtain ⟨-, hstart⟩ := isWellFormed_splitCode hnewlines
  obtain ⟨hblocks, hunclosed⟩ := Layout.isWellFormed_comments (splitCode_snd_cases _) hstart
  intro c hc
  obtain ⟨i, hi⟩ := List.mem_iff_getElem?.mp hc
  rw [comments_getElem? reading path t rfl, Option.map_eq_some_iff] at hi
  obtain ⟨block, hblock, rfl⟩ := hi
  obtain ⟨hbody, hcode⟩ := hblocks block (List.mem_of_getElem? hblock)
  have hread := Comment.isWellFormed_of_mem_texts_ofBody hrender hpath (isWellFormed_bodyText hbody)
  refine Comment.isWellFormed_of_mem_texts_withCode (Comment.forall_mem_texts.mpr ?_) ?_
  · exact Comment.forall_mem_texts.mp hread
  · unfold Layout.codeAt
    split
    · unfold Layout.unclosedBody
      cases hlast : (Layout.ofText (Text.unixNewlines t)).unclosed with
      | none => rfl
      | some comment => exact hunclosed comment hlast
    · exact hcode

end Source

end DocBlock
