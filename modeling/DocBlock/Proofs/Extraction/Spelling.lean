import DocBlock.Proofs.Extraction.Continuation
import DocBlock.Proofs.Extraction.Details
import DocBlock.Proofs.Tag.TypeList

/-!
# Writing tags and reading them back

`Tag.Spelled` says how a tag is written: the words after its name, in the order of its grammar, and
for `@param` and `@return` the lines that continue it. Every tag but a reference to another file can
be written so, and it does not matter how many spaces stand between its words:

> `ofTagText_spelled`: a tag is read back from its words, whatever the spacing, and nothing else is
> done on the way.

The words come apart as they were put together (`Text.Spaced.words_eq`). Two readings need more than
that: the types of a list are told apart by their separators (`Tag.typeNames_typeList`), and a link
asks for `http` in the whole text, which is asking it of every word (`Text.Spaced.infix_iff`).
-/

namespace DocBlock

namespace Tag

/-! ## Written tags -/

/-- Lines that continue a tag: none, or any text after a line feed. -/
def IsContinuation (t : Text) : Prop := ∀ b ∈ t.head?, b = (('\n' : Char) : UInt8)

/-- A tag is written with these words after its name, and continued by these lines. -/
inductive Spelled {Δ : Type} : Tag Δ → List Text → Text → Prop
  | param {types : List Text} (hne : types ≠ []) (htypes : ∀ t ∈ types, IsTypeName t)
    (name : Text) (description : List Text) {continuation : Text}
    (hcontinuation : IsContinuation continuation) :
    Spelled (.param types name (Text.join " " description ++ continuation))
      (typeList types :: name :: description) continuation
  | returns {types : List Text} (hne : types ≠ []) (htypes : ∀ t ∈ types, IsTypeName t)
    (description : List Text) {continuation : Text}
    (hcontinuation : IsContinuation continuation) :
    Spelled (.returns types (Text.join " " description ++ continuation))
      (typeList types :: description) continuation
  | type {types : List Text} (hne : types ≠ []) (htypes : ∀ t ∈ types, IsTypeName t) :
    Spelled (.type types) [typeList types] []
  | api (visibility : Text) : Spelled (.api visibility) [visibility] []
  | memberOf (parent : Text) : Spelled (.memberOf parent) [parent] []
  | augments (base : Text) : Spelled (.augments base) [base] []
  | borrows (source target : Text) : Spelled (.borrows source target) [source, "as", target] []
  /-- A member that keeps its name. -/
  | borrowsAlone (source : Text) : Spelled (.borrows source []) [source] []
  /-- A link with no address in any of its words. -/
  | seeLocal {words : List Text} (hlocal : ∀ w ∈ words, ¬ ("http" : Text) <:+: w) :
    Spelled (.see [] [] (Text.join " " words) (words.headD [])) words []
  /-- A link with an address, be it the title or what follows the title. -/
  | seeTitled {title first : Text} {later : List Text}
    (hmentioned : ∃ w ∈ title :: first :: later, ("http" : Text) <:+: w) :
    Spelled (.see title (Text.join " " (first :: later)) [] first) (title :: first :: later) []
  /-- An address without a title. -/
  | seeAddress {address : Text} (hmentioned : ("http" : Text) <:+: address) :
    Spelled (.see [] address [] address) [address] []
  /-- Any name without a grammar of its own. -/
  | other {name : Text} (hname : name ∉ names) (words : List Text) :
    Spelled (.other name (Text.join " " words)) words []

section
variable {Δ : Type} {tag : Tag Δ} {words : List Text} {continuation : Text}

theorem Spelled.isContinuation (h : tag.Spelled words continuation) :
    IsContinuation continuation := by
  cases h with
  | param _ _ _ _ hcontinuation => exact hcontinuation
  | returns _ _ _ hcontinuation => exact hcontinuation
  | _ => exact fun _ hb => nomatch hb

/-- The parts of a written tag line. -/
theorem Line.ofText_spelled {name line : Text} (hcontinuation : IsContinuation continuation)
    (hline : Text.Spaced ((('@' : Char) :: name) :: words) line) :
    Line.ofText (line ++ continuation) = ⟨name, words, continuation, line ++ continuation⟩ := by
  rw [Line.ofText_append hline.line_feed hcontinuation, Line.ofText,
    Text.takeWhile_bne hline.line_feed, hline.words_eq]
  simp only [List.headD_cons, List.tail_cons, Line.mk.injEq, and_true]
  exact List.erase_cons_head _ _

/-- A link asks for `http` in its words. -/
theorem contains_spelled {line : Text} (hline : Text.Spaced ((('@' : Char) :: "see") :: words) line) :
    Text.contains "http" (line ++ []) = true ↔ ∃ w ∈ words, ("http" : Text) <:+: w := by
  have hname : ¬ ("http" : Text) <:+: (('@' : Char) : UInt8) :: ("see" : Text) := by decide
  rw [List.append_nil, Text.contains_iff, hline.infix_iff (by decide) (by decide)]
  simp only [List.mem_cons, exists_eq_or_imp, or_iff_right hname]

/-- One member, without a space in it, is not cut. -/
theorem splitOn_as_of_not_mem {t : Text} (h : ((' ' : Char) : UInt8) ∉ t) :
    Text.splitOn " as " t = [t] :=
  Text.splitOn_of_not_infix (by decide) fun hin => h (hin.subset (List.mem_cons_self ..))

/-- Two members are told apart by the word between them, even if they are that word. -/
theorem splitOn_as {source target : Text} (hsource : ((' ' : Char) : UInt8) ∉ source)
    (htarget : ((' ' : Char) : UInt8) ∉ target) :
    Text.splitOn " as " (Text.join " " [source, "as", target]) = [source, target] := by
  -- The separator has two spaces, and up to its last byte only one has come.
  have hseam : ¬ (" as " : Text) <:+: source ++ (" as " : Text).dropLast := by
    intro hin
    have hcount := hin.sublist.count_le ((' ' : Char) : UInt8)
    rw [List.count_append, List.count_eq_zero.mpr hsource] at hcount
    exact absurd hcount (by decide)
  have htext : Text.join " " [source, "as", target] = source ++ " as " ++ target := by
    rw [Text.join_cons _ _ (List.cons_ne_nil _ _), Text.join_cons _ _ (List.cons_ne_nil _ _),
      Text.join_singleton]
    simp only [List.append_assoc]
    rfl
  rw [htext, Text.splitOn_append (by decide) hseam, splitOn_as_of_not_mem htarget]

/-! ## Reading written tags -/

theorem ofLine_of_not_mem {render : Text → Text} {path : Text} {line : Line}
    (h : line.name ∉ names) : ofLine render path line = .other line.name (line.wordsFrom 0) := by
  simp only [names, List.mem_cons, List.not_mem_nil, or_false, not_or] at h
  simp only [ofLine, h, if_false]

/-- A written tag is read from its parts, and refers to no file. -/
theorem Spelled.traverse_ofLine (h : tag.Spelled words continuation) {line : Text}
    (hline : Text.Spaced ((('@' : Char) :: tag.name) :: words) line) (path : Text) {ε : Type}
    (f : Text → Traced ε Δ) :
    (ofLine id path ⟨tag.name, words, continuation, line ++ continuation⟩).traverse f = pure tag := by
  have hspace (w : Text) (hw : w ∈ words) : ((' ' : Char) : UInt8) ∉ w :=
    (hline.isWord w (List.mem_cons_of_mem _ hw)).space
  cases h with
  | param hne htypes name description hcontinuation =>
    show pure (Tag.param (typeNames _) _ _) = _
    rw [Line.word, List.drop_zero, List.headD_cons, typeNames_typeList hne htypes]
    rfl
  | returns hne htypes description hcontinuation =>
    show pure (Tag.returns (typeNames _) _) = _
    rw [Line.word, List.drop_zero, List.headD_cons, typeNames_typeList hne htypes]
    rfl
  | type hne htypes =>
    show pure (Tag.type (typeNames _)) = _
    rw [Line.word, List.drop_zero, List.headD_cons, typeNames_typeList hne htypes]
  | api visibility => rfl
  | memberOf parent => rfl
  | augments base => rfl
  | borrows source target =>
    have hmembers := splitOn_as (hspace source (by simp)) (hspace target (by simp))
    show (borrowsOf _).traverse f = _
    rw [borrowsOf, Line.wordsFrom, List.drop_zero, hmembers]
    rfl
  | borrowsAlone source =>
    have hmember := splitOn_as_of_not_mem (hspace source (by simp))
    show (borrowsOf _).traverse f = _
    rw [borrowsOf, Line.wordsFrom, List.drop_zero, Text.join_singleton, hmember]
    rfl
  | seeLocal hlocal =>
    have hmention : ¬ Text.contains "http" (line ++ []) = true := fun hin => by
      obtain ⟨w, hw, hhttp⟩ := (contains_spelled hline).mp hin
      exact hlocal w hw hhttp
    show (seeOf _).traverse f = _
    rw [seeOf, if_neg hmention]
    rfl
  | seeTitled hmentioned =>
    show (seeOf _).traverse f = _
    rw [seeOf, if_pos ((contains_spelled hline).mpr hmentioned), if_pos (by simp)]
    rfl
  | seeAddress hmentioned =>
    have hmention := (contains_spelled hline).mpr ⟨_, List.mem_singleton_self _, hmentioned⟩
    show (seeOf _).traverse f = _
    rw [seeOf, if_pos hmention, if_neg (by simp), Line.wordsFrom, List.drop_zero,
      Text.join_singleton]
    rfl
  | @other name hname words =>
    rw [ofLine_of_not_mem hname]
    rfl

end

end Tag

namespace Extraction

variable {ε : Type}

/-- A written tag is read back, however its words are spaced, and nothing else is done. -/
theorem ofTagText_spelled (load : Loader ε) (multiLine : Bool) (depth : Int) (path : Text)
    {tag : Tag Inclusion} {words : List Text} {continuation line : Text}
    (htag : tag.Spelled words continuation)
    (hline : Text.Spaced ((('@' : Char) :: tag.name) :: words) line) :
    ofTagText load ⟨multiLine, id⟩ depth path (line ++ continuation) = pure tag := by
  rw [ofTagText, Tag.ofText, Tag.Line.ofText_spelled htag.isContinuation hline]
  exact htag.traverse_ofLine hline path _

/-- A parameter that is written with runs of spaces and goes on, and a link with a title. -/
theorem ofTagText_spelled_uneven :
    ofTagText (fun _ => .error ()) ⟨true, id⟩ 1 "a.js" "@param  \x7bA|B\x7d n   the name\n  of it"
        = pure (.param ["A", "B"] "n" "the name\n  of it") ∧
      ofTagText (fun _ => .error ()) ⟨true, id⟩ 1 "a.js" "@see Site   http://x.y"
        = pure (.see "Site" "http://x.y" [] "http://x.y") := by
  have hparam : Text.Spaced [("@param" : Text), "\x7bA|B\x7d", "n", "the", "name"]
      "@param  \x7bA|B\x7d n   the name" :=
    .before (by decide) 1 (.before (by decide) 0 (.before (by decide) 2 (.before (by decide) 0
      (.last (by decide)))))
  have hsee : Text.Spaced [("@see" : Text), "Site", "http://x.y"] "@see Site   http://x.y" :=
    .before (by decide) 0 (.before (by decide) 2 (.last (by decide)))
  have htypes : ∀ t ∈ [("A" : Text), "B"], Tag.IsTypeName t := by
    have hall : ∀ t ∈ [("A" : Text), "B"], t ≠ [] ∧ ((' ' : Char) : UInt8) ∉ t ∧
        Byte.leftBrace ∉ t ∧ Byte.rightBrace ∉ t ∧ t.any Tag.isTypeSeparator = false := by decide
    intro t ht
    obtain ⟨hne, hspace, hleft, hright, hseparator⟩ := hall t ht
    exact ⟨hne, hspace, hleft, hright, fun b hb =>
      Bool.eq_false_iff.mpr (List.any_eq_false.mp hseparator b hb)⟩
  have hcontinuation : Tag.IsContinuation "\n  of it" := fun _ hb => (Option.some.inj hb).symm
  constructor
  · exact ofTagText_spelled _ true 1 "a.js"
      (.param (List.cons_ne_nil _ _) htypes "n" ["the", "name"] hcontinuation) hparam
  · exact ofTagText_spelled _ true 1 "a.js" (.seeTitled ⟨"http://x.y", by simp, by decide⟩) hsee

end Extraction

end DocBlock
