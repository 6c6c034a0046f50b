import DocBlock.Proofs.Extraction.Spelling

/-!
# Lines that keep their words

A line whose name has no grammar of its own keeps its words: the first is its name, the others its
text. So does a line of prose that is no tag at all. Cutting at spaces and joining again makes every
run of spaces one space (`Text.join_words`), so the name and the text are the line in this spelling,
but for one `@`. It should be the one in front of the name. It is the first in the first word,
wherever in the word it stands:

> `ofTagText_keepsWords_iff`: a line keeps all its words, without the `@` it starts with, exactly if
> its first word holds no `@` or starts with one.
-/

namespace DocBlock

namespace Tag

/-- The text without an `@` in front of it. -/
def withoutMark (t : Text) : Text := if t.head? = some (('@' : Char) : UInt8) then t.tail else t

/-- The word holds an `@`, but does not start with one. -/
def HoldsMark (word : Text) : Prop :=
  (('@' : Char) : UInt8) ∈ word ∧ word.head? ≠ some (('@' : Char) : UInt8)

instance (word : Text) : Decidable (HoldsMark word) := inferInstanceAs (Decidable (_ ∧ _))

/-- A name and a text as they stand in a line. Without a space there is no text. -/
def rejoined (line name text : Text) : Text :=
  name ++ if ((' ' : Char) : UInt8) ∈ line then " " ++ text else []

section
variable {word rest : Text}

/-- A word loses its first `@`, and no other byte. It is the `@` in front, unless that is missing. -/
theorem erase_append_eq_iff (hrest : rest.head? ≠ some (('@' : Char) : UInt8)) :
    word.erase '@' ++ rest = withoutMark (word ++ rest) ↔ ¬ HoldsMark word := by
  by_cases hmem : (('@' : Char) : UInt8) ∈ word
  · obtain ⟨b, word, rfl⟩ := List.exists_cons_of_ne_nil (List.ne_nil_of_mem hmem)
    by_cases hb : b = '@'
    · subst hb
      simp [withoutMark, HoldsMark]
    · -- an `@` further in is missed
      have hhead : ((b :: word) ++ rest).head? ≠ some (('@' : Char) : UInt8) := by simpa using hb
      rw [withoutMark, if_neg hhead, List.append_cancel_right_eq]
      refine iff_of_false (fun heq => ?_) fun hnot => hnot ⟨hmem, by simpa using hb⟩
      have hlength := congrArg List.length heq
      rw [List.length_erase_of_mem hmem, List.length_cons] at hlength
      omega
  · have hhead : (word ++ rest).head? ≠ some (('@' : Char) : UInt8) := by
      cases word with
      | nil => exact hrest
      | cons b word =>
        intro hb
        exact hmem (by rw [← Option.some.inj hb]; exact List.mem_cons_self ..)
    rw [withoutMark, if_neg hhead, List.erase_of_not_mem hmem]
    exact iff_of_true rfl fun h => hmem h.1

theorem erase_eq_iff (h : word.head? ≠ some (('@' : Char) : UInt8)) :
    word.erase '@' = word ↔ ¬ HoldsMark word := by
  have hrest : ([] : Text).head? ≠ some (('@' : Char) : UInt8) := nofun
  have hiff := @erase_append_eq_iff word [] hrest
  rwa [List.append_nil, List.append_nil, withoutMark, if_neg h] at hiff

end

/-- Following a reference does not make a line keep its words. -/
theorem eq_other_of_traverse {ε Δ Γ : Type} {f : Δ → Traced ε Γ} {t : Tag Δ} {name text : Text}
    (h : (t.traverse f).result = .ok (.other name text)) : t = .other name text := by
  cases t with
  | other name' text' =>
    cases h
    rfl
  | detail content =>
    simp only [traverse, Traced.result_map] at h
    cases hcontent : (f content).result with
    | error e => rw [hcontent] at h; cases h
    | ok c => rw [hcontent] at h; cases h
  | _ => cases h

/-- A line that keeps its words has its first word, without an `@`, as its name, and the others as
its text. -/
theorem eq_of_ofText_other {render : Text → Text} {path line name text : Text}
    (hline : (('\n' : Char) : UInt8) ∉ line) (h : ofText render path line = .other name text) :
    name = (firstWord line).erase '@' ∧ text = Text.join " " (Text.words line).tail := by
  have hkind := (ofLine_kind render path (Line.ofText line)).2
  rw [← ofText, h] at hkind
  have hname : (Line.ofText line).name ∉ names := Kind.ofName_eq_other_iff.mp hkind.symm
  rw [ofText, ofLine_of_not_mem hname, other.injEq] at h
  obtain ⟨rfl, rfl⟩ := h
  refine ⟨Line.name_ofText line, ?_⟩
  rw [Line.wordsFrom, List.drop_zero]
  simp only [Line.ofText, Text.takeWhile_bne hline]

/-- A line with one space for every run of spaces is its first word and what follows. -/
theorem singleSpaced_eq {line : Text} (hline : (('\n' : Char) : UInt8) ∉ line) :
    Text.singleSpaced line
      = rejoined line (firstWord line) (Text.join " " (Text.words line).tail) := by
  obtain ⟨later, hlater⟩ := Text.words_eq_cons line
  have hone := Text.tail_words_eq_nil_iff line
  rw [hlater, List.tail_cons] at hone
  rw [← Text.join_words, hlater, rejoined, firstWord, Text.takeWhile_bne hline, List.tail_cons]
  by_cases hspace : ((' ' : Char) : UInt8) ∈ line
  · have hne : later ≠ [] := fun h => hone.mp h hspace
    rw [if_pos hspace, Text.join_cons _ _ hne, List.append_assoc]
  · rw [if_neg hspace, hone.mpr hspace, Text.join_singleton, List.append_nil]

end Tag

namespace Extraction

variable {ε : Type}

/-- A line without a grammar of its own keeps all its words, without the `@` it starts with, exactly
if its first word holds no `@` that it does not start with. In any case one `@` at most is lost, and
it is the first of the first word. -/
theorem ofTagText_keepsWords_iff (load : Loader ε) (reading : Reading) (depth : Int) (path : Text)
    {line name text : Text} (hline : (('\n' : Char) : UInt8) ∉ line)
    (hother : (ofTagText load reading depth path line).result = .ok (.other name text)) :
    (Tag.rejoined line name text = Tag.withoutMark (Text.singleSpaced line) ↔
      ¬ Tag.HoldsMark (Tag.firstWord line)) ∧
    (line.head? ≠ some (('@' : Char) : UInt8) →
      (name = Tag.firstWord line ↔ ¬ Tag.HoldsMark (Tag.firstWord line))) ∧
    Tag.rejoined line name text = (Tag.firstWord line).erase '@'
      ++ (Text.singleSpaced line).drop (Tag.firstWord line).length ∧
    (((' ' : Char) : UInt8) ∉ line → text = []) := by
  obtain ⟨rfl, rfl⟩ := Tag.eq_of_ofText_other hline (Tag.eq_other_of_traverse hother)
  have hspaced := Tag.singleSpaced_eq hline
  have hrest : (if ((' ' : Char) : UInt8) ∈ line then
      " " ++ Text.join " " (Text.words line).tail else []).head? ≠ some (('@' : Char) : UInt8) := by
    split
    · show some ((' ' : Char) : UInt8) ≠ some (('@' : Char) : UInt8)
      decide
    · exact nofun
  refine ⟨?_, fun hhead => Tag.erase_eq_iff ?_, ?_, fun hspace => ?_⟩
  · rw [hspaced]
    exact Tag.erase_append_eq_iff hrest
  · rw [Tag.firstWord, Text.takeWhile_bne hline, List.head?_takeWhile]
    intro hmark
    exact hhead (Option.filter_eq_some_iff.mp hmark).1
  · rw [hspaced, Tag.rejoined, Tag.rejoined, List.drop_left]
  · rw [(Text.tail_words_eq_nil_iff line).mpr hspace]
    rfl

/-- A line of prose with runs of spaces, and a tag with a second `@`. -/
theorem ofTagText_keepsWords_spaced :
    Tag.rejoined "call  you   @ noon " "call" "you @ noon "
        = Tag.withoutMark (Text.singleSpaced "call  you   @ noon ") ∧
      Tag.rejoined "@a@b  c" "a@b" "c" = Tag.withoutMark (Text.singleSpaced "@a@b  c") := by
  constructor
  · exact (ofTagText_keepsWords_iff (fun _ => .error ()) ⟨false, id⟩ 1 "lib/a.js"
      (by decide) rfl).1.mpr (by decide)
  · exact (ofTagText_keepsWords_iff (fun _ => .error ()) ⟨true, id⟩ 0 "lib/a.js"
      (by decide) rfl).1.mpr (by decide)

/-- A line of prose that starts with a mail address loses the `@` of the address. -/
theorem ofTagText_loses_mark :
    (('\n' : Char) : UInt8) ∉ ("me@example.com wrote  this" : Text) ∧
      (ofTagText (fun _ => .error ()) ⟨false, id⟩ 0 "lib/a.js" "me@example.com wrote  this").result
        = .ok (.other "meexample.com" "wrote this") ∧
      Tag.rejoined "me@example.com wrote  this" "meexample.com" "wrote this"
        ≠ Tag.withoutMark (Text.singleSpaced "me@example.com wrote  this") ∧
      ("meexample.com" : Text) ≠ Tag.firstWord "me@example.com wrote  this" := by
  exact ⟨by decide, rfl, by decide, by decide⟩

end Extraction

end DocBlock
