import DocBlock.Proofs.Extraction.Spelling

/-!
# Lists of types inside a tag

A list of types may have spaces around its separators (`Tag.typeNames_braced`). A tag line is cut at
its spaces before its list is read, so that the tag takes the first word of the list for the whole
of it, and the next word for what should follow the list:

> `ofTagText_types_iff`: a list of types is read the same inside a tag as on its own exactly if it
> has no spaces.

Otherwise some types are missing at the end, with an empty one in their place if the first space
stands after its separator, and a parameter is named by the second word of its list.
-/

namespace DocBlock

namespace Tag

/-- The parts of a line that starts with a name and a space. -/
theorem Line.ofText_named {name : Text} (hname : Text.IsWord ((('@' : Char) : UInt8) :: name))
    {first : Text} (hfeed : (('\n' : Char) : UInt8) ∉ first) (hne : first ≠ [])
    (hhead : first.head? ≠ some ((' ' : Char) : UInt8)) {rest : Text} (hrest : IsContinuation rest) :
    Line.ofText ((('@' : Char) : UInt8) :: name ++ (Text.spaces 1 ++ first) ++ rest)
      = ⟨name, Text.words first, rest,
        (('@' : Char) : UInt8) :: name ++ (Text.spaces 1 ++ first) ++ rest⟩ := by
  have hline : (('\n' : Char) : UInt8)
      ∉ (('@' : Char) : UInt8) :: name ++ (Text.spaces 1 ++ first) := by
    intro hmem
    rcases List.mem_append.mp hmem with hmem | hmem
    · exact hname.line_feed hmem
    · rcases List.mem_append.mp hmem with hmem | hmem
      · exact absurd (Text.eq_space_of_mem_spaces hmem) (by decide)
      · exact hfeed hmem
  have hwords := Text.words_append hname.space (Text.words_spaces_append 0 hne hhead)
  rw [List.append_nil] at hwords
  rw [Line.ofText_append hline hrest, Line.ofText, Text.takeWhile_bne hline, hwords]
  simp only [List.headD_cons, List.tail_cons, Line.mk.injEq, and_true]
  exact List.erase_cons_head _ _

/-- A line feed in a list of types is one in a name. -/
theorem Listed.line_feed {types : List Text} {r : Text} (h : Listed types r)
    (htypes : ∀ t ∈ types, (('\n' : Char) : UInt8) ∉ t) : (('\n' : Char) : UInt8) ∉ r := by
  intro hmem
  rcases h.of_mem hmem with ⟨t, ht, hmem⟩ | hmem | hmem
  · exact htypes t ht hmem
  · exact absurd hmem (by decide)
  · exact absurd hmem (by decide)

/-- A text is a line, and the lines that follow it. -/
theorem exists_firstLine (t : Text) : ∃ line rest, t = line ++ rest ∧
    (('\n' : Char) : UInt8) ∉ line ∧ IsContinuation rest := by
  refine ⟨t.takeWhile (· != (('\n' : Char) : UInt8)), t.dropWhile (· != (('\n' : Char) : UInt8)),
    List.takeWhile_append_dropWhile.symm, fun hmem => ?_, fun b hb => ?_⟩
  · exact absurd (List.mem_takeWhile_imp hmem) (by decide)
  · have hstop := List.head?_dropWhile_not (· != (('\n' : Char) : UInt8)) t
    rw [hb] at hstop
    simpa using hstop

section
variable {r : Text}

theorem mem_braced {b : UInt8} (hleft : b ≠ Byte.leftBrace) (hright : b ≠ Byte.rightBrace) :
    b ∈ braced r ↔ b ∈ r := by
  simp [braced, hleft, hright]

theorem getLast?_braced : (braced r).getLast? ≠ some ((' ' : Char) : UInt8) := by
  have hlast : (braced r).getLast? = some Byte.rightBrace := by
    rw [braced, ← List.cons_append, List.getLast?_concat]
  rw [hlast]
  decide

/-- The words of a list of types, and of a name and a description behind it. -/
theorem words_braced_append {name : Text} (hname : Text.IsWord name) (d : Text) :
    ∃ later, Text.words (braced r ++ (Text.spaces 1 ++ (name ++ (Text.spaces 1 ++ d))))
      = Text.words (braced r) ++ name :: later := by
  obtain ⟨later, hlater⟩ := Text.words_eq_cons (Text.spaces 1 ++ d)
  have hempty : (Text.spaces 1 ++ d).takeWhile (· != ((' ' : Char) : UInt8)) = [] :=
    List.takeWhile_cons_of_neg (by decide)
  have hwords := Text.words_append hname.space hlater
  rw [hempty, List.append_nil] at hwords
  obtain ⟨b, name, rfl⟩ := List.exists_cons_of_ne_nil hname.ne_nil
  have hb : b ≠ ((' ' : Char) : UInt8) := (List.ne_of_not_mem_cons hname.space).symm
  refine ⟨later, ?_⟩
  rw [← hwords]
  exact Text.words_append_spaces getLast?_braced 0 (List.cons_ne_nil _ _)
    fun hhead => hb (Option.some.inj hhead)

/-- A list of types is one word exactly if it has no spaces. -/
theorem tail_words_braced : (Text.words (braced r)).tail = [] ↔ ((' ' : Char) : UInt8) ∉ r := by
  rw [Text.tail_words_eq_nil_iff, mem_braced (by decide) (by decide)]

end

end Tag

namespace Extraction

variable {ε : Type}

section
variable (load : Loader ε) (reading : Reading) (depth : Int) (path : Text)

/-- The tags with a list of types are read from the words behind their names. -/
theorem ofTagText_typed {r t : Text} (hfeed : (('\n' : Char) : UInt8) ∉ Tag.braced r ++ t)
    {word : Text} {later : List Text} (hwords : Text.words (Tag.braced r ++ t) = word :: later)
    {rest : Text} (hrest : Tag.IsContinuation rest) :
    ofTagText load reading depth path ("@param " ++ (Tag.braced r ++ t) ++ rest)
        = pure (.param (Tag.typeNames word) (later.headD [])
          (reading.render (Text.join " " (later.drop 1) ++ rest))) ∧
      ofTagText load reading depth path ("@return " ++ (Tag.braced r ++ t) ++ rest)
        = pure (.returns (Tag.typeNames word) (reading.render (Text.join " " later ++ rest))) ∧
      ofTagText load reading depth path ("@type " ++ (Tag.braced r ++ t) ++ rest)
        = pure (.type (Tag.typeNames word)) := by
  have hhead : (Tag.braced r ++ t).head? ≠ some ((' ' : Char) : UInt8) := by
    rw [Tag.braced, List.cons_append, List.head?_cons]
    decide
  have hparts (tag : Text) (htag : Text.IsWord ((('@' : Char) : UInt8) :: tag)) :
      ofTagText load reading depth path
          ((('@' : Char) : UInt8) :: tag ++ (Text.spaces 1 ++ (Tag.braced r ++ t)) ++ rest)
        = (Tag.ofLine reading.render path ⟨tag, word :: later, rest,
            (('@' : Char) : UInt8) :: tag ++ (Text.spaces 1 ++ (Tag.braced r ++ t)) ++ rest⟩).traverse
          (follow (levels load reading depth.toNat) path) := by
    rw [ofTagText, Tag.ofText,
      Tag.Line.ofText_named htag hfeed (List.cons_ne_nil _ _) hhead hrest, hwords]
  exact ⟨hparts "param" (by decide), hparts "return" (by decide), hparts "type" (by decide)⟩

end

/-- A list of types is read the same inside a tag as on its own exactly if it has no spaces. -/
theorem ofTagText_types_iff (load : Loader ε) (reading : Reading) (depth : Int) (path : Text)
    {types : List Text} {r name : Text} (hlist : Tag.Listed types r)
    (htypes : ∀ t ∈ types, Tag.IsTypeName t) (hfeed : ∀ t ∈ types, (('\n' : Char) : UInt8) ∉ t)
    (hname : Text.IsWord name) (description : Text) :
    Tag.typeNames (Tag.braced r) = types ∧ ∃ read second text,
      ofTagText load reading depth path
          ("@param " ++ Tag.braced r ++ " " ++ name ++ " " ++ description)
        = pure (.param read second text) ∧
      ofTagText load reading depth path ("@return " ++ Tag.braced r)
        = pure (.returns read (reading.render (Text.join " " (Text.words (Tag.braced r)).tail))) ∧
      ofTagText load reading depth path ("@type " ++ Tag.braced r) = pure (.type read) ∧
      (read = types ↔ ((' ' : Char) : UInt8) ∉ r) ∧
      (((' ' : Char) : UInt8) ∉ r → second = name) ∧
      (((' ' : Char) : UInt8) ∈ r →
        Tag.IsCutList read types ∧ (Text.words (Tag.braced r))[1]? = some second) := by
  have hread := Tag.typeNames_braced hlist htypes
  have hmem {b : UInt8} (hleft : b ≠ Byte.leftBrace) (hright : b ≠ Byte.rightBrace) :
      b ∉ r → b ∉ Tag.braced r := mt (Tag.mem_braced hleft hright).mp
  have hline := hmem (by decide) (by decide) (hlist.line_feed hfeed)
  -- The description is the rest of the first line, and the lines that follow it.
  obtain ⟨d, rest, rfl, hd, hrest⟩ := Tag.exists_firstLine description
  have hfirst : (('\n' : Char) : UInt8)
      ∉ Tag.braced r ++ (Text.spaces 1 ++ (name ++ (Text.spaces 1 ++ d))) := by
    have hspace : (('\n' : Char) : UInt8) ∉ Text.spaces 1 := by decide
    simp only [List.mem_append, not_or]
    exact ⟨hline, hspace, hname.line_feed, hspace, hd⟩
  have hparts : "@param " ++ Tag.braced r ++ " " ++ name ++ " " ++ (d ++ rest) = "@param "
      ++ (Tag.braced r ++ (Text.spaces 1 ++ (name ++ (Text.spaces 1 ++ d)))) ++ rest := by
    simp only [List.append_assoc]
    rfl
  -- The words of the list go to the types, the name and the description in turn.
  obtain ⟨later, hlater⟩ := Text.words_eq_cons (Tag.braced r)
  obtain ⟨others, hothers⟩ := Tag.words_braced_append (r := r) hname d
  have hone := Tag.tail_words_braced (r := r)
  rw [hlater] at hone hothers ⊢
  rw [← List.append_nil (Tag.braced r)] at hlater hline
  obtain ⟨hparam, -, -⟩ := ofTagText_typed load reading depth path hfirst hothers hrest
  have hstop : Tag.IsContinuation [] := fun _ hb => nomatch hb
  obtain ⟨-, hreturns, htype⟩ := ofTagText_typed load reading depth path hline hlater hstop
  simp only [List.append_nil] at hreturns htype
  rw [hparts]
  refine ⟨hread, _, _, _, hparam, hreturns, htype, ?_⟩
  by_cases hspace : ((' ' : Char) : UInt8) ∈ r
  · have hcut := Tag.isCutList_typeNames hlist htypes hspace
    obtain ⟨second, later, rfl⟩ := List.exists_cons_of_ne_nil (hone.not.mpr (not_not.mpr hspace))
    exact ⟨iff_of_false (hcut.ne htypes) fun hnot => hnot hspace, fun hnot => absurd hspace hnot,
      fun _ => ⟨hcut, rfl⟩⟩
  · rw [List.tail_cons] at hone
    rw [hone.mpr hspace, Text.takeWhile_bne (hmem (by decide) (by decide) hspace)]
    exact ⟨iff_of_true hread hspace, fun _ => rfl, fun h => absurd h hspace⟩

/-- A parameter and a type with a list without spaces. -/
theorem ofTagText_types_tight :
    (∃ text, ofTagText (fun _ => .error ()) ⟨true, id⟩ 1 "lib/a.js" "@param \x7bA|B,C\x7d x the x"
        = pure (.param ["A", "B", "C"] "x" text)) ∧
      ofTagText (fun _ => .error ()) ⟨true, id⟩ 1 "lib/a.js" "@type \x7bA|B,C\x7d"
        = pure (.type ["A", "B", "C"]) := by
  have hlist : Tag.Listed ["A", "B", "C"] "A|B,C" :=
    .next "A" (by decide) (.next "B" (by decide) (.last "C"))
  have hall : ∀ t ∈ [("A" : Text), "B", "C"], Tag.IsTypeName t ∧ (('\n' : Char) : UInt8) ∉ t := by
    decide
  have hname : Text.IsWord "x" := by decide
  obtain ⟨-, read, second, text, hparam, -, htype, hread, hsecond, -⟩ :=
    ofTagText_types_iff (fun _ => .error ()) ⟨true, id⟩ 1 "lib/a.js" hlist
      (fun t ht => (hall t ht).1) (fun t ht => (hall t ht).2) hname "the x"
  rw [hread.mpr (by decide)] at hparam htype
  rw [hsecond (by decide)] at hparam
  exact ⟨⟨text, hparam⟩, htype⟩

/-- With spaces around its separator, a list loses a type, and its parameter the name. -/
theorem ofTagText_types_shifted :
    Tag.Listed ["A", "B"] "A | B" ∧ Tag.typeNames "\x7bA | B\x7d" = ["A", "B"] ∧
      ofTagText (fun _ => .error ()) ⟨false, id⟩ 0 "lib/a.js" "@param \x7bA | B\x7d x d"
        = pure (.param ["A"] "|" "B\x7d x d") ∧
      ofTagText (fun _ => .error ()) ⟨false, id⟩ 0 "lib/a.js" "@type \x7bA | B\x7d"
        = pure (.type ["A"]) := by
  have hseparator : Tag.isTypeSeparator '|' = true := by decide
  exact ⟨.before "A" 1 hseparator 1 (.last "B"), by decide, rfl, rfl⟩

end Extraction

end DocBlock
