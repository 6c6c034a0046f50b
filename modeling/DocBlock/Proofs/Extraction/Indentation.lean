import DocBlock.Proofs.Extraction.Body
import DocBlock.Proofs.Source.Indented

/-!
# Indentation and what is documented

A doc comment is indented with the code around it. Indented by spaces it documents the same as
without; but a tab keeps the stars on its lines, and behind a star no line starts with `@`
(`Comment.ofBody_starred`). So all of its text is description and every tag is lost, unless there is
no line to lose one:

> `ofSource_printIndented`: a comment without indentation is read from its lines, and an indented one
> is read as the same comment if its indentation holds no tab or it has no lines; otherwise it has no
> tags, and the stars are in its description.

That the description is another one then is a matter of counting: it has a star more for each line
(`count_star_join`), and trimming takes none away.
-/

namespace DocBlock

namespace Source

variable {w : Text}

/-- Every line that keeps its star has one more. -/
theorem count_star_join (hw : ∀ b ∈ w, Byte.isBlank b = true) (lines : List Text) :
    (Text.join "\n" (lines.map (starred w))).count (('*' : Char) : UInt8)
      = lines.length + (Text.join "\n" lines).count (('*' : Char) : UInt8) := by
  have hstarred (line : Text) : (starred w line).count (('*' : Char) : UInt8)
      = 1 + line.count (('*' : Char) : UInt8) := by
    have hindent : w.count (('*' : Char) : UInt8) = 0 :=
      List.count_eq_zero.mpr (Text.not_mem_of_isBlank hw rfl)
    rw [starred, List.count_append, List.count_append, hindent]
    exact congrArg (· + _) (Nat.zero_add _)
  have hfeed : ("\n" : Text).count (('*' : Char) : UInt8) = 0 := by decide
  induction lines with
  | nil => rfl
  | cons line lines ih =>
    by_cases hnil : lines = []
    · rw [hnil, List.map_singleton, Text.join_singleton, Text.join_singleton, hstarred]
      rfl
    · have hmap : lines.map (starred w) ≠ [] := mt List.map_eq_nil_iff.mp hnil
      rw [List.map_cons, Text.join_cons _ _ hmap, Text.join_cons _ _ hnil, List.length_cons]
      simp only [List.count_append, hstarred, hfeed, ih]
      omega

end Source

namespace Comment

/-- A comment is read from its trimmed text. -/
theorem ofBody_congr (reading : Reading) (path : Text) {body body' : Text}
    (h : Text.trim body = Text.trim body') : ofBody reading path body = ofBody reading path body' := by
  rw [ofBody, ofBody, h]

/-- The description is no longer than the text. -/
theorem count_parts_le (b : UInt8) (body : Text) : (parts body).1.count b ≤ body.count b := by
  rcases parts_cases body with ⟨-, hparts⟩ | ⟨-, -, hparts⟩ | ⟨-, full, tags, -, hbody, -, hparts⟩
  · rw [hparts]
    exact Nat.zero_le _
  · rw [hparts]
  · rw [hparts, hbody, List.append_assoc]
    exact (List.sublist_append_left full _).count_le b

/-- No line that keeps its star starts with `@`. -/
theorem not_infix_join_starred {w : Text} (hw : ∀ b ∈ w, Byte.isBlank b = true) {lines : List Text}
    (hlines : ∀ line ∈ lines, (('\n' : Char) : UInt8) ∉ line) :
    ¬ ("\n@" : Text) <:+: Text.join "\n" (lines.map (Source.starred w)) := by
  refine Text.not_infix_join ?_ (fun hb => absurd hb (by decide)) fun _ => ⟨by decide, ?_⟩
  · intro line hline hin
    refine Source.not_mem_starredLines hw (b := '\n') rfl (by decide) hlines line ?_
      (hin.subset (List.mem_cons_self ..))
    exact List.mem_append_left _ (List.mem_cons_of_mem _ hline)
  · intro line hline hhead
    obtain ⟨inner, -, rfl⟩ := List.mem_map.mp hline
    cases w with
    | nil => exact absurd (Option.some.inj hhead) (by decide)
    | cons b w =>
      have hat := hw b (List.mem_cons_self ..)
      rw [Option.some.inj hhead] at hat
      exact nomatch hat

/-- Lines that keep their stars are all description. -/
theorem parts_starred {w : Text} (hw : ∀ b ∈ w, Byte.isBlank b = true) {lines : List Text}
    (hlines : ∀ line ∈ lines, (('\n' : Char) : UInt8) ∉ line) (hne : lines ≠ []) :
    parts (Text.trim (Text.join "\n" (lines.map (Source.starred w))))
      = (Text.trim (Text.join "\n" (lines.map (Source.starred w))), none) := by
  have hnot := not_infix_join_starred hw hlines
  have hhead : (Text.trim (Text.join "\n" (lines.map (Source.starred w)))).head?
      = some (('*' : Char) : UInt8) := by
    obtain ⟨line, later, rfl⟩ := List.exists_cons_of_ne_nil hne
    obtain ⟨rest, hrest⟩ := Text.exists_join_cons "\n" (Source.starred w line)
      (later.map (Source.starred w))
    have hblank : ∀ b ∈ w ++ (" " : Text), Text.isSpace [b] = true := fun b hb =>
      Text.isSpace_of_isBlank (Source.isBlank_append_space hw b hb)
    rw [List.map_cons, hrest, Source.starred_eq, List.append_assoc, List.append_assoc,
      Text.trim_append_left hblank]
    exact Text.head?_trim_cons (by decide) (by decide) _
  rcases parts_cases (Text.trim (Text.join "\n" (lines.map (Source.starred w)))) with
    ⟨hat, -⟩ | ⟨-, -, hparts⟩ | ⟨-, full, tags, -, hbody, htags, -⟩
  · rw [hhead] at hat
    exact absurd (Option.some.inj hat) (by decide)
  · exact hparts
  · -- a tag would follow a line feed in the trimmed text, and so in the text itself
    obtain ⟨rest, rfl⟩ := List.head?_eq_some_iff.mp htags
    refine absurd (List.IsInfix.trans ?_ (Text.trim_infix _)) hnot
    rw [hbody, List.append_assoc]
    exact ⟨full, rest, by rw [List.append_assoc]; rfl⟩

theorem description_ofBody (multiLine : Bool) (path body : Text) :
    (ofBody ⟨multiLine, id⟩ path body).description
      = Description.ofText (parts (Text.trim body)).1 := rfl

/-- Behind a tab the lines of a comment are description, with their stars, and give no tag. -/
theorem ofBody_starred (multiLine : Bool) (path : Text) {w : Text}
    (hw : ∀ b ∈ w, Byte.isBlank b = true) (htab : (('\t' : Char) : UInt8) ∈ w) {lines : List Text}
    (hlines : ∀ line ∈ lines, (('\n' : Char) : UInt8) ∉ line) (hne : lines ≠ []) :
    (ofBody ⟨multiLine, id⟩ path (Source.bodyText (Source.starredText w lines))).tags = [] ∧
      (ofBody ⟨multiLine, id⟩ path (Source.bodyText (Source.starredText w lines))).description
        = Description.ofText (Text.trim (Text.join "\n" (lines.map (Source.starred w)))) := by
  have hparts := parts_starred hw hlines hne
  constructor
  · rw [ofBody, Source.trim_bodyText_of_tab hw hlines htab, hparts]
    rfl
  · rw [description_ofBody, Source.trim_bodyText_of_tab hw hlines htab, hparts]

/-- That is not the description of the lines themselves: there is a star more for each line. -/
theorem description_starred_ne (multiLine : Bool) (path : Text) {w : Text}
    (hw : ∀ b ∈ w, Byte.isBlank b = true) {lines : List Text} (hne : lines ≠ []) {body : Text}
    (hbody : Text.trim body = Text.trim (Text.join "\n" lines)) :
    Description.ofText (Text.trim (Text.join "\n" (lines.map (Source.starred w))))
      ≠ (ofBody ⟨multiLine, id⟩ path body).description := by
  intro heq
  rw [description_ofBody, hbody] at heq
  have hfull : Text.trim (Text.join "\n" (lines.map (Source.starred w)))
      = (parts (Text.trim (Text.join "\n" lines))).1 := congrArg Description.full heq
  have hsolid : Text.isSpace [(('*' : Char) : UInt8)] = false := by decide
  have hlength := List.length_pos_iff.mpr hne
  have hle := count_parts_le (('*' : Char) : UInt8) (Text.trim (Text.join "\n" lines))
  rw [← hfull, Text.count_trim (by decide) hsolid, Text.count_trim (by decide) hsolid,
    Source.count_star_join hw] at hle
  omega

end Comment

namespace Extraction

variable {ε : Type}

/-- Without indentation a comment is read from its lines. Indentation without a tab changes nothing,
and neither does any that no line is behind. A line behind a tab keeps its star, so that the comment
has no tags and another description. -/
theorem ofSource_printIndented (load : Loader ε) (multiLine : Bool) (depth : Int)
    (hdepth : depth ≤ 0) (path w : Text) (hw : ∀ b ∈ w, Byte.isBlank b = true) (lines : List Text)
    (hlines : Writable lines) :
    ∃ indented plain,
      (ofSource load ⟨multiLine, id⟩ depth path (Source.printIndented w lines)).result
        = .ok [indented] ∧
      (ofSource load ⟨multiLine, id⟩ depth path (Source.printIndented [] lines)).result
        = .ok [plain] ∧
      (ofBody load ⟨multiLine, id⟩ depth path (Text.join "\n" lines)).result = .ok plain ∧
      (((('\t' : Char) : UInt8) ∈ w → lines = []) → indented = plain) ∧
      ((('\t' : Char) : UInt8) ∈ w → lines ≠ [] →
        indented.tags = [] ∧ indented.description ≠ plain.description ∧
        indented.description
          = Description.ofText (Text.trim (Text.join "\n" (lines.map (Source.starred w))))) := by
  have hread (u : Text) (hu : ∀ b ∈ u, Byte.isBlank b = true) :
      (ofSource load ⟨multiLine, id⟩ depth path (Source.printIndented u lines)).result
        = .ok [(Comment.ofBody ⟨multiLine, id⟩ path
            (Source.bodyText (Source.starredText u lines))).map .reference] := by
    rw [result_ofSource_of_nonpos hdepth, Source.comments_printIndented _ _ hu hlines]
    rfl
  have hplain := Source.trim_bodyText_of_spaces (w := []) (fun _ hb => nomatch hb) hlines.line_feed
    fun hb => nomatch hb
  refine ⟨_, _, hread w hw, hread [] (fun _ hb => nomatch hb), ?_, fun htab => ?_,
    fun htab hne => ?_⟩
  · rw [result_ofBody_of_nonpos hdepth, Comment.ofBody_congr _ path hplain]
  · have hspaces := Source.trim_bodyText_of_spaces hw hlines.line_feed htab
    rw [Comment.ofBody_congr _ path (hspaces.trans hplain.symm)]
  · obtain ⟨htags, hdescription⟩ :=
      Comment.ofBody_starred multiLine path hw htab hlines.line_feed hne
    have hother := Comment.description_starred_ne multiLine path hw hne hplain
    rw [Comment.tags_map, htags, Comment.description_map, Comment.description_map, hdescription]
    exact ⟨rfl, hother, rfl⟩

/-- A description and a tag behind two spaces, and behind a tab. -/
theorem ofSource_printIndented_private :
    (∃ comment, (ofSource (fun _ => .error ()) ⟨false, id⟩ 0 "a.js"
        (Source.printIndented "  " ["a", "@api private"])).result = .ok [comment] ∧
      (ofSource (fun _ => .error ()) ⟨false, id⟩ 0 "a.js"
        (Source.printIndented [] ["a", "@api private"])).result = .ok [comment]) ∧
    ∃ comment, (ofSource (fun _ => .error ()) ⟨false, id⟩ 0 "a.js"
        (Source.printIndented "\t" ["a", "@api private"])).result = .ok [comment] ∧
      comment.tags = [] := by
  have hlines : Writable ["a", "@api private"] := ⟨by decide, by decide, by decide⟩
  constructor
  · obtain ⟨comment, plain, hindented, hplain, -, hsame, -⟩ := ofSource_printIndented
      (fun _ => .error ()) false 0 (by decide) "a.js" "  " (List.all_eq_true.mp rfl) _ hlines
    obtain rfl := hsame fun htab => absurd htab (by decide)
    exact ⟨comment, hindented, hplain⟩
  · obtain ⟨comment, plain, hindented, -, -, -, hstarred⟩ := ofSource_printIndented
      (fun _ => .error ()) false 0 (by decide) "a.js" "\t" (List.all_eq_true.mp rfl) _ hlines
    exact ⟨comment, hindented, (hstarred (by decide) (List.cons_ne_nil _ _)).1⟩

/-- The private member is not private any more once it is indented by a tab. -/
theorem ofSource_printIndented_loses_tags :
    Source.printIndented "\t" ["a", "@api private"]
        = ("\t/**\n\t * a\n\t * @api private\n\t */\n" : Text) ∧
      Source.printIndented [] ["a", "@api private"]
        = ("/**\n * a\n * @api private\n */\n" : Text) ∧
      (ofSource (fun _ => .error ()) ⟨false, id⟩ 0 "a.js"
          "\t/**\n\t * a\n\t * @api private\n\t */\n").result.toOption.map
        (fun comments => comments.map fun c => (c.description.full, c.tags.length, c.isPrivate))
          = some [(("* a\n\t * @api private" : Text), 0, false)] ∧
      (ofSource (fun _ => .error ()) ⟨false, id⟩ 0 "a.js"
          "/**\n * a\n * @api private\n */\n").result.toOption.map
        (fun comments => comments.map fun c => (c.description.full, c.tags.length, c.isPrivate))
          = some [(("a" : Text), 1, true)] := by
  decide +kernel

end Extraction

end DocBlock
