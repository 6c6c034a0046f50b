import DocBlock.Proofs.Comment
import DocBlock.Proofs.Source.Decoration
import DocBlock.Proofs.Source.Unclosed
import DocBlock.Proofs.Text.Trim

/-!
# Indented doc comments

`Source.printIndented` writes a doc comment over several lines, every line after the same spaces and
tabs. It is read as one comment, whatever the indentation (`comments_printIndented`), but the stars
come off its lines only where spaces alone stand before them:

> `trim_bodyText_of_spaces`: behind spaces, or without a line, the text is that of the lines;
> `trim_bodyText_of_tab`: behind a tab every line keeps its indentation and its star.
-/

namespace DocBlock

/-- Lines that a doc comment can be written with. -/
structure Writable (lines : List Text) : Prop where
  /-- No line holds a line feed. -/
  line_feed : ∀ line ∈ lines, (('\n' : Char) : UInt8) ∉ line
  /-- No line holds a carriage return. -/
  carriage_return : ∀ line ∈ lines, (('\r' : Char) : UInt8) ∉ line
  /-- No line closes the comment. -/
  closing : ∀ line ∈ lines, ¬ ("*/" : Text) <:+: line

namespace Source

/-- A line with the indentation `w` and the star in front of it. -/
def starred (w line : Text) : Text := w ++ " * " ++ line

theorem starred_eq (w line : Text) : starred w line = (w ++ " ") ++ "* " ++ line := by
  rw [starred, List.append_assoc, List.append_assoc, List.append_assoc]
  rfl

/-- The text of a doc comment with these lines, each line of it after the indentation `w`. -/
def printIndented (w : Text) (lines : List Text) : Text :=
  w ++ "/**" ++ "\n" ++ (lines.map (starred w)).flatMap (· ++ ("\n" : Text)) ++ w ++ " */" ++ "\n"

/-- The lines of the text between the mark and the closing. -/
def starredLines (w : Text) (lines : List Text) : List Text :=
  ([] :: lines.map (starred w)) ++ [w ++ " "]

/-- The text between the mark and the closing. -/
def starredText (w : Text) (lines : List Text) : Text := Text.join "\n" (starredLines w lines)

/-- The closed comment of the printed text. -/
def starredBlock (w : Text) (lines : List Text) : Block := ⟨"*", starredText w lines, "\n", []⟩

theorem printIndented_eq (w : Text) (lines : List Text) :
    printIndented w lines = w ++ (starredBlock w lines).text := by
  have hclosing : w ++ (" */" ++ "\n") = (w ++ " ") ++ ("*/" ++ "\n") := by
    rw [List.append_assoc]
    rfl
  unfold printIndented starredBlock Block.text starredText starredLines
  rw [Text.join_concat, List.flatMap_cons]
  simp only [List.append_assoc, List.nil_append, List.append_nil] at hclosing ⊢
  rw [hclosing]
  rfl

section
variable {w : Text} {lines : List Text}

/-! ## One comment -/

theorem isBlank_spaces (n : Nat) : ∀ b ∈ Text.spaces n, Byte.isBlank b = true := by
  intro b hb
  rw [Text.eq_space_of_mem_spaces hb]
  rfl

theorem isBlank_append_space (hw : ∀ b ∈ w, Byte.isBlank b = true) :
    ∀ b ∈ w ++ (" " : Text), Byte.isBlank b = true := by
  intro b hb
  rcases List.mem_append.mp hb with hb | hb
  · exact hw b hb
  · rw [List.mem_singleton.mp hb]
    rfl

/-- What is in no line of the comment and not in the decoration is in none of its lines. -/
theorem not_mem_starredLines (hw : ∀ b ∈ w, Byte.isBlank b = true) {b : UInt8}
    (hb : Byte.isBlank b = false) (hstar : b ≠ (('*' : Char) : UInt8))
    (hlines : ∀ line ∈ lines, b ∉ line) : ∀ line ∈ starredLines w lines, b ∉ line := by
  have hindent : b ∉ w := Text.not_mem_of_isBlank hw hb
  have hspace : b ≠ ((' ' : Char) : UInt8) := by
    rintro rfl
    exact absurd hb (by decide)
  have hdecoration : b ∉ (" * " : Text) ∧ b ∉ (" " : Text) := by
    change b ∉ [((' ' : Char) : UInt8), (('*' : Char) : UInt8), ((' ' : Char) : UInt8)] ∧
      b ∉ [((' ' : Char) : UInt8)]
    simp [hspace, hstar]
  intro line hline
  rcases List.mem_append.mp hline with hline | hline
  · rcases List.mem_cons.mp hline with rfl | hline
    · exact List.not_mem_nil
    · obtain ⟨inner, hinner, rfl⟩ := List.mem_map.mp hline
      simp [starred, hindent, hdecoration, hlines inner hinner]
  · rw [List.mem_singleton.mp hline]
    simp [hindent, hdecoration]

/-- No line closes the comment before its end. -/
theorem not_closing_starredText (hw : ∀ b ∈ w, Byte.isBlank b = true)
    (hlines : ∀ line ∈ lines, ¬ ("*/" : Text) <:+: line) :
    ¬ ("*/" : Text) <:+: starredText w lines := by
  have hindent : ∀ u : Text, (('*' : Char) : UInt8) ∉ u → ¬ ("*/" : Text) <:+: u :=
    fun u hu hin => hu (hin.subset (List.mem_cons_self ..))
  have hstar : (('*' : Char) : UInt8) ∉ w := Text.not_mem_of_isBlank hw rfl
  refine Text.not_infix_join ?_ (fun hb => absurd hb (by decide)) fun hb => absurd hb (by decide)
  intro line hline
  rcases List.mem_append.mp hline with hline | hline
  · rcases List.mem_cons.mp hline with rfl | hline
    · exact hindent [] List.not_mem_nil
    · obtain ⟨inner, hinner, rfl⟩ := List.mem_map.mp hline
      change ¬ (['*', '/'] : Text) <:+: (w ++ " * ") ++ inner
      have hlast : (w ++ " * ").getLast? = some ((' ' : Char) : UInt8) := by
        rw [List.getLast?_append]
        rfl
      rw [Text.pair_infix_append, Text.pair_infix_append, hlast]
      rintro ((hin | hin | ⟨-, hin⟩) | hin | ⟨hin, -⟩)
      · exact hindent w hstar hin
      · exact absurd hin (by decide)
      · exact absurd hin (by decide)
      · exact hlines inner hinner hin
      · exact absurd hin (by decide)
  · rw [List.mem_singleton.mp hline]
    exact hindent _ (by simp [hstar]; decide)

theorem not_mem_printIndented (hw : ∀ b ∈ w, Byte.isBlank b = true)
    (hlines : ∀ line ∈ lines, (('\r' : Char) : UInt8) ∉ line) :
    (('\r' : Char) : UInt8) ∉ printIndented w lines := by
  rw [printIndented_eq]
  unfold starredBlock Block.text
  intro hmem
  simp only [List.mem_append] at hmem
  rcases hmem with hmem | ((((hmem | hmem) | hmem) | hmem) | hmem) | hmem
  · exact Text.not_mem_of_isBlank hw rfl hmem
  · exact absurd hmem (by decide)
  · exact absurd hmem (by decide)
  · rcases Text.of_mem_join hmem with hmem | ⟨line, hline, hmem⟩
    · exact absurd hmem (by decide)
    · exact not_mem_starredLines hw rfl (by decide) hlines line hline hmem
  · exact absurd hmem (by decide)
  · exact absurd hmem (by decide)
  · exact absurd hmem (by decide)

/-- Whatever the indentation, the printed text holds one comment and nothing else. -/
theorem ofText_printIndented (hw : ∀ b ∈ w, Byte.isBlank b = true) (hlines : Writable lines) :
    Layout.ofText (printIndented w lines) = ⟨w, [starredBlock w lines], none⟩ := by
  rw [Layout.ofText_eq_iff]
  have htail : Layout.tail [starredBlock w lines] none = (starredBlock w lines).text := by
    rw [Layout.tail_cons]
    exact List.append_nil _
  refine ⟨?_, ?_, ?_, fun comment hcomment => nomatch hcomment⟩
  · rw [printIndented_eq, Layout.text, htail]
  · rw [htail]
    refine isCode_of_not_mem (Text.not_mem_of_isBlank hw rfl) (Or.inr ?_)
    simp only [Block.text, List.append_assoc]
    exact ⟨_, rfl⟩
  · intro block later hsuffix
    obtain ⟨rfl, rfl⟩ : block = starredBlock w lines ∧ later = [] := by
      rcases List.suffix_cons_iff.mp hsuffix with heq | hnil
      · exact List.cons.inj heq
      · exact absurd (List.suffix_nil.mp hnil) (List.cons_ne_nil _ _)
    exact {
      mark := Text.characters_cons_of_lt (by decide) _
      body := not_closing_starredText hw hlines.closing
      gap := Or.inr (Text.characters_cons_of_lt (by decide) _)
      code := @isCode_of_not_mem [] List.not_mem_nil _ (Or.inl rfl) }

/-- A comment that is no banner and has no code after it is read from its body alone. -/
theorem commentWith_star (reading : Reading) (path body : Text) :
    commentWith reading path ⟨"*", body, "\n", []⟩ []
      = Comment.ofBody reading path (bodyText body) := by
  have hread (t : Text) : { Comment.ofBody reading path t with isBanner := false }
      = Comment.ofBody reading path t := rfl
  have hbanner : (("*" : Text).head? == some (('!' : Char) : UInt8)) = false := by decide
  show Comment.withCode { Comment.ofBody reading path (bodyText body) with
    isBanner := ("*" : Text).head? == some (('!' : Char) : UInt8) } [] = _
  rw [hbanner, hread, ← Comment.attach_eq_withCode rfl rfl]
  exact Comment.attach_of_trim_eq_nil rfl _

/-- The printed text gives one comment, read from the text between the delimiters. -/
theorem comments_printIndented (reading : Reading) (path : Text)
    (hw : ∀ b ∈ w, Byte.isBlank b = true) (hlines : Writable lines) :
    comments reading path (printIndented w lines)
      = [Comment.ofBody reading path (bodyText (starredText w lines))] := by
  have hreturn := not_mem_printIndented hw hlines.carriage_return
  have hlayout := ofText_printIndented hw hlines
  rw [← unixNewlines_of_not_mem hreturn] at hlayout
  rw [comments_of_closed reading path _ hlayout rfl, List.map_singleton]
  exact congrArg ([·]) (commentWith_star reading path (starredText w lines))

/-! ## The text of its lines -/

/-- The decoration is taken off every line on its own, and the blank lines around are trimmed. -/
theorem trim_bodyText (hw : ∀ b ∈ w, Byte.isBlank b = true)
    (hlines : ∀ line ∈ lines, (('\n' : Char) : UInt8) ∉ line) :
    Text.trim (bodyText (starredText w lines))
      = Text.trim (Text.join "\n" (lines.map fun line => undecorate (starred w line))) := by
  have hfeed := not_mem_starredLines hw (b := '\n') rfl (by decide) hlines
  have hblank := isBlank_append_space hw
  have hlast : undecorate (w ++ " ") = w ++ " " := by
    refine undecorate_of_ne fun n rest heq => Text.not_mem_of_isBlank hblank (b := '*') rfl ?_
    rw [heq]
    exact List.mem_append_left _ (List.mem_append_right _ (List.mem_cons_self ..))
  rw [bodyText, starredText, Text.lines_join hfeed (by simp [starredLines]), starredLines,
    List.map_append, List.map_cons, List.map_map, List.map_singleton, hlast]
  exact Text.trim_join_blank _ fun b hb => Text.isSpace_of_isBlank (hblank b hb)

/-- Behind spaces every line loses its star. -/
theorem undecorate_starred_of_spaces (hw : ∀ b ∈ w, Byte.isBlank b = true)
    (htab : (('\t' : Char) : UInt8) ∉ w) (line : Text) : undecorate (starred w line) = line := by
  have hspaces : w = Text.spaces w.length := by
    refine List.eq_replicate_of_mem fun b hb => ?_
    rcases (Bool.or_eq_true_iff ..).mp (hw b hb) with h | h
    · exact beq_iff_eq.mp h
    · rw [beq_iff_eq.mp h] at hb
      exact absurd hb htab
  refine undecorated_iff.mp ?_
  rw [starred_eq, hspaces, Text.spaces_append_space]
  exact .spaced _ line

/-- Behind a tab no line does: only spaces are passed over in search of the star. -/
theorem undecorate_starred_of_tab (hw : ∀ b ∈ w, Byte.isBlank b = true)
    (htab : (('\t' : Char) : UInt8) ∈ w) (line : Text) :
    undecorate (starred w line) = starred w line := by
  refine undecorate_of_ne fun n rest heq => ?_
  have hprefix : w <+: Text.spaces n ++ "*" ++ rest := by
    rw [← heq, starred, List.append_assoc]
    exact List.prefix_append _ _
  rcases List.prefix_or_prefix_of_prefix hprefix (List.prefix_append _ _) with hpre | hpre
  · -- the tab would stand among the spaces, or be the star
    rcases List.mem_append.mp (hpre.subset htab) with hmem | hmem
    · exact absurd (Text.eq_space_of_mem_spaces hmem) (by decide)
    · exact absurd hmem (by decide)
  · -- the star would stand in the indentation
    refine Text.not_mem_of_isBlank hw (b := '*') rfl (hpre.subset ?_)
    exact List.mem_append_right _ (List.mem_cons_self ..)

/-- Behind spaces, or without a line, the text of the comment is that of the lines. -/
theorem trim_bodyText_of_spaces (hw : ∀ b ∈ w, Byte.isBlank b = true)
    (hlines : ∀ line ∈ lines, (('\n' : Char) : UInt8) ∉ line)
    (htab : (('\t' : Char) : UInt8) ∈ w → lines = []) :
    Text.trim (bodyText (starredText w lines)) = Text.trim (Text.join "\n" lines) := by
  rw [trim_bodyText hw hlines]
  by_cases hmem : (('\t' : Char) : UInt8) ∈ w
  · rw [htab hmem]
    rfl
  · simp only [undecorate_starred_of_spaces hw hmem, List.map_id']

/-- Behind a tab the text of the comment has every line with its indentation and its star. -/
theorem trim_bodyText_of_tab (hw : ∀ b ∈ w, Byte.isBlank b = true)
    (hlines : ∀ line ∈ lines, (('\n' : Char) : UInt8) ∉ line)
    (htab : (('\t' : Char) : UInt8) ∈ w) :
    Text.trim (bodyText (starredText w lines))
      = Text.trim (Text.join "\n" (lines.map (starred w))) := by
  rw [trim_bodyText hw hlines]
  simp only [undecorate_starred_of_tab hw htab]

end

end Source

end DocBlock
