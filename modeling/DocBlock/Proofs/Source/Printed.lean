import DocBlock.Proofs.Source.Indented

/-!
# Doc comments in their usual form

An `Entry` is a doc comment as people write it: the delimiters on lines of their own, a star in
front of every line between them, the description first and one tag a line after it. `Entry.print`
writes it down, with the code after it. `Entry.Conventional` says which lines and which code can be
told apart from the delimiters again.

> `Source.comments_print`: the comments of printed entries are read back, entry by entry.

The layout of the printed text is given outright (`Entry.blocks`) and shown to be a right cut, so
the scan need not be followed. The indentation of an entry is code of the entry before it, where it
is trimmed away.
-/

namespace DocBlock

/-- A doc comment in its usual form, and the code after it. -/
structure Entry where
  /-- Whether the comment is opened as a banner. -/
  isBanner : Bool
  /-- The number of spaces in front of every line. -/
  indent : Nat
  /-- The lines of the description. -/
  description : List Text
  /-- The lines of the tags. -/
  tags : List Text
  /-- The code after the comment. -/
  code : Text

namespace Entry

/-- The lines between the delimiters. -/
def lines (entry : Entry) : List Text := entry.description ++ entry.tags

/-- The delimiter that opens the comment. -/
def opening (entry : Entry) : Text := if entry.isBanner then "/*!" else "/**"

/-- One line between the delimiters. -/
def printLine (entry : Entry) (line : Text) : Text :=
  Text.spaces entry.indent ++ " * " ++ line ++ "\n"

/-- The text of an entry. -/
def print (entry : Entry) : Text :=
  Text.spaces entry.indent ++ entry.opening ++ "\n" ++ entry.lines.flatMap entry.printLine
    ++ Text.spaces entry.indent ++ " */" ++ "\n" ++ entry.code

/-- An entry whose lines and code keep to their place. -/
structure Conventional (entry : Entry) : Prop where
  /-- No line holds a line feed. -/
  line_feed : ∀ line ∈ entry.lines, (('\n' : Char) : UInt8) ∉ line
  /-- No line closes the comment. -/
  closing : ∀ line ∈ entry.lines, ¬ ("*/" : Text) <:+: line
  /-- No line ends in a carriage return. -/
  carriage_return : ∀ line ∈ entry.lines, line.getLast? ≠ some (('\r' : Char) : UInt8)
  /-- No line of the description starts with `@`. -/
  description : ∀ line ∈ entry.description, line.head? ≠ some (('@' : Char) : UInt8)
  /-- The first line of the description does not start with white space. -/
  first : ∀ line ∈ entry.description.head?, Text.startsSolid line = true
  /-- Every tag line starts with `@`. -/
  tags : ∀ line ∈ entry.tags, line.head? = some (('@' : Char) : UInt8)
  /-- The last line does not end with white space. -/
  last : ∀ line ∈ entry.lines.getLast?, Text.endsSolid line = true
  /-- The line ends of the code are line feeds. -/
  code_newlines : ¬ ("\r\n" : Text) <:+: entry.code
  /-- No block comment opens in the code. -/
  code_opens : ∀ k, ¬ OpensAt entry.code k
  /-- The code is empty or ends its last line. -/
  code_end : entry.code = [] ∨ entry.code.getLast? = some (('\n' : Char) : UInt8)

/-! ## The pieces of an entry -/

/-- The character after the opening. -/
def mark (entry : Entry) : Text := if entry.isBanner then "!" else "*"

/-- A line with its decoration. -/
def decorated (entry : Entry) (line : Text) : Text := Text.spaces (entry.indent + 1) ++ "* " ++ line

/-- The lines of the text between the mark and the closing. -/
def bodyLines (entry : Entry) : List Text :=
  ([] :: entry.lines.map entry.decorated) ++ [Text.spaces (entry.indent + 1)]

/-- The text between the mark and the closing. -/
def body (entry : Entry) : Text := Text.join "\n" entry.bodyLines

/-- These are the lines of an indented comment. -/
theorem bodyLines_eq (entry : Entry) :
    entry.bodyLines = Source.starredLines (Text.spaces entry.indent) entry.lines := by
  have hline : entry.decorated = Source.starred (Text.spaces entry.indent) := funext fun line => by
    rw [decorated, Source.starred_eq, Text.spaces_append_space]
  rw [bodyLines, hline, ← Text.spaces_append_space]
  rfl

theorem body_eq (entry : Entry) :
    entry.body = Source.starredText (Text.spaces entry.indent) entry.lines :=
  congrArg (Text.join "\n") entry.bodyLines_eq

theorem opening_eq (entry : Entry) : entry.opening = "/*" ++ entry.mark := by
  unfold opening mark
  cases entry.isBanner <;> rfl

theorem printLine_eq (entry : Entry) (line : Text) :
    entry.printLine line = entry.decorated line ++ "\n" := by
  unfold printLine decorated
  rw [← Text.spaces_append_space, List.append_assoc (Text.spaces _) " " "* "]
  rfl

/-- The mark and the body are what stands between the delimiters. -/
theorem print_eq (entry : Entry) :
    entry.print = Text.spaces entry.indent ++ ("/*" ++ entry.mark ++ entry.body ++ "*/" ++ "\n"
      ++ entry.code) := by
  have hlines : entry.lines.flatMap entry.printLine
      = (entry.lines.map entry.decorated).flatMap (· ++ ("\n" : Text)) := by
    rw [List.flatMap_map]
    exact congrArg (entry.lines.flatMap ·) (funext entry.printLine_eq)
  have hclosing : Text.spaces entry.indent ++ " */" = Text.spaces (entry.indent + 1) ++ "*/" := by
    rw [← Text.spaces_append_space, List.append_assoc]
    rfl
  unfold print body bodyLines
  rw [Text.join_concat, List.flatMap_cons, hlines, opening_eq]
  simp only [List.append_assoc, List.nil_append] at hclosing ⊢
  rw [← List.append_assoc (Text.spaces entry.indent) " */", hclosing]
  simp only [List.append_assoc]

section
variable {entry : Entry}

theorem Conventional.not_closing_body (h : entry.Conventional) :
    ¬ ("*/" : Text) <:+: entry.body := by
  rw [body_eq]
  exact Source.not_closing_starredText (Source.isBlank_spaces _) h.closing

/-- No line of the body ends in a carriage return. -/
theorem Conventional.getLast?_bodyLines (h : entry.Conventional) {line : Text}
    (hline : line ∈ entry.bodyLines) : line.getLast? ≠ some (('\r' : Char) : UInt8) := by
  rw [bodyLines_eq] at hline
  rcases List.mem_append.mp hline with hline | hline
  · rcases List.mem_cons.mp hline with rfl | hline
    · exact nofun
    · obtain ⟨inner, hinner, rfl⟩ := List.mem_map.mp hline
      have hreturn := h.carriage_return inner hinner
      rw [Source.starred_eq, List.getLast?_append]
      cases hlast : inner.getLast? with
      | none =>
        rw [Option.none_or, List.getLast?_append]
        show some ((' ' : Char) : UInt8) ≠ some (('\r' : Char) : UInt8)
        decide
      | some b =>
        rw [hlast] at hreturn
        exact hreturn
  · rw [List.mem_singleton.mp hline, List.getLast?_append]
    show some ((' ' : Char) : UInt8) ≠ some (('\r' : Char) : UInt8)
    decide

theorem Conventional.not_crlf_body (h : entry.Conventional) :
    ¬ ("\r\n" : Text) <:+: entry.body := by
  refine Text.not_infix_join ?_ (fun _ _ hline => h.getLast?_bodyLines hline)
    fun hb => absurd hb (by decide)
  intro line hline hin
  rw [bodyLines_eq] at hline
  exact Source.not_mem_starredLines (Source.isBlank_spaces _) (b := '\n') rfl (by decide)
    h.line_feed line hline (hin.subset (by decide))

/-- The first line does not start with white space, be it of the description or a tag. -/
theorem Conventional.head_lines (h : entry.Conventional) {line : Text}
    (hline : line ∈ entry.lines.head?) : Text.startsSolid line = true := by
  unfold Entry.lines at hline
  rcases hdescription : entry.description with _ | ⟨first, later⟩
  · -- no description: the first line is a tag, and `@` is no white space
    rw [hdescription, List.nil_append] at hline
    obtain ⟨rest, rfl⟩ := List.head?_eq_some_iff.mp (h.tags line (List.mem_of_mem_head? hline))
    rw [Text.startsSolid, Text.characters_cons_of_lt (by decide)]
    rfl
  · rw [hdescription] at hline
    refine h.first line ?_
    rw [hdescription]
    exact hline

/-- The body of an entry is trimmed to its lines. -/
theorem Conventional.trim_bodyText (h : entry.Conventional) :
    Text.trim (Source.bodyText entry.body) = Text.join "\n" entry.lines := by
  have htab : (('\t' : Char) : UInt8) ∉ Text.spaces entry.indent := fun hmem =>
    absurd (Text.eq_space_of_mem_spaces hmem) (by decide)
  rw [body_eq, Source.trim_bodyText_of_spaces (Source.isBlank_spaces _) h.line_feed
    fun hmem => absurd hmem htab]
  exact Text.trim_join (fun line hline => h.head_lines hline) h.last

end

/-! ## The layout of printed entries -/

/-- The indentation of the first of some entries. -/
def leading : List Entry → Nat
  | [] => 0
  | entry :: _ => entry.indent

/-- The closed comment of an entry, when so many spaces follow its code. -/
def block (entry : Entry) (following : Nat) : Block :=
  ⟨entry.mark, entry.body, "\n", entry.code ++ Text.spaces following⟩

/-- The closed comments of some entries. -/
def blocks : List Entry → List Block
  | [] => []
  | entry :: later => entry.block (leading later) :: blocks later

theorem tail_blocks_cases (entries : List Entry) :
    Layout.tail (blocks entries) none = [] ∨
      ∃ inner, Layout.tail (blocks entries) none = "/*" ++ inner := by
  cases entries with
  | nil => exact Or.inl rfl
  | cons entry later =>
    rw [blocks, Layout.tail_cons, Block.text]
    simp only [List.append_assoc]
    exact Or.inr ⟨_, rfl⟩

/-- The pieces of printed entries are their text. -/
theorem spaces_append_tail (entries : List Entry) :
    Text.spaces (leading entries) ++ Layout.tail (blocks entries) none = entries.flatMap print := by
  induction entries with
  | nil => rfl
  | cons entry later ih =>
    rw [List.flatMap_cons, ← ih, blocks, Layout.tail_cons, Block.text, print_eq, leading, block]
    simp only [List.append_assoc]

section
variable {entry : Entry}

/-- The pieces of an entry are cut right. -/
theorem Conventional.fits (h : entry.Conventional) (following : Nat) {rest : Text}
    (hrest : rest = [] ∨ ∃ inner, rest = "/*" ++ inner) : (entry.block following).Fits rest := by
  refine ⟨?_, h.not_closing_body, Or.inr ?_, ?_⟩
  · have hmark : entry.mark = "!" ∨ entry.mark = "*" := by
      unfold mark
      cases entry.isBanner
      · exact Or.inr rfl
      · exact Or.inl rfl
    show IsFirstCharacter entry.mark _
    rcases hmark with hmark | hmark
    · rw [hmark]
      exact Text.characters_cons_of_lt (by decide) _
    · rw [hmark]
      exact Text.characters_cons_of_lt (by decide) _
  · exact Text.characters_cons_of_lt (by decide) _
  · exact isCode_append_spaces h.code_opens h.code_end following hrest

theorem blocks_fit {entries : List Entry} (h : ∀ entry ∈ entries, entry.Conventional)
    {block : Block} {later : List Block} (hsuffix : block :: later <:+ blocks entries) :
    block.Fits (Layout.tail later none) := by
  induction entries with
  | nil => exact absurd (List.suffix_nil.mp hsuffix) (List.cons_ne_nil _ _)
  | cons entry entries ih =>
    rw [blocks] at hsuffix
    rcases List.suffix_cons_iff.mp hsuffix with heq | hlater
    · obtain ⟨rfl, rfl⟩ := List.cons.inj heq
      exact (h entry (List.mem_cons_self ..)).fits _ (tail_blocks_cases entries)
    · exact ih (fun e he => h e (List.mem_cons_of_mem _ he)) hlater

/-! ## The line ends of printed entries -/

/-- Every printed entry ends its last line. -/
theorem Conventional.getLast?_print (h : entry.Conventional) :
    entry.print.getLast? = some (('\n' : Char) : UInt8) := by
  unfold print
  rw [List.getLast?_append]
  rcases h.code_end with hcode | hcode
  · rw [hcode, List.getLast?_append]
    rfl
  · rw [hcode]
    rfl

/-- No line end of a printed entry has a carriage return. -/
theorem Conventional.not_crlf_print (h : entry.Conventional) :
    ¬ ("\r\n" : Text) <:+: entry.print := by
  have hspaces : ¬ ("\r\n" : Text) <:+: Text.spaces entry.indent := fun hin =>
    absurd (Text.eq_space_of_mem_spaces (hin.subset (List.mem_cons_self ..))) (by decide)
  have hopening : ¬ ("\r\n" : Text) <:+: "/*" ++ entry.mark ∧
      ("/*" ++ entry.mark).getLast? ≠ some (('\r' : Char) : UInt8) := by
    unfold mark
    cases entry.isBanner <;> decide
  have hclosing : ("/*" ++ entry.mark ++ entry.body ++ ("*/" ++ "\n")).getLast?
      ≠ some (('\r' : Char) : UInt8) := by
    rw [List.getLast?_append]
    show some (('\n' : Char) : UInt8) ≠ some (('\r' : Char) : UInt8)
    decide
  have hindent : (Text.spaces entry.indent).getLast? ≠ some (('\r' : Char) : UInt8) := fun hlast =>
    absurd (Text.eq_space_of_mem_spaces (List.mem_of_getLast? hlast)) (by decide)
  -- Neither the opening, the closing line nor the indentation ends in a carriage return, and the
  -- closing starts with its star.
  have hbody := Text.not_crlf_append hopening.1 h.not_crlf_body (Or.inl hopening.2)
  have hclosed := Text.not_crlf_append hbody (t := "*/" ++ "\n") (by decide) (Or.inr (by decide))
  have hcode := Text.not_crlf_append hclosed h.code_newlines (Or.inl hclosing)
  rw [print_eq, List.append_assoc _ ("*/" : Text) ("\n" : Text)]
  exact Text.not_crlf_append hspaces hcode (Or.inl hindent)

theorem not_crlf_printed {entries : List Entry} (h : ∀ entry ∈ entries, entry.Conventional) :
    ¬ ("\r\n" : Text) <:+: entries.flatMap print := by
  induction entries with
  | nil => decide
  | cons entry entries ih =>
    have hentry := h entry (List.mem_cons_self ..)
    have hlater := ih fun e he => h e (List.mem_cons_of_mem _ he)
    rw [List.flatMap_cons]
    refine Text.not_crlf_append hentry.not_crlf_print hlater (Or.inl ?_)
    rw [hentry.getLast?_print]
    decide

/-- The layout of printed entries. -/
theorem ofText_print {entries : List Entry} (h : ∀ entry ∈ entries, entry.Conventional) :
    Layout.ofText (Text.unixNewlines (entries.flatMap print))
      = ⟨Text.spaces (leading entries), blocks entries, none⟩ := by
  rw [Text.unixNewlines_eq_self (not_crlf_printed h), Layout.ofText_eq_iff]
  refine ⟨spaces_append_tail entries, ?_, fun block later hsuffix => blocks_fit h hsuffix, ?_⟩
  · have hopens : ∀ k, ¬ OpensAt [] k := fun k hopen => absurd hopen.lt_length (Nat.not_lt_zero k)
    exact isCode_append_spaces hopens (Or.inl rfl) _ (tail_blocks_cases entries)
  · intro comment hcomment
    nomatch hcomment

/-! ## Reading entries back -/

/-- The comment that an entry of the file `path` is written for. -/
def comment (reading : Reading) (path : Text) (entry : Entry) : Comment Text :=
  { declaration := Declaration.infer? (Text.trim entry.code)
    code := Text.trim entry.code
    description := (Description.ofText (Text.join "\n" entry.description)).map reading.render
    tags := entry.tags.map (Tag.ofText reading.render path)
    isPrivate := (entry.tags.map (Tag.ofText reading.render path)).any Tag.hides
    isBanner := entry.isBanner }

/-- The closed comment of an entry is read as the comment of the entry. -/
theorem Conventional.commentWith_block (h : entry.Conventional) {reading : Reading}
    (hreading : reading.multiLine = false) (path : Text) (following : Nat) :
    Source.commentWith reading path (entry.block following) (entry.block following).code
      = entry.comment reading path := by
  have hbanner : (entry.mark.head? == some (('!' : Char) : UInt8)) = entry.isBanner := by
    unfold mark
    cases entry.isBanner <;> decide
  have hspaces : ∀ b ∈ Text.spaces following, Text.isSpace [b] = true := by
    intro b hb
    rw [Text.eq_space_of_mem_spaces hb]
    decide
  have hcode : Text.trim (entry.code ++ Text.spaces following) = Text.trim entry.code :=
    Text.trim_append_right _ hspaces
  have hbody := @Comment.ofBody_of_lines reading hreading path _ _ _ h.trim_bodyText h.line_feed
    h.description h.tags
  show Comment.withCode { Comment.ofBody reading path (Source.bodyText entry.body) with
    isBanner := entry.mark.head? == some (('!' : Char) : UInt8) }
      (entry.code ++ Text.spaces following) = _
  rw [Comment.withCode, hcode, hbody, hbanner]
  rfl

end

end Entry

/-- The comments of printed entries are read back, entry by entry. -/
theorem Source.comments_print {reading : Reading} (hreading : reading.multiLine = false)
    (path : Text) {entries : List Entry} (h : ∀ entry ∈ entries, entry.Conventional) :
    Source.comments reading path (entries.flatMap Entry.print)
      = entries.map (Entry.comment reading path) := by
  rw [Source.comments_of_closed reading path _ (Entry.ofText_print h) rfl]
  show (Entry.blocks entries).map _ = _
  induction entries with
  | nil => rfl
  | cons entry later ih =>
    have hentry := h entry (List.mem_cons_self ..)
    rw [Entry.blocks, List.map_cons, hentry.commentWith_block hreading path,
      ih fun e he => h e (List.mem_cons_of_mem _ he)]
    rfl

end DocBlock
