import DocBlock.Proofs.Extraction.Levels
import DocBlock.Proofs.Source.Unclosed

/-!
# How many comments are found

In the layout of a source text the one character after each delimiter goes with it, whatever it is
(`Layout.IsPartition`). Block comments are usually told apart by their delimiters alone: outside
comments `/*` opens one unless a line comment goes on there, and the next `*/` closes it. `Lexes`
reads a text that way. The two differ where a comment with nothing in it ends, and where a comment
of either kind opens right after another one.

> `Lexes.blocks_eq`: apart from these two cases both find the same comments;
> `ofSource_count`: every block comment of the layout gives one comment, and so does every one that
> is told apart by its delimiters, apart from these cases;
> `ofSource_count_abutting`: in these cases the two numbers differ.
-/

namespace DocBlock

/-- A closed block comment, found by its delimiters. -/
structure Found where
  /-- The text between the delimiters. -/
  body : Text
  /-- The text after the closing delimiter, to the end of the source. -/
  rest : Text

/-- The block comments of a text, all of them closed. A comment opens where the code before it ends,
and the first `*/` after its opening closes it. -/
inductive Lexes : Text → List Found → Prop
  | code {t : Text} (ends : IsCode t []) : Lexes t []
  | comment {code body rest : Text} {later : List Found}
      (opens : IsCode code ("/*" ++ (body ++ "*/" ++ rest))) (closes : ¬ ("*/" : Text) <:+: body)
      (next : Lexes rest later) :
      Lexes (code ++ ("/*" ++ (body ++ "*/" ++ rest))) (⟨body, rest⟩ :: later)

/-- A comment that has something in it and is not followed by another one, of either kind, at
once. -/
structure Found.Apart (comment : Found) : Prop where
  body : comment.body ≠ []
  block : ¬ ("/*" : Text) <+: comment.rest
  line : ¬ ("//" : Text) <+: comment.rest

/-! ## What is passed over -/

/-- The scan stops at the same comment when it starts one character later, unless a comment opens
with that character. -/
theorem splitCode_afterFirst {t : Text} (hblock : ¬ ("/*" : Text) <+: t)
    (hline : ¬ ("//" : Text) <+: t) :
    (splitCode false (Text.afterFirst t)).2 = (splitCode false t).2 := by
  by_cases ht : t = []
  · rw [ht]
    rfl
  · rcases Text.firstCharacter_cases ht with ⟨b, rest, rfl, -, hafter⟩ | hwide
    · have hopen : ¬ (false = false ∧ ("/*" : Text) <+: b :: rest) := fun h => hblock h.2
      have hcode : inLineAfter false b rest = false := by
        rw [Bool.eq_false_iff]
        intro hslashes
        refine hline ((Text.pair_prefix_cons (x := '/') (y := '/')).mpr ?_)
        simpa [inLineAfter] using hslashes
      rw [hafter, splitCode_cons, if_neg hopen, hcode]
    · -- No byte of a wider character is a slash.
      have hslash : (('/' : Char) : UInt8) ∉ Text.firstCharacter t := fun hmem =>
        absurd (hwide _ hmem) (by decide)
      have happ := splitCode_append_of_not_mem hslash (Text.afterFirst t)
      rw [Text.firstCharacter_append_afterFirst] at happ
      rw [happ]

/-! ## The same comments -/

/-- What stands between the delimiters of a block: the mark and the body. -/
def Block.inner (block : Block) : Text := block.mark ++ block.body

/-- A comment with something in it is closed where it ends. -/
theorem Layout.comments_closed {body : Text} (hne : body ≠ []) (hbody : ¬ ("*/" : Text) <:+: body)
    (rest : Text) :
    Text.cut "*/" (Text.afterFirst (body ++ "*/" ++ rest)) = some (Text.afterFirst body, rest) ∧
      Text.firstCharacter (body ++ "*/" ++ rest) = Text.firstCharacter body := by
  have hstar : ∀ b ∈ ("*/" ++ rest : Text).head?, Text.isTail b = false := by
    intro b hb
    cases hb
    decide
  obtain ⟨hfirst, hafter⟩ := Text.first_append hne hstar
  rw [List.append_assoc, hfirst, hafter, ← List.append_assoc]
  refine ⟨Text.cut_append rest (by decide) (not_infix_body_append fun hin => hbody ?_), rfl⟩
  exact hin.trans (List.drop_suffix _ body).isInfix

/-- The layout finds the comments that are told apart by their delimiters, if none is empty and none
follows another at once. -/
theorem Lexes.blocks_eq {t : Text} {found : List Found} (h : Lexes t found)
    (hapart : ∀ comment ∈ found, comment.Apart) :
    (Layout.ofText t).unclosed = none ∧
      (Layout.ofText t).blocks.map Block.inner = found.map Found.body := by
  show (Layout.comments (splitCode false t).2).2 = none ∧
    (Layout.comments (splitCode false t).2).1.map Block.inner = found.map Found.body
  induction h with
  | @code t ends =>
    have hcode := ends.splitCode_eq
    rw [List.append_nil] at hcode
    rw [hcode, Layout.comments_nil]
    exact ⟨rfl, rfl⟩
  | @comment code body rest later opens closes next ih =>
    obtain ⟨hne, hblock, hline⟩ := hapart ⟨body, rest⟩ (List.mem_cons_self ..)
    obtain ⟨hunclosed, hblocks⟩ := ih fun comment hmem =>
      hapart comment (List.mem_cons_of_mem _ hmem)
    obtain ⟨hcut, hmark⟩ := Layout.comments_closed hne closes rest
    rw [opens.splitCode_eq, Layout.comments_of_cut hcut, splitCode_afterFirst hblock hline, hmark]
    refine ⟨hunclosed, ?_⟩
    rw [List.map_cons, List.map_cons, hblocks]
    exact congrArg (· :: _) (Text.firstCharacter_append_afterFirst body)

namespace Extraction

section
variable {ε : Type} {load : Loader ε} {reading : Reading} {depth : Int} {path s : Text}

/-- Every comment of a layout in which all are closed is given, and else the one empty comment. -/
theorem count_of_closed (hdepth : depth ≤ 0) (hs : (('\r' : Char) : UInt8) ∉ s)
    (hclosed : (Layout.ofText s).unclosed = none) :
    ∃ comments, (ofSource load reading depth path s).result = .ok comments ∧
      ((Layout.ofText s).blocks = [] → comments = [Comment.empty]) ∧
      ((Layout.ofText s).blocks ≠ [] → comments.length = (Layout.ofText s).blocks.length) := by
  have hplain := Source.comments_of_unclosed_eq_none reading path hs hclosed
  have hlength : (Source.comments reading path s).length = (Layout.ofText s).blocks.length := by
    rw [hplain, List.length_map]
  refine ⟨_, result_ofSource_of_nonpos hdepth s, ?_, ?_⟩
  · intro hnone
    rw [hnone, List.length_nil, List.length_eq_zero_iff] at hlength
    rw [hlength]
    rfl
  · intro hsome
    have hne : (Source.comments reading path s).map (Comment.map Inclusion.reference) ≠ [] := by
      rw [← List.length_pos_iff, List.length_map, hlength]
      exact List.length_pos_iff.mpr hsome
    rw [orEmpty_of_ne_nil hne, List.length_map, hlength]

end

/-- Every block comment gives one comment, and a text without any gives the one empty comment, if all
are closed: the block comments of a right cut, in which the character after each delimiter goes with
it, and also those that are told apart by their delimiters alone, if none is empty and none follows
another at once. -/
theorem ofSource_count {ε : Type} (load : Loader ε) (reading : Reading) (depth : Int)
    (hdepth : depth ≤ 0) (path s : Text) (hs : (('\r' : Char) : UInt8) ∉ s) :
    (∀ layout : Layout, layout.IsPartition s → layout.unclosed = none →
      ∃ comments, (ofSource load reading depth path s).result = .ok comments ∧
        (layout.blocks = [] → comments = [Comment.empty]) ∧
        (layout.blocks ≠ [] → comments.length = layout.blocks.length)) ∧
    ∀ found, Lexes s found → (∀ comment ∈ found, comment.Apart) →
      ∃ comments, (ofSource load reading depth path s).result = .ok comments ∧
        (found = [] → comments = [Comment.empty]) ∧
        (found ≠ [] → comments.length = found.length) := by
  constructor
  · intro layout hlayout hclosed
    obtain rfl := Layout.ofText_eq_iff.mpr hlayout
    exact count_of_closed hdepth hs hclosed
  · intro found hfound hapart
    obtain ⟨hclosed, hblocks⟩ := hfound.blocks_eq hapart
    have hlength : (Layout.ofText s).blocks.length = found.length := by
      rw [← List.length_map (f := Block.inner), hblocks, List.length_map]
    have hnil : (Layout.ofText s).blocks = [] ↔ found = [] := by
      rw [← List.length_eq_zero_iff, hlength, List.length_eq_zero_iff]
    obtain ⟨comments, hread, hnone, hsome⟩ := count_of_closed hdepth hs hclosed
    refine ⟨comments, hread, fun h => hnone (hnil.mpr h), fun h => ?_⟩
    rw [hsome fun hblocks => h (hnil.mp hblocks), hlength]

/-- Two comments on lines of their own, with a line comment between them that opens none; and two
comments of which the second goes with the end of the first. -/
theorem ofSource_count_lines :
    (∃ comments, (ofSource (fun _ => .error ()) ⟨false, id⟩ 0 "a"
        "/** a */\n// /* b\n/*c*/").result = .ok comments ∧ comments.length = 2) ∧
    ∃ comments, (ofSource (fun _ => .error ()) ⟨false, id⟩ 0 "a"
        "/** a *//** b */").result = .ok comments ∧ comments.length = 1 := by
  have hfound : Lexes "/** a */\n// /* b\n/*c*/"
      [⟨"* a ", "\n// /* b\n/*c*/"⟩, ⟨"c", ""⟩] := by
    refine @Lexes.comment "" "* a " _ _ ⟨by decide, by decide⟩ (by decide) ?_
    refine @Lexes.comment "\n// /* b\n" "c" _ _ ⟨by decide, by decide⟩ (by decide) ?_
    exact .code ⟨by decide, by decide⟩
  have hapart : ∀ comment ∈ ([⟨"* a ", "\n// /* b\n/*c*/"⟩, ⟨"c", ""⟩] : List Found),
      comment.Apart := by
    intro comment hmem
    rcases List.mem_cons.mp hmem with rfl | hmem
    · exact ⟨by decide, by decide, by decide⟩
    · rw [List.mem_singleton.mp hmem]
      exact ⟨by decide, by decide, by decide⟩
  have hlayout : Layout.ofText "/** a *//** b */" = ⟨[], [⟨"*", " a ", "/", "** b */"⟩], none⟩ := by
    decide +kernel
  constructor
  · obtain ⟨comments, hread, -, hsome⟩ := (ofSource_count (fun _ => .error ()) ⟨false, id⟩ 0
      (by decide) "a" _ (by decide)).2 _ hfound hapart
    exact ⟨comments, hread, hsome (by simp)⟩
  · obtain ⟨comments, hread, -, hsome⟩ := (ofSource_count (fun _ => .error ()) ⟨false, id⟩ 0
      (by decide) "a" _ (by decide)).1 _ (Layout.ofText_eq_iff.mp hlayout) rfl
    exact ⟨comments, hread, hsome (by simp)⟩

/-- Two comments are found by their delimiters, and one is given, where one follows another at once
and where the first has nothing in it. A line comment that follows at once can be taken for a block
comment, so that one too many is given. -/
theorem ofSource_count_abutting :
    (∃ found, Lexes "/** a *//** b */" found ∧ found.length = 2 ∧
      (ofSource (fun _ => .error ()) ⟨false, id⟩ 0 "a"
        "/** a *//** b */").result.toOption.map List.length = some 1) ∧
    (∃ found, Lexes "/**/ /** b */" found ∧ found.length = 2 ∧
      (ofSource (fun _ => .error ()) ⟨false, id⟩ 0 "a"
        "/**/ /** b */").result.toOption.map List.length = some 1) ∧
    ∃ found, Lexes "/* a *///* b */" found ∧ found.length = 1 ∧
      (ofSource (fun _ => .error ()) ⟨false, id⟩ 0 "a"
        "/* a *///* b */").result.toOption.map List.length = some 2 := by
  refine ⟨⟨[⟨"* a ", "/** b */"⟩, ⟨"* b ", ""⟩], ?_, rfl, by decide +kernel⟩,
    ⟨[⟨"", " /** b */"⟩, ⟨"* b ", ""⟩], ?_, rfl, by decide +kernel⟩,
    ⟨[⟨" a ", "//* b */"⟩], ?_, rfl, by decide +kernel⟩⟩
  · refine @Lexes.comment "" "* a " _ _ ⟨by decide, by decide⟩ (by decide) ?_
    refine @Lexes.comment "" "* b " _ _ ⟨by decide, by decide⟩ (by decide) ?_
    exact .code ⟨by decide, by decide⟩
  · refine @Lexes.comment "" "" _ _ ⟨by decide, by decide⟩ (by decide) ?_
    refine @Lexes.comment " " "* b " _ _ ⟨by decide, by decide⟩ (by decide) ?_
    exact .code ⟨by decide, by decide⟩
  · refine @Lexes.comment "" " a " _ _ ⟨by decide, by decide⟩ (by decide) ?_
    exact .code ⟨by decide, by decide⟩

end Extraction

end DocBlock
