import Mathlib.Data.List.Basic
import DocBlock.Proofs.Comment
import DocBlock.Proofs.Extraction.Body
import DocBlock.Proofs.Extraction.WellFormed
import DocBlock.Proofs.Text.Words

/-!
# Tags of one line, in both modes

A tag takes one line, or it goes on to the next tag. Where every line from the first tag on starts
with `@`, the two modes cut a body at the same places (`Comment.tagTexts_join`). But only the first
chunk keeps its `@` when tags can go on, and a tag line loses the first `@` of its first word
whether the word starts with it or not. So a later tag is read in the same way exactly if its first
word has no other `@` (`Tag.ofText_cons`, `Tag.not_mem_of_name_ofText_cons`):

> `ofBody_modes_agree_iff`: the two modes read the same comment exactly if no tag after the first
> has a second `@` in its first word.
-/

namespace DocBlock

namespace Text

/-! ## Chunks of lines -/

theorem contains_cons {sep t : Text} {b : UInt8} (hsep : sep ≠ []) (hb : sep.head? ≠ some b) :
    contains sep (b :: t) = contains sep t := by
  obtain ⟨x, later, rfl⟩ := List.exists_cons_of_ne_nil hsep
  have hnot : (x :: later).isPrefixOf? (b :: t) = none := by
    rw [isPrefixOf?_eq_none_iff]
    rintro ⟨rest, hrest⟩
    exact hb (congrArg some (List.cons.inj hrest).1)
  rw [contains, cut, hnot, Option.isSome_map]
  rfl

/-- Lines put together are split before every line that starts with `@`. -/
theorem splitOn_join_tags {first : Text} {later : List Text}
    (hfirst : (('\n' : Char) : UInt8) ∉ first)
    (hlater : ∀ line ∈ later, (('\n' : Char) : UInt8) ∉ line
      ∧ line.head? = some (('@' : Char) : UInt8)) :
    splitOn "\n@" (join "\n" (first :: later)) = first :: later.map List.tail := by
  have hnot : ∀ line : Text, (('\n' : Char) : UInt8) ∉ line → ¬ ("\n@" : Text) <:+: line :=
    fun line hline hin => hline (hin.subset (List.mem_cons_self ..))
  induction later generalizing first with
  | nil =>
    rw [join_singleton]
    exact splitOn_of_not_infix (by decide) (hnot first hfirst)
  | cons line later ih =>
    obtain ⟨hline, hhead⟩ := hlater line (List.mem_cons_self ..)
    obtain ⟨rest, rfl⟩ := List.head?_eq_some_iff.mp hhead
    have hrest : (('\n' : Char) : UInt8) ∉ rest := fun hmem => hline (List.mem_cons_of_mem _ hmem)
    have hjoin : join "\n" (first :: ((('@' : Char) : UInt8) :: rest) :: later)
        = first ++ "\n@" ++ join "\n" (rest :: later) := by
      rw [join_cons _ _ (List.cons_ne_nil _ _), List.append_assoc, List.append_assoc]
      exact congrArg (fun t : Text => first ++ ("\n" ++ t))
        (join_consFirst "\n" '@' (List.cons_ne_nil rest later))
    have hseam : ¬ ("\n@" : Text) <:+: first ++ ("\n@" : Text).dropLast := by
      show ¬ (['\n', '@'] : Text) <:+: first ++ [(('\n' : Char) : UInt8)]
      rw [pair_infix_append]
      rintro (hin | hin | ⟨-, hin⟩)
      · exact hnot first hfirst hin
      · exact absurd hin (by decide)
      · exact absurd hin (by decide)
    -- What follows the separator is put together from the line without its `@`.
    rw [hjoin, splitOn_append (by decide) hseam,
      ih hrest fun line hline => hlater line (List.mem_cons_of_mem _ hline)]
    rfl

end Text

namespace Tag

/-! ## A tag without its `@` -/

/-- The first word of a tag text. -/
def firstWord (t : Text) : Text :=
  (t.takeWhile (· != (('\n' : Char) : UInt8))).takeWhile (· != ((' ' : Char) : UInt8))

theorem Line.name_ofText (t : Text) : (Line.ofText t).name = (firstWord t).erase '@' := by
  obtain ⟨later, hlater⟩ := Text.words_eq_cons (t.takeWhile (· != (('\n' : Char) : UInt8)))
  simp only [Line.ofText, hlater]
  rfl

/-- A line keeps its first word as its name if another `@` stands in front of it. -/
theorem Line.ofText_cons (t : Text) :
    Line.ofText ((('@' : Char) : UInt8) :: t)
      = { Line.ofText t with name := firstWord t, whole := (('@' : Char) : UInt8) :: t } := by
  obtain ⟨later, hlater⟩ := Text.words_eq_cons (t.takeWhile (· != (('\n' : Char) : UInt8)))
  have hwords : Text.words (((('@' : Char) : UInt8) :: t).takeWhile (· != (('\n' : Char) : UInt8)))
      = ((('@' : Char) : UInt8) :: firstWord t) :: later := by
    rw [List.takeWhile_cons_of_pos (by decide), Text.words_cons (by decide), hlater]
    rfl
  simp only [Line.ofText, hwords, hlater]
  rfl

/-- A link looks for an address in the whole line; nothing else reads it. -/
theorem ofLine_whole (render : Text → Text) (path : Text) {line : Line} {whole : Text}
    (h : Text.contains "http" whole = Text.contains "http" line.whole) :
    ofLine render path { line with whole } = ofLine render path line := by
  simp only [ofLine, seeOf, h]
  rfl

/-- A tag is read in the same way without its `@`, if its first word has no other. -/
theorem ofText_cons (render : Text → Text) (path : Text) {t : Text}
    (h : (('@' : Char) : UInt8) ∉ firstWord t) :
    ofText render path ((('@' : Char) : UInt8) :: t) = ofText render path t := by
  have hname : firstWord t = (Line.ofText t).name := by
    rw [Line.name_ofText, List.erase_of_not_mem h]
  rw [ofText, Line.ofText_cons, hname]
  exact ofLine_whole render path (Text.contains_cons (by decide) (by decide))

theorem name_ofText (render : Text → Text) (path t : Text) :
    (ofText render path t).name = (Line.ofText t).name :=
  (ofLine_kind render path (Line.ofText t)).1

/-- Without its `@`, a tag whose first word has another loses that one. -/
theorem not_mem_of_name_ofText_cons (render : Text → Text) (path : Text) {t : Text}
    (h : (ofText render path ((('@' : Char) : UInt8) :: t)).name = (ofText render path t).name) :
    (('@' : Char) : UInt8) ∉ firstWord t := by
  rw [name_ofText, name_ofText, Line.ofText_cons, Line.name_ofText] at h
  intro hmem
  have hlength := congrArg List.length h
  have hpos := List.length_pos_of_mem hmem
  rw [List.length_erase_of_mem hmem] at hlength
  dsimp only at hlength
  omega

end Tag

namespace Comment

/-! ## The chunks of tag lines -/

/-- The lines of a trimmed body from the first tag on. -/
def tagLines (body : Text) : List Text :=
  (Text.lines (Text.trim body)).dropWhile fun line => line.head? != some (('@' : Char) : UInt8)

/-- In both modes the chunks of lines that start with `@` are these lines. Where a tag can go on,
the later ones have lost their `@`. -/
theorem tagTexts_join (multiLine : Bool) {first : Text} {later : List Text}
    (hlines : ∀ line ∈ first :: later, (('\n' : Char) : UInt8) ∉ line)
    (htags : ∀ line ∈ later, line.head? = some (('@' : Char) : UInt8)) :
    tagTexts multiLine (some (Text.join "\n" (first :: later)))
      = first :: if multiLine then later.map List.tail else later := by
  cases multiLine with
  | true =>
    exact Text.splitOn_join_tags (hlines first (List.mem_cons_self ..))
      fun line hline => ⟨hlines line (List.mem_cons_of_mem _ hline), htags line hline⟩
  | false => exact Text.lines_join hlines (List.cons_ne_nil first later)

/-- The lines before the first tag are those of the description. -/
theorem lines_trim (body : Text) : ∃ description : List Text,
    Text.lines (Text.trim body) = description ++ tagLines body ∧
      ∀ line ∈ description, line.head? ≠ some (('@' : Char) : UInt8) :=
  ⟨_, List.takeWhile_append_dropWhile.symm,
    fun _ hline => by simpa using List.mem_takeWhile_imp hline⟩

/-- The chunks of a body whose lines from the first tag on are all tags. -/
theorem tagTexts_trim (multiLine : Bool) {body : Text}
    (htags : ∀ line ∈ tagLines body, line.head? = some (('@' : Char) : UInt8)) :
    tagTexts multiLine (parts (Text.trim body)).2
      = (tagLines body).take 1 ++
        if multiLine then (tagLines body).tail.map List.tail else (tagLines body).tail := by
  obtain ⟨description, hsplit, hdescription⟩ := lines_trim body
  have hlines := Text.not_mem_of_mem_lines (Text.trim body)
  rw [hsplit] at hlines
  have hparts := parts_join
    (fun line hline => ⟨hlines line (List.mem_append_left _ hline), hdescription line hline⟩) htags
  rw [← hsplit, Text.join_lines] at hparts
  rw [hparts]
  cases htagLines : tagLines body with
  | nil => cases multiLine <;> rfl
  | cons first later =>
    rw [if_neg (List.cons_ne_nil first later)]
    rw [htagLines] at hlines htags
    exact tagTexts_join multiLine (fun line hline => hlines line (List.mem_append_right _ hline))
      fun line hline => htags line (List.mem_cons_of_mem _ hline)

theorem tags_ofBody (render : Text → Text) (path : Text) (multiLine : Bool) {body : Text}
    (htags : ∀ line ∈ tagLines body, line.head? = some (('@' : Char) : UInt8)) :
    (ofBody ⟨multiLine, render⟩ path body).tags
      = ((tagLines body).take 1).map (Tag.ofText render path) ++
        if multiLine then (tagLines body).tail.map fun line => Tag.ofText render path line.tail
        else (tagLines body).tail.map (Tag.ofText render path) := by
  show (tagTexts multiLine (parts (Text.trim body)).2).map (Tag.ofText render path) = _
  rw [tagTexts_trim multiLine htags, List.map_append, apply_ite (List.map _), List.map_map]
  rfl

/-- The modes differ at most in the tags they read. -/
theorem ofBody_modes_eq {render : Text → Text} {path body : Text}
    (h : (ofBody ⟨true, render⟩ path body).tags = (ofBody ⟨false, render⟩ path body).tags) :
    ofBody ⟨true, render⟩ path body = ofBody ⟨false, render⟩ path body := by
  simp only [ofBody] at h ⊢
  rw [h]

end Comment

namespace Extraction

variable {ε : Type}

/-- A comment in which every tag takes one line is read the same in both modes exactly if no tag
after the first has a second `@` in its first word. -/
theorem ofBody_modes_agree_iff (load : Loader ε) (render : Text → Text) (depth : Int)
    (hdepth : depth ≤ 0) (path body : Text)
    (hbody : ∀ line ∈ Comment.tagLines body, line.head? = some (('@' : Char) : UInt8)) :
    ∃ multi single, (ofBody load ⟨true, render⟩ depth path body).result = .ok multi ∧
      (ofBody load ⟨false, render⟩ depth path body).result = .ok single ∧
      (multi = single ↔ ∀ line ∈ (Comment.tagLines body).tail,
        (('@' : Char) : UInt8) ∉ Tag.firstWord line.tail) := by
  have hlater : ∀ line ∈ (Comment.tagLines body).tail, (('@' : Char) : UInt8) :: line.tail = line :=
    fun line hline => List.cons_head?_tail (hbody line (List.mem_of_mem_tail hline))
  have hmulti := Comment.tags_ofBody render path true hbody
  have hsingle := Comment.tags_ofBody render path false hbody
  rw [if_pos rfl] at hmulti
  rw [if_neg Bool.false_ne_true] at hsingle
  refine ⟨_, _, result_ofBody_of_nonpos hdepth path body, result_ofBody_of_nonpos hdepth path body,
    ?_, ?_⟩
  · -- the names alone tell the modes apart
    intro heq line hline
    have hnames := congrArg (fun comment => comment.tags.map Tag.name) heq
    simp only [Comment.map, hmulti, hsingle, List.map_append, List.append_cancel_left_eq,
      List.map_map, List.map_inj_left, Function.comp_apply, Tag.name_map] at hnames
    refine Tag.not_mem_of_name_ofText_cons render path ?_
    rw [hlater line hline]
    exact (hnames line hline).symm
  · intro hword
    refine congrArg (Comment.map _) (Comment.ofBody_modes_eq ?_)
    rw [hmulti, hsingle]
    refine congrArg _ (List.map_congr_left fun line hline => ?_)
    rw [← Tag.ofText_cons render path (hword line hline), hlater line hline]

/-- A description and two tags, of one line each. -/
theorem ofBody_modes_agree_plain :
    ∃ comment,
      (ofBody (fun _ => .error ()) ⟨true, id⟩ 0 "a.js" "a\n@param x y\n@api private").result
        = .ok comment ∧
      (ofBody (fun _ => .error ()) ⟨false, id⟩ 0 "a.js" "a\n@param x y\n@api private").result
        = .ok comment := by
  obtain ⟨multi, single, hmulti, hsingle, hiff⟩ := ofBody_modes_agree_iff (fun _ => .error ()) id 0
    (by decide) "a.js" "a\n@param x y\n@api private" (by decide +kernel)
  have heq : multi = single := hiff.mpr (by decide +kernel)
  exact ⟨single, heq ▸ hmulti, hsingle⟩

/-- The second `@` of a later tag is lost where tags can go on. -/
theorem ofBody_modes_differ :
    (∀ line ∈ Comment.tagLines "@a\n@b@c", line.head? = some (('@' : Char) : UInt8)) ∧
      (ofBody (fun _ => .error ()) ⟨true, id⟩ 0 "a.js" "@a\n@b@c").result.toOption.map
        (fun comment => comment.tags.map Tag.name) = some [("a" : Text), ("bc" : Text)] ∧
      (ofBody (fun _ => .error ()) ⟨false, id⟩ 0 "a.js" "@a\n@b@c").result.toOption.map
        (fun comment => comment.tags.map Tag.name) = some [("a" : Text), ("b@c" : Text)] := by
  decide +kernel

end Extraction

end DocBlock
