import DocBlock.Comment
import DocBlock.Proofs.Text.Characters
import DocBlock.Proofs.Text.Lines

/-!
# The body of a comment, line by line

A body is read as text: it is trimmed, cut before the first line that starts with `@`, and the rest
is cut into tags. For a body that is put together from lines of a description and lines of tags,
this gives the lines back:

> `Comment.ofBody_of_lines`: the description is its lines joined again, and every tag line gives its
> own tag.
-/

namespace DocBlock

/-! ## Trimming lines -/

theorem Text.startsSolid_join {l : Text} (h : Text.startsSolid l = true) (ls : List Text) :
    Text.startsSolid (Text.join "\n" (l :: ls)) = true := by
  by_cases hls : ls = []
  · rw [hls, Text.join_singleton]
    exact h
  · rw [Text.join_cons _ _ hls, List.append_assoc]
    refine Text.startsSolid_append h ?_
    intro b hb
    cases hb
    decide

theorem Text.endsSolid_join {l : Text} (h : Text.endsSolid l = true) (ls : List Text) :
    Text.endsSolid (Text.join "\n" (ls ++ [l])) = true := by
  by_cases hls : ls = []
  · rw [hls, List.nil_append, Text.join_singleton]
    exact h
  · rw [Text.join_append _ hls (List.cons_ne_nil l []), Text.join_singleton, List.append_assoc]
    exact Text.endsSolid_append (by decide) _ h

/-- Lines are not trimmed if the first does not start and the last does not end with white space. -/
theorem Text.trim_join {ls : List Text} (hfirst : ∀ l ∈ ls.head?, Text.startsSolid l = true)
    (hlast : ∀ l ∈ ls.getLast?, Text.endsSolid l = true) :
    Text.trim (Text.join "\n" ls) = Text.join "\n" ls := by
  cases ls with
  | nil => rfl
  | cons l ls =>
    refine Text.trim_eq_self (Text.startsSolid_join (hfirst l rfl) ls) ?_
    obtain ⟨last, hget⟩ : ∃ last, (l :: ls).getLast? = some last := ⟨_, List.getLast?_cons⟩
    obtain ⟨init, hinit⟩ := List.getLast?_eq_some_iff.mp hget
    rw [hinit]
    exact Text.endsSolid_join (hlast last hget) init

/-- A blank first and a blank last line are trimmed away. -/
theorem Text.trim_join_blank (ls : List Text) {last : Text}
    (hlast : ∀ b ∈ last, Text.isSpace [b] = true) :
    Text.trim (Text.join "\n" (([] :: ls) ++ [last])) = Text.trim (Text.join "\n" ls) := by
  have hfeed : ∀ b ∈ ("\n" : Text), Text.isSpace [b] = true := by
    intro b hb
    obtain rfl : b = '\n' := List.mem_singleton.mp hb
    decide
  have hend : ∀ b ∈ ("\n" : Text) ++ last, Text.isSpace [b] = true := fun b hb =>
    (List.mem_append.mp hb).elim (hfeed b) (hlast b)
  rw [Text.join_append _ (List.cons_ne_nil _ _) (List.cons_ne_nil _ _), Text.join_singleton,
    List.append_assoc, Text.trim_append_right _ hend]
  by_cases hnil : ls = []
  · rw [hnil]
    rfl
  · rw [Text.join_cons _ _ hnil, List.nil_append, Text.trim_append_left hfeed]

namespace Comment

/-! ## Description and tags -/

theorem head?_join_tags {tags : List Text} (hne : tags ≠ [])
    (htags : ∀ l ∈ tags, l.head? = some (('@' : Char) : UInt8)) :
    (Text.join "\n" tags).head? = some (('@' : Char) : UInt8) := by
  obtain ⟨tag, later, rfl⟩ := List.exists_cons_of_ne_nil hne
  have htag := htags tag (List.mem_cons_self ..)
  have hne : tag ≠ [] := by
    intro hnil
    rw [hnil] at htag
    nomatch htag
  exact (Text.head?_join_cons _ hne later).trans htag

/-- The text of lines is cut between the description and the tags. -/
theorem parts_join {description tags : List Text}
    (hdescription : ∀ l ∈ description, (('\n' : Char) : UInt8) ∉ l
      ∧ l.head? ≠ some (('@' : Char) : UInt8))
    (htags : ∀ l ∈ tags, l.head? = some (('@' : Char) : UInt8)) :
    parts (Text.join "\n" (description ++ tags)) =
      (Text.join "\n" description, if tags = [] then none else some (Text.join "\n" tags)) := by
  cases description with
  | nil =>
    -- A body that starts with `@` has no description.
    by_cases hnil : tags = []
    · rw [hnil]
      rfl
    · rw [List.nil_append, parts, head?_join_tags hnil htags, if_neg hnil]
      rfl
  | cons d ds =>
    have hhead : (Text.join "\n" (d :: ds ++ tags)).head? ≠ some (('@' : Char) : UInt8) :=
      Text.head?_join_ne (by decide) (hdescription d (List.mem_cons_self ..)).2 _
    have hnot : ¬ ("\n@" : Text) <:+: Text.join "\n" (d :: ds) := by
      refine Text.not_infix_join ?_ (fun hb => absurd hb (by decide)) fun _ => ⟨by decide, ?_⟩
      · intro l hl hin
        exact (hdescription l hl).1 (hin.subset (List.mem_cons_self ..))
      · exact fun l hl => (hdescription l hl).2
    rw [parts, if_neg (by simpa using hhead)]
    by_cases hnil : tags = []
    · rw [if_pos hnil, hnil, List.append_nil, Text.cut_eq_none_iff.mpr hnot]
    · obtain ⟨rest, hrest⟩ := List.head?_eq_some_iff.mp (head?_join_tags hnil htags)
      -- The first `@` after a line feed is that of the first tag.
      have hcut : Text.cut "\n@" (Text.join "\n" (d :: ds) ++ "\n@" ++ rest)
          = some (Text.join "\n" (d :: ds), rest) := by
        refine Text.cut_append rest (by decide) ?_
        show ¬ (['\n', '@'] : Text) <:+: _ ++ [(('\n' : Char) : UInt8)]
        rw [Text.pair_infix_append]
        intro hin
        rcases hin with hin | hin | ⟨-, hin⟩
        · exact hnot hin
        · exact absurd hin (by decide)
        · exact absurd hin (by decide)
      have htext : Text.join "\n" (d :: ds ++ tags)
          = Text.join "\n" (d :: ds) ++ "\n@" ++ rest := by
        rw [Text.join_append _ (List.cons_ne_nil d ds) hnil, hrest, List.append_assoc,
          List.append_assoc]
        rfl
      rw [htext, hcut, if_neg hnil, hrest]

/-- A body of description lines and tag lines is read line by line. -/
theorem ofBody_of_lines {reading : Reading} (hreading : reading.multiLine = false)
    {path body : Text} {description tags : List Text}
    (hbody : Text.trim body = Text.join "\n" (description ++ tags))
    (hlines : ∀ l ∈ description ++ tags, (('\n' : Char) : UInt8) ∉ l)
    (hdescription : ∀ l ∈ description, l.head? ≠ some (('@' : Char) : UInt8))
    (htags : ∀ l ∈ tags, l.head? = some (('@' : Char) : UInt8)) :
    ofBody reading path body =
      { declaration := none
        code := []
        description := (Description.ofText (Text.join "\n" description)).map reading.render
        tags := tags.map (Tag.ofText reading.render path)
        isPrivate := (tags.map (Tag.ofText reading.render path)).any Tag.hides
        isBanner := false } := by
  have hparts := parts_join
    (fun l hl => ⟨hlines l (List.mem_append_left _ hl), hdescription l hl⟩) htags
  have htexts : tagTexts false (if tags = [] then none else some (Text.join "\n" tags)) = tags := by
    split
    next hnil => exact hnil.symm
    next hne =>
      exact Text.lines_join (fun l hl => hlines l (List.mem_append_right _ hl)) hne
  rw [ofBody, hbody, hparts, hreading]
  simp only [htexts]

end Comment

end DocBlock
