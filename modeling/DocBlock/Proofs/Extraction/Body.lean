import DocBlock.Proofs.Extraction.Levels
import DocBlock.Proofs.Text.Split

/-!
# A body is its description and its tags

Two cuts are made in the body of a comment. One ends the description before the first line that
starts with `@`; the other splits the text from there on into chunks, one for each tag. Both are
made at the same place, so nothing is lost between them and nothing is kept twice:

> `ofBody_isCut`: the trimmed body is the description and the chunks put together again
> (`Comment.IsCut`), and the tags are read from the chunks one by one.

The description in turn is its summary and the rest, cut at the first blank line
(`Description.isDivided_ofText`), and there is no other way to divide it (`IsDivided.unique`).
-/

namespace DocBlock

/-- A description is its summary and the rest, divided by its first blank line if it has one. -/
structure Description.IsDivided (d : Description) : Prop where
  summary : ¬ ("\n\n" : Text) <:+: d.summary
  whole : ¬ ("\n\n" : Text) <:+: d.full → d.full = d.summary ∧ d.body = []
  /-- The blank line is the first: none ends at the first of its two line feeds. -/
  divided : ("\n\n" : Text) <:+: d.full →
    d.full = d.summary ++ "\n\n" ++ d.body ∧ ¬ ("\n\n" : Text) <:+: d.summary ++ "\n"

/-- There is one way to divide a description. -/
theorem Description.IsDivided.unique {d d' : Description} (h : d.IsDivided) (h' : d'.IsDivided)
    (hfull : d.full = d'.full) : d = d' := by
  obtain ⟨full, summary, body⟩ := d
  obtain ⟨full', summary', body'⟩ := d'
  obtain rfl : full = full' := hfull
  by_cases hin : ("\n\n" : Text) <:+: full
  · obtain ⟨hparts, hfirst⟩ := h.divided hin
    obtain ⟨hparts', hfirst'⟩ := h'.divided hin
    have hcut := Text.cut_append body (by decide) hfirst
    have hcut' := Text.cut_append body' (by decide) hfirst'
    rw [← hparts] at hcut
    rw [← hparts'] at hcut'
    obtain ⟨rfl, rfl⟩ := Prod.mk.inj (Option.some.inj (hcut.symm.trans hcut'))
    rfl
  · obtain ⟨rfl, rfl⟩ : full = summary ∧ body = [] := h.whole hin
    obtain ⟨rfl, rfl⟩ : full = summary' ∧ body' = [] := h'.whole hin
    rfl

theorem Description.isDivided_ofText (full : Text) : (ofText full).IsDivided := by
  unfold ofText Text.before Text.after
  cases hcut : Text.cut "\n\n" full with
  | none =>
    have hnot := Text.cut_eq_none_iff.mp hcut
    exact ⟨hnot, fun _ => ⟨rfl, rfl⟩, fun hin => absurd hin hnot⟩
  | some parts =>
    have hfull := Text.eq_append_of_cut hcut
    exact ⟨Text.not_infix_of_cut (by decide) hcut,
      fun hnot => absurd ⟨parts.1, parts.2, hfull.symm⟩ hnot,
      fun _ => ⟨hfull, Text.not_infix_append_of_cut (by decide) hcut⟩⟩

namespace Comment

/-- What stands between the chunks of two tags. -/
def separator (multiLine : Bool) : Text := if multiLine then "\n@" else "\n"

/-- The body is put together from a description and chunks of tags. -/
structure IsCut (multiLine : Bool) (body : Text) (d : Description) (chunks : List Text) : Prop where
  /-- There are tags exactly where a line starts with `@`. -/
  chunks_eq_nil_iff : chunks = [] ↔
    body.head? ≠ some (('@' : Char) : UInt8) ∧ ¬ ("\n@" : Text) <:+: body
  untagged : chunks = [] → body = d.full
  /-- The chunks follow the description on a new line, or start the body. -/
  tagged : chunks ≠ [] → ∃ lead, body = lead ++ Text.join (separator multiLine) chunks ∧
    (body.head? = some (('@' : Char) : UInt8) → lead = [] ∧ d = ⟨[], [], []⟩) ∧
    (body.head? ≠ some (('@' : Char) : UInt8) → lead = d.full ++ "\n")
  first : ∀ chunk ∈ chunks.head?, chunk.head? = some (('@' : Char) : UInt8)
  undivided : ∀ chunk ∈ chunks, ¬ separator multiLine <:+: chunk
  full : ¬ ("\n@" : Text) <:+: d.full ∧ d.full.head? ≠ some (('@' : Char) : UInt8)
  description : d.IsDivided

theorem separator_ne_nil (multiLine : Bool) : separator multiLine ≠ [] := by
  cases multiLine <;> decide

/-! ## The chunks -/

/-- In both modes the chunks are the pieces between separators. -/
theorem tagTexts_eq_splitOn (multiLine : Bool) (tags : Text) :
    tagTexts multiLine (some tags) = Text.splitOn (separator multiLine) tags := by
  cases multiLine with
  | true => rfl
  | false => exact Text.lines_eq_splitOn_lineFeed tags

theorem tagTexts_ne_nil (multiLine : Bool) (tags : Text) :
    tagTexts multiLine (some tags) ≠ [] := by
  rw [tagTexts_eq_splitOn]
  exact Text.splitAfter_ne_nil _ 0 tags

theorem join_tagTexts (multiLine : Bool) (tags : Text) :
    Text.join (separator multiLine) (tagTexts multiLine (some tags)) = tags := by
  rw [tagTexts_eq_splitOn]
  exact Text.join_splitOn (separator_ne_nil multiLine) tags

/-- The first chunk starts with the `@` that the text of the tags starts with. -/
theorem head?_tagTexts (multiLine : Bool) {tags : Text}
    (h : tags.head? = some (('@' : Char) : UInt8)) :
    ∀ chunk ∈ (tagTexts multiLine (some tags)).head?,
      chunk.head? = some (('@' : Char) : UInt8) := by
  obtain ⟨rest, rfl⟩ := List.head?_eq_some_iff.mp h
  have hnot : ¬ separator multiLine <+: (('@' : Char) : UInt8) :: rest := by
    rintro ⟨later, hlater⟩
    cases multiLine with
    | true => exact absurd (List.cons.inj hlater).1 (by decide)
    | false => exact absurd (List.cons.inj hlater).1 (by decide)
  obtain ⟨piece, pieces, hsplit⟩ := Text.exists_splitOn_cons hnot
  rw [tagTexts_eq_splitOn, hsplit]
  rintro chunk ⟨⟩
  rfl

/-! ## The two cuts -/

/-- A body starts with its tags, or has none, or is cut before the first of them. -/
theorem parts_cases (body : Text) :
    (body.head? = some (('@' : Char) : UInt8) ∧ parts body = ([], some body)) ∨
      (body.head? ≠ some (('@' : Char) : UInt8) ∧ ¬ ("\n@" : Text) <:+: body ∧
        parts body = (body, none)) ∨
      body.head? ≠ some (('@' : Char) : UInt8) ∧ ∃ full tags, ¬ ("\n@" : Text) <:+: full ∧
        body = full ++ "\n" ++ tags ∧ tags.head? = some (('@' : Char) : UInt8) ∧
        parts body = (full, some tags) := by
  rw [parts]
  by_cases hhead : body.head? = some (('@' : Char) : UInt8)
  · exact .inl ⟨hhead, if_pos (by simpa using hhead)⟩
  · rw [if_neg (by simpa using hhead)]
    cases hcut : Text.cut "\n@" body with
    | none => exact .inr (.inl ⟨hhead, Text.cut_eq_none_iff.mp hcut, rfl⟩)
    | some cutParts =>
      obtain ⟨full, tags⟩ := cutParts
      refine .inr (.inr ⟨hhead, full, ('@' : Char) :: tags, ?_, ?_, rfl, rfl⟩)
      · exact Text.not_infix_of_cut (by decide) hcut
      · rw [Text.eq_append_of_cut hcut, List.append_assoc, List.append_assoc]
        rfl

theorem not_infix_of_mem_tagTexts (multiLine : Bool) (tags : Text) :
    ∀ chunk ∈ tagTexts multiLine (some tags), ¬ separator multiLine <:+: chunk := by
  rw [tagTexts_eq_splitOn]
  exact Text.not_infix_of_mem_splitOn (separator_ne_nil multiLine) tags

/-- The description and the chunks are a cut of the body. -/
theorem isCut_parts (multiLine : Bool) (body : Text) :
    IsCut multiLine body (Description.ofText (parts body).1)
      (tagTexts multiLine (parts body).2) := by
  obtain ⟨hhead, hparts⟩ | ⟨hhead, hnot, hparts⟩ |
    ⟨hhead, full, tags, hnot, hbody, htags, hparts⟩ := parts_cases body
  · -- the tags start the body
    rw [hparts]
    have hne := tagTexts_ne_nil multiLine body
    exact {
      chunks_eq_nil_iff := ⟨fun h => absurd h hne, fun h => absurd hhead h.1⟩
      untagged := fun h => absurd h hne
      tagged := fun _ => ⟨[], (join_tagTexts multiLine body).symm, fun _ => ⟨rfl, rfl⟩,
        fun h => absurd hhead h⟩
      first := head?_tagTexts multiLine hhead
      undivided := not_infix_of_mem_tagTexts multiLine body
      full := ⟨show ¬ ("\n@" : Text) <:+: [] by decide, nofun⟩
      description := Description.isDivided_ofText [] }
  · -- no tags
    rw [hparts]
    exact {
      chunks_eq_nil_iff := ⟨fun _ => ⟨hhead, hnot⟩, fun _ => rfl⟩
      untagged := fun _ => rfl
      tagged := fun h => absurd rfl h
      first := fun _ h => nomatch h
      undivided := fun _ h => nomatch h
      full := ⟨hnot, hhead⟩
      description := Description.isDivided_ofText body }
  · -- a description and tags
    rw [hparts]
    have hne := tagTexts_ne_nil multiLine tags
    have hin : ("\n@" : Text) <:+: body := by
      obtain ⟨rest, rfl⟩ := List.head?_eq_some_iff.mp htags
      exact ⟨full, rest, by rw [hbody, List.append_assoc, List.append_assoc]; rfl⟩
    have hfull : full.head? ≠ some (('@' : Char) : UInt8) := by
      intro h
      rw [hbody, List.append_assoc, List.head?_append, h] at hhead
      exact hhead rfl
    exact {
      chunks_eq_nil_iff := ⟨fun h => absurd h hne, fun h => absurd hin h.2⟩
      untagged := fun h => absurd h hne
      tagged := fun _ => ⟨full ++ "\n", by rw [join_tagTexts]; exact hbody,
        fun h => absurd h hhead, fun _ => rfl⟩
      first := head?_tagTexts multiLine htags
      undivided := not_infix_of_mem_tagTexts multiLine tags
      full := ⟨hnot, hfull⟩
      description := Description.isDivided_ofText full }

end Comment

namespace Extraction

variable {ε : Type}

/-- Without a level left, a tag keeps its reference. -/
theorem result_ofTagText_of_nonpos {load : Loader ε} {reading : Reading} {depth : Int}
    (h : depth ≤ 0) (path line : Text) :
    (ofTagText load reading depth path line).result
      = .ok ((Tag.ofText reading.render path line).map .reference) := by
  rw [result_ofTagText, Tag.traverse_eq_ok fun target _ => followed_of_nonpos h target]

/-- Without a level left, a comment keeps its references. -/
theorem result_ofBody_of_nonpos {load : Loader ε} {reading : Reading} {depth : Int}
    (h : depth ≤ 0) (path body : Text) :
    (ofBody load reading depth path body).result
      = .ok ((Comment.ofBody reading path body).map .reference) := by
  rw [result_ofBody, Comment.traverse_eq_ok fun target _ => followed_of_nonpos h target]

/-- The trimmed body of a comment that is read as it stands is its description and the chunks that
its tags are read from. -/
theorem ofBody_isCut (load : Loader ε) (multiLine : Bool) (depth : Int) (hdepth : depth ≤ 0)
    (path body : Text) :
    ∃ comment chunks, (ofBody load ⟨multiLine, id⟩ depth path body).result = .ok comment ∧
      chunks.mapM (fun chunk => (ofTagText load ⟨multiLine, id⟩ depth path chunk).result)
        = .ok comment.tags ∧
      Comment.IsCut multiLine (Text.trim body) comment.description chunks := by
  refine ⟨_, Comment.tagTexts multiLine (Comment.parts (Text.trim body)).2,
    result_ofBody_of_nonpos hdepth path body, ?_, Comment.isCut_parts multiLine (Text.trim body)⟩
  rw [mapM_eq_ok fun chunk _ => result_ofTagText_of_nonpos hdepth path chunk]
  simp only [Comment.map, Comment.ofBody, List.map_map]
  rfl

/-- A description with a blank line, a tag that goes on for another line, and a tag without words. -/
theorem ofBody_isCut_continued :
    ∃ comment chunks, (ofBody (fun _ => .error ()) ⟨true, id⟩ 0 "a.js"
        "a\n\nb\n@x y\nz\n@w\n").result = .ok comment ∧
      comment.tags.map Tag.name = [("x" : Text), ("w" : Text)] ∧
      Comment.IsCut true (Text.trim "a\n\nb\n@x y\nz\n@w\n") comment.description chunks := by
  have hnames : (ofBody (fun _ => .error ()) ⟨true, id⟩ 0 "a.js"
      "a\n\nb\n@x y\nz\n@w\n").result.toOption.map (fun comment => comment.tags.map Tag.name)
        = some [("x" : Text), ("w" : Text)] := by
    decide +kernel
  obtain ⟨comment, chunks, hread, -, hcut⟩ :=
    ofBody_isCut (fun _ => .error ()) true 0 (by decide) "a.js" "a\n\nb\n@x y\nz\n@w\n"
  rw [hread] at hnames
  exact ⟨comment, chunks, hread, Option.some.inj hnames, hcut⟩

end Extraction

end DocBlock
