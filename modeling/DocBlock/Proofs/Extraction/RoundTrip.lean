import DocBlock.Proofs.Extraction.Body
import DocBlock.Proofs.Source.Printed

/-!
# Printing doc comments and reading them back

Doc comments in their usual form are read as they were printed:

> `ofSource_print`: the text of conventional entries gives one comment for each entry, in order,
> with the lines of its description, the tag of each of its tag lines, and its code.

The entries need nothing of each other. What could run from one into the next, a line comment in the
code or the white space around the delimiters, ends with the line.
-/

namespace DocBlock

namespace Extraction

section
variable {ε : Type} {load : Loader ε} {depth : Int} {path : Text}

/-- The comment holds what an entry of the file `path` was printed from. -/
structure Recovers (load : Loader ε) (depth : Int) (path : Text) (entry : Entry)
    (comment : Comment Inclusion) : Prop where
  isBanner : comment.isBanner = entry.isBanner
  /-- The description is its lines, joined by line feeds. -/
  full : comment.description.full = Text.join "\n" entry.description
  /-- Its summary ends at its first blank line. -/
  divided : comment.description.IsDivided
  /-- Each tag line is read as it is on its own. -/
  tags : List.Forall₂
    (fun line tag => (ofTagText load ⟨false, id⟩ depth path line).result = .ok tag)
    entry.tags comment.tags
  isPrivate : comment.isPrivate = true ↔ .api "private" ∈ comment.tags
  code : comment.code = Text.trim entry.code
  declaration : comment.declaration = Declaration.infer? (Text.trim entry.code)

theorem recovers_comment (hdepth : depth ≤ 0) (entry : Entry) :
    Recovers load depth path entry ((entry.comment ⟨false, id⟩ path).map .reference) where
  isBanner := rfl
  full := rfl
  divided := Description.isDivided_ofText _
  tags := by
    show List.Forall₂ _ entry.tags
      ((entry.tags.map (Tag.ofText id path)).map (Tag.map Inclusion.reference))
    rw [List.forall₂_map_right_iff, List.forall₂_map_right_iff, List.forall₂_same]
    intro line hline
    rw [result_ofTagText]
    exact Tag.traverse_eq_ok fun target _ => followed_of_nonpos hdepth target
  -- Leaving the references as they are hides no tag and makes none private.
  isPrivate := Tag.any_hides_iff_mem_map Inclusion.reference (entry.tags.map (Tag.ofText id path))
  code := rfl
  declaration := rfl

/-- Printed entries are read back, one comment for each, in order. -/
theorem ofSource_print (load : Loader ε) (depth : Int) (path : Text) (entries : List Entry)
    (hdepth : depth ≤ 0) (hne : entries ≠ []) (h : ∀ entry ∈ entries, entry.Conventional) :
    ∃ comments,
      (ofSource load ⟨false, id⟩ depth path (entries.flatMap Entry.print)).result = .ok comments ∧
      List.Forall₂ (Recovers load depth path) entries comments := by
  have hread := @result_ofSource_of_nonpos ε load ⟨false, id⟩ depth path hdepth
    (entries.flatMap Entry.print)
  rw [Source.comments_print rfl path h, orEmpty_of_ne_nil (by simpa using hne)] at hread
  refine ⟨_, hread, ?_⟩
  rw [List.forall₂_map_right_iff, List.forall₂_map_right_iff, List.forall₂_same]
  exact fun entry _ => recovers_comment hdepth entry

end

/-- A banner without a tag, right before an indented comment with a star in its description, a
private tag, and code with a line comment that looks like an opening. -/
def twoEntries : List Entry :=
  [⟨true, 0, ["Title"], [], []⟩,
    ⟨false, 2, ["Adds one.", [], "* to a number"], ["@param {Number} n", "@api private"],
      "  var a = 1; // no /* comment\n"⟩]

theorem ofSource_print_twoEntries :
    ∃ comments, (ofSource (fun _ => .error ()) ⟨false, id⟩ 0 "a.js"
        (twoEntries.flatMap Entry.print)).result = .ok comments ∧
      List.Forall₂ (Recovers (fun _ => .error ()) 0 "a.js") twoEntries comments := by
  refine ofSource_print _ 0 "a.js" twoEntries (by decide) (List.cons_ne_nil _ _) ?_
  intro entry hentry
  rcases List.mem_cons.mp hentry with rfl | hentry
  · exact ⟨by decide, by decide, by decide, by decide, by decide, by decide, by decide, by decide,
      fun k hopen => absurd hopen.lt_length (Nat.not_lt_zero k), Or.inl rfl⟩
  · rw [List.mem_singleton.mp hentry]
    have hopens : ∀ k < ("  var a = 1; // no /* comment\n" : Text).length,
        ¬ OpensAt "  var a = 1; // no /* comment\n" k := by decide
    exact ⟨by decide, by decide, by decide, by decide, by decide, by decide, by decide, by decide,
      fun k hopen => hopens k hopen.lt_length hopen, Or.inr rfl⟩

end Extraction

end DocBlock
