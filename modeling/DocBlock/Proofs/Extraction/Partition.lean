import DocBlock.Proofs.Extraction.Levels
import DocBlock.Proofs.Source.Comments
import DocBlock.Proofs.Source.Decoration

/-!
# A source text is its comments and the code between them

Reading a source text cuts it into pieces, none lost and none kept twice, and gives one comment for
every closed comment among the pieces, in order:

> `ofSource_partition`: the text is the concatenation of a right cut (`Layout.IsPartition`), and the
> comment at every index is read from the body and the code of the piece at that index.
-/

namespace DocBlock

/-- The mark of a banner is the exclamation mark and nothing else. -/
theorem Block.Fits.mark_head?_iff {block : Block} {rest : Text} (h : block.Fits rest) :
    block.mark.head? = some (('!' : Char) : UInt8) ↔ block.mark = "!" := by
  constructor
  · intro hhead
    obtain ⟨more, hmore⟩ := List.head?_eq_some_iff.mp hhead
    have hmark := h.mark
    rw [IsFirstCharacter, hmore, List.cons_append, Text.characters_cons_of_lt (by decide)] at hmark
    rw [hmore, ← (List.cons.inj hmark).1]
    rfl
  · intro hmark
    rw [hmark]
    rfl

namespace Extraction

section
variable {ε : Type} {load : Loader ε} {reading : Reading} {depth : Int} {path : Text}

/-- The comment is what a closed comment of the file `path` is read as, with a code text: its body
is read without the decoration of its lines, and it is a banner when its mark is an exclamation
mark. -/
def IsReadFrom (load : Loader ε) (reading : Reading) (depth : Int) (path : Text) (block : Block)
    (code : Text) (comment : Comment Inclusion) : Prop :=
  ∃ lines body, List.Forall₂ Source.Undecorated (Text.lines block.body) lines ∧
    (ofBody load reading depth path (Text.join "\n" lines)).result = .ok body ∧
    comment = { body with
      isBanner := decide (block.mark = "!")
      code := Text.trim code
      declaration := Declaration.infer? (Text.trim code) }

/-- A closed comment is read as its body is, when the references in it have their values. -/
theorem isReadFrom_map {block : Block} {rest : Text} (hblock : block.Fits rest) (code : Text)
    {value : Text → Inclusion}
    (hvalue : ∀ target ∈ (Source.commentWith reading path block code).details,
      followed load reading depth path target = .ok (value target)) :
    IsReadFrom load reading depth path block code
      ((Source.commentWith reading path block code).map value) := by
  obtain ⟨lines, hlines, hbody⟩ := Source.bodyText_undecorated block.body
  refine ⟨lines, (Comment.ofBody reading path (Text.join "\n" lines)).map value, hlines, ?_, ?_⟩
  · rw [result_ofBody, ← hbody]
    exact Comment.traverse_eq_ok hvalue
  · have hbanner :
        (block.mark.head? == some (('!' : Char) : UInt8)) = decide (block.mark = "!") := by
      rw [Bool.eq_iff_iff, beq_iff_eq, decide_eq_true_iff]
      exact hblock.mark_head?_iff
    rw [← hbanner, ← hbody]
    rfl

/-- Every source text that is read is partitioned into its comments and the code between them, and
every closed comment gives the comment at its index. -/
theorem ofSource_partition (load : Loader ε) (reading : Reading) (depth : Int) (path s : Text)
    (comments : List (Comment Inclusion))
    (h : (ofSource load reading depth path s).result = .ok comments) :
    ∃ layout : Layout, layout.IsPartition (Text.join "\n" (Text.splitOn "\r\n" s)) ∧
      (layout.blocks = [] → comments = [Comment.empty]) ∧
      (layout.blocks ≠ [] → comments.length = layout.blocks.length ∧
        ∀ i block, layout.blocks[i]? = some block → ∃ comment, comments[i]? = some comment ∧
          IsReadFrom load reading depth path block (layout.codeAt i block) comment) := by
  obtain ⟨value, hvalue, rfl⟩ := ofSource_eq_ok h
  obtain ⟨layout, hlayout⟩ : ∃ layout, Layout.ofText (Text.unixNewlines s) = layout := ⟨_, rfl⟩
  have hpartition := Layout.ofText_eq_iff.mp hlayout
  have hplain := Source.comments_eq_mapIdx reading path s hlayout
  refine ⟨layout, ?_, ?_, ?_⟩
  · rw [← Text.unixNewlines_eq_join]
    exact hpartition
  · -- no closed comment, so the one empty comment
    intro hnone
    rw [hplain, hnone]
    rfl
  · intro hsome
    have hlength : ((Source.comments reading path s).map (Comment.map value)).length
        = layout.blocks.length := by
      rw [hplain, List.length_map, List.length_mapIdx]
    have hne : (Source.comments reading path s).map (Comment.map value) ≠ [] := by
      rw [← List.length_pos_iff, hlength]
      exact List.length_pos_iff.mpr hsome
    rw [orEmpty_of_ne_nil hne]
    refine ⟨hlength, ?_⟩
    intro i block hblock
    have hget := Source.comments_getElem? reading path s hlayout i
    rw [hblock, Option.map_some] at hget
    refine ⟨_, by rw [List.getElem?_map, hget, Option.map_some], ?_⟩
    -- The block stands in the layout before the blocks after its index.
    have hfits : block.Fits (Layout.tail (layout.blocks.drop (i + 1)) layout.unclosed) := by
      obtain ⟨hi, rfl⟩ := List.getElem?_eq_some_iff.mp hblock
      refine hpartition.blocks _ _ ?_
      rw [← List.drop_eq_getElem_cons hi]
      exact List.drop_suffix i _
    refine isReadFrom_map hfits _ fun target htarget => hvalue target ?_
    exact List.mem_flatMap.mpr ⟨_, List.mem_of_getElem? hget, htarget⟩

end

/-- Two closed comments and one that is not closed, whose text is the code of the second. -/
theorem ofSource_partition_unclosed :
    ∃ comments, (ofSource (fun _ => .error ()) ⟨false, id⟩ 0 []
        "a /*! b */ c /** d */ e /* f").result = .ok comments ∧
      comments.map Comment.code = [("c" : Text), ("f" : Text)] ∧
      ∃ layout : Layout,
        layout.IsPartition (Text.join "\n" (Text.splitOn "\r\n" "a /*! b */ c /** d */ e /* f")) ∧
        comments.length = layout.blocks.length := by
  have hcodes : (ofSource (fun _ => .error ()) ⟨false, id⟩ 0 []
      "a /*! b */ c /** d */ e /* f").result.toOption.map (List.map Comment.code)
        = some [("c" : Text), ("f" : Text)] := by
    decide +kernel
  cases hread : (ofSource (fun _ => .error ()) ⟨false, id⟩ 0 []
      "a /*! b */ c /** d */ e /* f").result with
  | error e =>
    rw [hread] at hcodes
    cases hcodes
  | ok comments =>
    rw [hread] at hcodes
    have hcodes := Option.some.inj hcodes
    obtain ⟨layout, hpartition, hnone, hsome⟩ := ofSource_partition _ _ _ _ _ _ hread
    have hblocks : layout.blocks ≠ [] := by
      intro hnil
      rw [hnone hnil] at hcodes
      exact absurd hcodes (by decide)
    exact ⟨comments, rfl, hcodes, layout, hpartition, (hsome hblocks).1⟩

end Extraction

end DocBlock
