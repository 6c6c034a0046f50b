import DocBlock.Proofs.Source.Layout

/-!
# The comments of a layout

Each closed comment of a layout gives one comment. Its text comes from its own body, and its code
from what follows it, except that a comment at the end that is not closed gives its text to the last
one (`Layout.codeAt`). Code is attached twice to that last comment, and the second time counts only
if there is something to attach (`Comment.attach_attach`).

> `Source.comments_getElem?`: the comment at every index, from the block at that index.
-/

namespace DocBlock

/-- The code of the closed comment `block` at an index: the text of a comment that is not closed, if
the index is the last one and that text is not blank, or else what follows the comment. -/
def Layout.codeAt (layout : Layout) (index : Nat) (block : Block) : Text :=
  if index + 1 = layout.blocks.length ∧ Text.trim layout.unclosedBody ≠ [] then layout.unclosedBody
  else block.code

namespace Comment

variable {Δ Γ : Type}

/-- The comment with a code text and with what its first line declares. -/
def withCode (c : Comment Δ) (code : Text) : Comment Δ :=
  { c with code := Text.trim code, declaration := Declaration.infer? (Text.trim code) }

theorem attach_of_trim_eq_nil {code : Text} (h : Text.trim code = []) (c : Comment Δ) :
    c.attach code = c := by
  simp [attach, h]

theorem attach_of_trim_ne_nil {code : Text} (h : Text.trim code ≠ []) (c : Comment Δ) :
    c.attach code = c.withCode code := by
  simp [attach, h, withCode]

/-- Nothing is declared by no code, so blank code need not be told apart on a comment without
code. -/
theorem attach_eq_withCode {c : Comment Δ} (hcode : c.code = [])
    (hdeclaration : c.declaration = none) (code : Text) : c.attach code = c.withCode code := by
  by_cases h : Text.trim code = []
  · rw [attach_of_trim_eq_nil h, withCode, h]
    show c = { c with code := [], declaration := none }
    rw [← hcode, ← hdeclaration]
  · exact attach_of_trim_ne_nil h c

/-- The code attached last counts, unless it is blank. -/
theorem attach_attach (c : Comment Δ) (code later : Text) :
    (c.attach code).attach later = c.attach (if Text.trim later = [] then code else later) := by
  by_cases h : Text.trim later = []
  · rw [attach_of_trim_eq_nil h, if_pos h]
  · rw [attach_of_trim_ne_nil h, if_neg h, attach_of_trim_ne_nil h]
    by_cases hcode : Text.trim code = []
    · rw [attach_of_trim_eq_nil hcode]
    · rw [attach_of_trim_ne_nil hcode]
      rfl

end Comment

namespace Source

theorem attachLast_getElem? {Δ : Type} (code : Text) (cs : List (Comment Δ)) (i : Nat) :
    (attachLast code cs)[i]? =
      cs[i]?.map fun c => if i + 1 = cs.length then c.attach code else c := by
  induction cs generalizing i with
  | nil => rfl
  | cons c cs ih =>
    cases cs with
    | nil =>
      cases i with
      | zero => rfl
      | succ i => rfl
    | cons d cs =>
      cases i with
      | zero => rfl
      | succ i =>
        rw [attachLast, List.getElem?_cons_succ, ih, List.getElem?_cons_succ]
        · simp
        · simp

/-- What a closed comment is read as, with its code. -/
def commentWith (reading : Reading) (path : Text) (block : Block) (code : Text) : Comment Text :=
  { Comment.ofBody reading path (bodyText block.body) with
    isBanner := block.mark.head? == some '!' }.withCode code

theorem commentOf_attach (reading : Reading) (path : Text) (block : Block) (later : Text) :
    (commentOf reading path block).attach later =
      commentWith reading path block (if Text.trim later = [] then block.code else later) := by
  rw [commentOf, Comment.attach_attach, Comment.attach_eq_withCode rfl rfl]
  rfl

/-- The comment at every index comes from the block at that index. -/
theorem comments_getElem? (reading : Reading) (path t : Text) {layout : Layout}
    (hlayout : Layout.ofText (Text.unixNewlines t) = layout) (i : Nat) :
    (comments reading path t)[i]? = layout.blocks[i]?.map fun block =>
      commentWith reading path block (layout.codeAt i block) := by
  rw [comments, hlayout, ofLayout, attachLast_getElem?, List.getElem?_map, List.length_map,
    Option.map_map]
  congr 1
  funext block
  show (if i + 1 = layout.blocks.length then
    (commentOf reading path block).attach layout.unclosedBody else commentOf reading path block) = _
  unfold Layout.codeAt
  by_cases hlast : i + 1 = layout.blocks.length
  · -- the last comment: code is attached to it a second time
    rw [if_pos hlast, commentOf_attach]
    by_cases hblank : Text.trim layout.unclosedBody = []
    · rw [if_pos hblank, if_neg fun h => h.2 hblank]
    · rw [if_neg hblank, if_pos ⟨hlast, hblank⟩]
  · rw [if_neg hlast, if_neg fun h => hlast h.1, commentOf]
    exact Comment.attach_eq_withCode rfl rfl _

theorem comments_eq_mapIdx (reading : Reading) (path t : Text) {layout : Layout}
    (hlayout : Layout.ofText (Text.unixNewlines t) = layout) :
    comments reading path t = layout.blocks.mapIdx fun i block =>
      commentWith reading path block (layout.codeAt i block) := by
  refine List.ext_getElem? fun i => ?_
  rw [comments_getElem? reading path t hlayout, List.getElem?_mapIdx]

/-- Without a comment that is not closed, every code text is the code of its own comment. -/
theorem comments_of_closed (reading : Reading) (path t : Text) {layout : Layout}
    (hlayout : Layout.ofText (Text.unixNewlines t) = layout) (hclosed : layout.unclosed = none) :
    comments reading path t =
      layout.blocks.map fun block => commentWith reading path block block.code := by
  refine List.ext_getElem? fun i => ?_
  rw [comments_getElem? reading path t hlayout, List.getElem?_map]
  have hbody : Text.trim layout.unclosedBody = [] := by
    rw [Layout.unclosedBody, hclosed]
    rfl
  congr 1
  funext block
  rw [Layout.codeAt, if_neg fun h => h.2 hbody]

end Source

end DocBlock
