import DocBlock.Proofs.Source.Code
import DocBlock.Proofs.Text.Characters

/-!
# The layout of a source text

`Layout.ofText` cuts a text at its comments. `Layout.IsPartition` says without a scan what such a
cut must look like: its pieces are the text again (`Layout.text`), each mark and each gap is one
whole character of what stands there, a body holds no closing `*/`, and the code after a comment
ends where the next one opens.

There is exactly one such cut of every text, and it is the one that is computed:

> `Layout.ofText_eq_iff`: `Layout.ofText t = layout ↔ layout.IsPartition t`.

Existence follows the scan from comment to comment (`comments_spec`); uniqueness goes the other
way and reads a cut back from its pieces (`comments_tail`).
-/

namespace DocBlock

/-- `c` is the first character of `c ++ rest`, taken whole. -/
def IsFirstCharacter (c rest : Text) : Prop :=
  Text.characters (c ++ rest) = c :: Text.characters rest

instance (c rest : Text) : Decidable (IsFirstCharacter c rest) :=
  inferInstanceAs (Decidable (_ = _))

theorem isFirstCharacter_firstCharacter {t : Text} (h : t ≠ []) :
    IsFirstCharacter (Text.firstCharacter t) (Text.afterFirst t) := by
  rw [IsFirstCharacter, Text.firstCharacter_append_afterFirst]
  exact Text.characters_eq_cons h

theorem IsFirstCharacter.split {c rest : Text} (h : IsFirstCharacter c rest) :
    Text.firstCharacter (c ++ rest) = c ∧ Text.afterFirst (c ++ rest) = rest := by
  have hne : c ++ rest ≠ [] := by
    intro hnil
    rw [IsFirstCharacter, hnil, (List.append_eq_nil_iff.mp hnil).2] at h
    exact absurd h (by simp [Text.characters])
  have hfirst : Text.firstCharacter (c ++ rest) = c :=
    (List.cons.inj ((Text.characters_eq_cons hne).symm.trans h)).1
  refine ⟨hfirst, ?_⟩
  have happ := Text.firstCharacter_append_afterFirst (c ++ rest)
  rw [hfirst] at happ
  exact List.append_cancel_left happ

/-! ## The pieces of a layout -/

/-- A closed comment and the code after it, as they stand in the source. -/
def Block.text (block : Block) : Text :=
  "/*" ++ block.mark ++ block.body ++ "*/" ++ block.gap ++ block.code

/-- A comment that is not closed, as it stands in the source. -/
def Unclosed.text (comment : Unclosed) : Text := "/*" ++ comment.mark ++ comment.body

/-- What a layout holds from some comment on. -/
def Layout.tail (blocks : List Block) (unclosed : Option Unclosed) : Text :=
  blocks.flatMap Block.text ++ (unclosed.map Unclosed.text).getD []

/-- The pieces of a layout, one after another. -/
def Layout.text (layout : Layout) : Text :=
  layout.lead ++ Layout.tail layout.blocks layout.unclosed

/-- A closed comment is cut right when `rest` follows its code. -/
structure Block.Fits (block : Block) (rest : Text) : Prop where
  /-- The mark is one whole character. -/
  mark : IsFirstCharacter block.mark (block.body ++ "*/" ++ block.gap ++ block.code ++ rest)
  /-- The body runs to the first closing `*/`. -/
  body : ¬ ("*/" : Text) <:+: block.body
  /-- The gap is one whole character, and empty only at the end of the text. -/
  gap : (block.gap = [] ∧ block.code ++ rest = []) ∨ IsFirstCharacter block.gap (block.code ++ rest)
  /-- The code ends where the next comment opens. -/
  code : IsCode block.code rest

/-- A comment that is not closed is cut right: its mark is one whole character, or it ends before
its mark, and it holds no closing `*/`. -/
structure Unclosed.Fits (comment : Unclosed) : Prop where
  mark : (comment.mark = [] ∧ comment.body = []) ∨ IsFirstCharacter comment.mark comment.body
  body : ¬ ("*/" : Text) <:+: comment.body

/-- A layout is a right cut of a text. -/
structure Layout.IsPartition (layout : Layout) (t : Text) : Prop where
  text : layout.text = t
  lead : IsCode layout.lead (Layout.tail layout.blocks layout.unclosed)
  blocks : ∀ block later, block :: later <:+ layout.blocks →
    block.Fits (Layout.tail later layout.unclosed)
  unclosed : ∀ comment ∈ layout.unclosed, comment.Fits

namespace Layout

theorem tail_cons (block : Block) (later : List Block) (unclosed : Option Unclosed) :
    tail (block :: later) unclosed = block.text ++ tail later unclosed := by
  simp [tail]

/-! ## One comment of the scan -/

theorem comments_nil : comments [] = ([], none) := by
  rw [comments]
  intro _ _ _ h
  cases h

theorem comments_of_cut_none {inner : Text} (h : Text.cut "*/" (Text.afterFirst inner) = none) :
    comments ("/*" ++ inner) =
      ([], some ⟨Text.firstCharacter inner, Text.afterFirst inner⟩) := by
  show comments ('/' :: '*' :: inner) = _
  rw [comments]
  split
  next => rfl
  next body outer hcut =>
    rw [h] at hcut
    cases hcut

theorem comments_of_cut {inner body outer : Text}
    (h : Text.cut "*/" (Text.afterFirst inner) = some (body, outer)) :
    comments ("/*" ++ inner) =
      (⟨Text.firstCharacter inner, body, Text.firstCharacter outer,
          (splitCode false (Text.afterFirst outer)).1⟩
        :: (comments (splitCode false (Text.afterFirst outer)).2).1,
        (comments (splitCode false (Text.afterFirst outer)).2).2) := by
  show comments ('/' :: '*' :: inner) = _
  rw [comments]
  split
  next hcut =>
    rw [h] at hcut
    cases hcut
  next body' outer' hcut =>
    obtain ⟨rfl, rfl⟩ := Prod.mk.inj (Option.some.inj (h.symm.trans hcut))
    rfl

/-- The scan cuts a text that is empty or starts with a comment into right pieces. -/
theorem comments_spec (t : Text) (ht : t = [] ∨ ∃ inner, t = "/*" ++ inner) :
    tail (comments t).1 (comments t).2 = t ∧
      (∀ block later, block :: later <:+ (comments t).1 →
        block.Fits (tail later (comments t).2)) ∧
      ∀ comment ∈ (comments t).2, comment.Fits := by
  rcases ht with ht | ⟨inner, ht⟩
  · rw [ht, comments_nil]
    refine ⟨rfl, fun block later h => ?_, fun comment h => nomatch h⟩
    exact absurd (List.suffix_nil.mp h) (List.cons_ne_nil _ _)
  · cases hcut : Text.cut "*/" (Text.afterFirst inner) with
    | none =>
      rw [ht, comments_of_cut_none hcut]
      refine ⟨?_, fun block later h => ?_, ?_⟩
      · simp only [tail, Unclosed.text, List.flatMap_nil, List.nil_append, Option.map_some,
          Option.getD_some, List.append_assoc, Text.firstCharacter_append_afterFirst]
      · exact absurd (List.suffix_nil.mp h) (List.cons_ne_nil _ _)
      · intro comment hcomment
        cases hcomment
        refine ⟨?_, Text.cut_eq_none_iff.mp hcut⟩
        by_cases hinner : inner = []
        · exact Or.inl (by simp [hinner, Text.firstCharacter, Text.afterFirst])
        · exact Or.inr (isFirstCharacter_firstCharacter hinner)
    | some parts =>
      obtain ⟨body, outer⟩ := parts
      -- What follows the mark is the body, the delimiter, the gap, the code and the later comments.
      have hrest : body ++ "*/" ++ Text.firstCharacter outer
          ++ (splitCode false (Text.afterFirst outer)).1
          ++ (splitCode false (Text.afterFirst outer)).2 = Text.afterFirst inner := by
        rw [List.append_assoc _ _ (splitCode _ _).2, splitCode_append_eq, List.append_assoc,
          Text.firstCharacter_append_afterFirst, Text.eq_append_of_cut hcut]
      have hinner : inner ≠ [] := by
        intro hnil
        rw [hnil] at hrest
        exact absurd (congrArg List.length hrest) (by simp [Text.afterFirst, Text.ofString])
      obtain ⟨htail, hblocks, hunclosed⟩ :=
        comments_spec (splitCode false (Text.afterFirst outer)).2 (splitCode_snd_cases _)
      rw [ht, comments_of_cut hcut]
      refine ⟨?_, fun block later h => ?_, hunclosed⟩
      · -- the pieces of the first comment, and the later ones by induction
        rw [tail_cons, htail]
        simp only [Block.text, List.append_assoc] at hrest ⊢
        rw [hrest, Text.firstCharacter_append_afterFirst]
      · rcases List.suffix_cons_iff.mp h with heq | hlater
        · obtain ⟨rfl, rfl⟩ := List.cons.inj heq
          refine ⟨?_, Text.not_infix_of_cut (by decide) hcut, ?_, ?_⟩
          · rw [htail, hrest]
            exact isFirstCharacter_firstCharacter hinner
          · rw [htail, splitCode_append_eq]
            by_cases houter : outer = []
            · exact Or.inl (by simp [houter, Text.firstCharacter, Text.afterFirst])
            · exact Or.inr (isFirstCharacter_firstCharacter houter)
          · rw [htail]
            exact splitCode_isCode _
        · exact hblocks block later hlater
termination_by t.length
decreasing_by
  have hlen := congrArg List.length hrest
  have hslash : 0 < List.length ("/*" : Text) := by decide
  rw [ht]
  simp only [Text.afterFirst, List.length_append, List.length_drop] at hlen ⊢
  omega

/-! ## Reading a cut back -/

theorem not_infix_body_append {body : Text} (h : ¬ ("*/" : Text) <:+: body) :
    ¬ ("*/" : Text) <:+: body ++ ("*/" : Text).dropLast := by
  show ¬ (['*', '/'] : Text) <:+: body ++ [(('*' : Char) : UInt8)]
  rw [Text.pair_infix_append]
  intro hin
  rcases hin with hbody | hstar | ⟨-, hslash⟩
  · exact h hbody
  · exact absurd hstar (by decide)
  · exact absurd hslash (by decide)

/-- The scan reads the pieces of a right cut back. -/
theorem comments_tail {unclosed : Option Unclosed} (hunclosed : ∀ comment ∈ unclosed, comment.Fits)
    {blocks : List Block} (hblocks : ∀ block later, block :: later <:+ blocks →
      block.Fits (tail later unclosed)) :
    comments (tail blocks unclosed) = (blocks, unclosed) := by
  induction blocks with
  | nil =>
    cases unclosed with
    | none => exact comments_nil
    | some comment =>
      obtain ⟨hmark, hbody⟩ := hunclosed comment rfl
      have hsplit : Text.firstCharacter (comment.mark ++ comment.body) = comment.mark ∧
          Text.afterFirst (comment.mark ++ comment.body) = comment.body := by
        rcases hmark with ⟨hmark, hbody⟩ | hfirst
        · rw [hmark, hbody]
          exact ⟨rfl, rfl⟩
        · exact hfirst.split
      have htext : tail [] (some comment) = "/*" ++ (comment.mark ++ comment.body) := by
        simp [tail, Unclosed.text]
      rw [htext, comments_of_cut_none (by rw [hsplit.2, Text.cut_eq_none_iff]; exact hbody),
        hsplit.1, hsplit.2]
  | cons block later ih =>
    obtain ⟨hmark, hbody, hgap, hcode⟩ := hblocks block later (List.suffix_refl _)
    have hlater := ih fun b l h => hblocks b l (h.trans (List.suffix_cons _ _))
    have hgap' :
        Text.firstCharacter (block.gap ++ (block.code ++ tail later unclosed)) = block.gap ∧
        Text.afterFirst (block.gap ++ (block.code ++ tail later unclosed))
          = block.code ++ tail later unclosed := by
      rcases hgap with ⟨hgap, hend⟩ | hfirst
      · rw [hgap, hend]
        exact ⟨rfl, rfl⟩
      · exact hfirst.split
    have htext : tail (block :: later) unclosed = "/*" ++ (block.mark
        ++ (block.body ++ "*/" ++ block.gap ++ block.code ++ tail later unclosed)) := by
      simp only [tail_cons, Block.text, List.append_assoc]
    have hcut : Text.cut "*/" (Text.afterFirst (block.mark
        ++ (block.body ++ "*/" ++ block.gap ++ block.code ++ tail later unclosed)))
          = some (block.body, block.gap ++ (block.code ++ tail later unclosed)) := by
      rw [hmark.split.2, List.append_assoc, List.append_assoc]
      exact Text.cut_append _ (by decide) (not_infix_body_append hbody)
    rw [htext, comments_of_cut hcut, hmark.split.1, hgap'.1, hgap'.2, hcode.splitCode_eq, hlater]

/-- Every text has exactly one right cut, and it is the one that is computed. -/
theorem ofText_eq_iff {t : Text} {layout : Layout} :
    ofText t = layout ↔ layout.IsPartition t := by
  constructor
  · -- existence: the scan itself
    intro h
    subst h
    obtain ⟨htail, hblocks, hunclosed⟩ :=
      comments_spec (splitCode false t).2 (splitCode_snd_cases t)
    refine ⟨?_, ?_, hblocks, hunclosed⟩
    · show (splitCode false t).1 ++ tail _ _ = t
      rw [ofText, htail, splitCode_append_eq]
    · show IsCode (splitCode false t).1 (tail _ _)
      rw [ofText, htail]
      exact splitCode_isCode t
  · -- uniqueness: the scan reads the pieces back
    intro h
    obtain ⟨rfl, hlead, hblocks, hunclosed⟩ := h
    rw [ofText, text, hlead.splitCode_eq, comments_tail hunclosed hblocks]

end Layout

end DocBlock
