import DocBlock.Proofs.Source.Comments

/-!
# A comment that is never closed

A text is read, and then the same text with a comment after it that is opened on a new line and
never closed. Up to that opening the two scans agree, whatever stands before it: where the first
stopped at an opening the second does too (`splitCode_append_of_ne_nil`), a closed comment stays
closed (`Layout.comments_of_cut_append`), and code that ends with its line ends at the opening
(`splitCode_append_opening`). So the two layouts have the same closed comments:

> `Layout.ofText_append_opening`: only what is left over by the scan differs;
> `Source.comments_append_opening`: the text of the comment that is not closed is attached to the
> last closed comment, as code.
-/

namespace DocBlock

/-! ## The scan goes on -/

/-- A scan that stopped at an opening stops there however the text goes on. -/
theorem splitCode_append_of_ne_nil {inLine : Bool} {t : Text} (h : (splitCode inLine t).2 ≠ [])
    (rest : Text) :
    splitCode inLine (t ++ rest) = ((splitCode inLine t).1, (splitCode inLine t).2 ++ rest) := by
  induction t generalizing inLine with
  | nil =>
    exact absurd (by simp [splitCode]) h
  | cons b t ih =>
    cases t with
    | nil =>
      -- One byte alone opens nothing.
      have hshort : ¬ (inLine = false ∧ ("/*" : Text) <+: [b]) :=
        fun hp => absurd hp.2.length_le (show ¬ 2 ≤ 1 by omega)
      rw [splitCode_cons, if_neg hshort] at h
      exact absurd (by simp [splitCode]) h
    | cons c t =>
      have hopen : ("/*" : Text) <+: b :: (c :: t ++ rest) ↔ ("/*" : Text) <+: b :: c :: t := by
        refine (Text.pair_prefix_cons (x := '/') (y := '*')).trans ?_
        exact (Text.pair_prefix_cons (x := '/') (y := '*') (t := c :: t)).symm
      have hafter : inLineAfter inLine b (c :: t ++ rest) = inLineAfter inLine b (c :: t) := rfl
      rw [splitCode_cons] at h
      rw [List.cons_append, splitCode_cons, splitCode_cons]
      by_cases hstop : inLine = false ∧ ("/*" : Text) <+: b :: c :: t
      · rw [if_pos hstop, if_pos ⟨hstop.1, hopen.mpr hstop.2⟩]
        rfl
      · rw [if_neg hstop] at h
        rw [if_neg hstop, if_neg fun hp => hstop ⟨hp.1, hopen.mp hp.2⟩, hafter, ih h]

/-- An opening after code that ends with its line ends the code. -/
theorem splitCode_append_opening {t : Text} (hcode : (splitCode false t).2 = [])
    (hend : t = [] ∨ t.getLast? = some (('\n' : Char) : UInt8)) (inner : Text) :
    splitCode false (t ++ ("/*" ++ inner)) = (t, "/*" ++ inner) := by
  have happ := splitCode_append_eq t
  rw [hcode, List.append_nil] at happ
  have hopens : ∀ k, ¬ OpensAt t k := by
    intro k hopen
    have hnot := (splitCode_isCode t).not_opens
    rw [hcode, List.append_nil, happ] at hnot
    exact hnot k hopen.lt_length hopen
  have hspaces := isCode_append_spaces hopens hend 0 (Or.inr ⟨inner, rfl⟩)
  rw [Text.spaces, List.replicate_zero, List.append_nil] at hspaces
  exact hspaces.splitCode_eq

namespace Layout

/-- A closed comment stays what it is when the text goes on after its gap. -/
theorem comments_of_cut_append {inner body outer rest : Text}
    (hcut : Text.cut "*/" (Text.afterFirst inner) = some (body, outer)) (houter : outer ≠ [])
    (hrest : ∀ b ∈ rest.head?, Text.isTail b = false) :
    comments ("/*" ++ inner ++ rest) =
      (⟨Text.firstCharacter inner, body, Text.firstCharacter outer,
          (splitCode false (Text.afterFirst outer ++ rest)).1⟩
        :: (comments (splitCode false (Text.afterFirst outer ++ rest)).2).1,
        (comments (splitCode false (Text.afterFirst outer ++ rest)).2).2) := by
  have hafter := Text.eq_append_of_cut hcut
  have hinner : inner ≠ [] := by
    intro hnil
    rw [hnil] at hafter
    have hparts := List.append_eq_nil_iff.mp hafter.symm
    exact absurd (List.append_eq_nil_iff.mp hparts.1).2 (by decide)
  obtain ⟨hmark, hbody⟩ := Text.first_append hinner hrest
  obtain ⟨hgap, hcode⟩ := Text.first_append houter hrest
  have hcut' : Text.cut "*/" (Text.afterFirst (inner ++ rest)) = some (body, outer ++ rest) := by
    rw [hbody, hafter, List.append_assoc]
    exact Text.cut_append _ (by decide)
      (not_infix_body_append (Text.not_infix_of_cut (by decide) hcut))
  rw [List.append_assoc, comments_of_cut hcut', hmark, hgap, hcode]

/-- A closed comment in a text that ends with a line feed has a gap, and the code after the gap is
empty or ends with the line feed. -/
theorem gap_of_getLast? {before outer : Text}
    (h : (before ++ ("*/" ++ outer)).getLast? = some (('\n' : Char) : UInt8)) :
    outer ≠ [] ∧ (Text.afterFirst outer = []
      ∨ (Text.afterFirst outer).getLast? = some (('\n' : Char) : UInt8)) := by
  constructor
  · intro hnil
    rw [hnil, List.append_nil, List.getLast?_append] at h
    exact absurd (Option.some.inj h) (by decide)
  · by_cases hcode : Text.afterFirst outer = []
    · exact Or.inl hcode
    · rw [← Text.firstCharacter_append_afterFirst outer, ← List.append_assoc, ← List.append_assoc,
        List.getLast?_append, List.getLast?_eq_some_getLast hcode, Option.some_or] at h
      rw [List.getLast?_eq_some_getLast hcode]
      exact Or.inr h

theorem comments_opening {body : Text} (hbody : ¬ ("*/" : Text) <:+: body) :
    comments ("/**" ++ body) = ([], some ⟨"*", body⟩) := by
  have hfirst : IsFirstCharacter "*" body := Text.characters_cons_of_lt (by decide) body
  show comments ("/*" ++ ("*" ++ body)) = _
  rw [comments_of_cut_none (by rw [hfirst.split.2, Text.cut_eq_none_iff]; exact hbody),
    hfirst.split.1, hfirst.split.2]

/-- A comment that is opened on a new line and never closed is left over by the scan, which finds
the same closed comments before it. -/
theorem comments_append_opening {body : Text} (hbody : ¬ ("*/" : Text) <:+: body) (t : Text)
    (hend : t = [] ∨ t.getLast? = some (('\n' : Char) : UInt8))
    (hclosed : (comments (splitCode false t).2).2 = none) :
    (splitCode false (t ++ ("/**" ++ body))).1 = (splitCode false t).1 ∧
      comments (splitCode false (t ++ ("/**" ++ body))).2 =
        ((comments (splitCode false t).2).1, some ⟨"*", body⟩) := by
  have happ := splitCode_append_eq t
  rcases splitCode_snd_cases t with hcode | ⟨inner, hinner⟩
  · -- no comment before the opening, so the code ends there
    have hsplit : splitCode false (t ++ ("/**" ++ body)) = (t, "/**" ++ body) :=
      splitCode_append_opening hcode hend ("*" ++ body)
    rw [hcode, List.append_nil] at happ
    rw [hsplit, hcode, comments_nil, happ, comments_opening hbody]
    exact ⟨rfl, rfl⟩
  · have hstop : (splitCode false t).2 ≠ [] := by
      rw [hinner]
      exact List.cons_ne_nil _ _
    have hsplit := splitCode_append_of_ne_nil hstop ("/**" ++ body)
    rw [hinner] at hsplit hclosed happ ⊢
    cases hcut : Text.cut "*/" (Text.afterFirst inner) with
    | none =>
      rw [comments_of_cut_none hcut] at hclosed
      nomatch hclosed
    | some parts =>
      obtain ⟨first, outer⟩ := parts
      rw [comments_of_cut hcut] at hclosed
      -- What follows the first comment stands at the end of the text.
      obtain ⟨before, hbefore⟩ : ∃ before, t = before ++ ("*/" ++ outer) := by
        refine ⟨(splitCode false t).1 ++ ("/*" ++ (Text.firstCharacter inner ++ first)), ?_⟩
        rw [List.append_assoc, List.append_assoc, List.append_assoc, ← List.append_assoc first,
          ← Text.eq_append_of_cut hcut, Text.firstCharacter_append_afterFirst, happ]
      have hlast : t.getLast? = some (('\n' : Char) : UInt8) := by
        refine hend.resolve_left fun hnil => ?_
        rw [hnil] at hbefore
        exact absurd (List.append_eq_nil_iff.mp hbefore.symm).2 (List.cons_ne_nil _ _)
      rw [hbefore] at hlast
      obtain ⟨houter, hend'⟩ := gap_of_getLast? hlast
      have hslash : ∀ b ∈ ("/**" ++ body : Text).head?, Text.isTail b = false := by
        intro b hb
        cases hb
        decide
      obtain ⟨hcode, hlater⟩ := comments_append_opening hbody (Text.afterFirst outer) hend' hclosed
      rw [hsplit, comments_of_cut_append hcut houter hslash, comments_of_cut hcut, hcode, hlater]
      exact ⟨rfl, rfl⟩
termination_by t.length
decreasing_by
  have hclosing : ("*/" : Text).length = 2 := rfl
  rw [hbefore]
  simp only [Text.afterFirst, List.length_append, List.length_drop]
  omega

/-- The layout of a text with a comment after it that is not closed. -/
theorem ofText_append_opening {t body : Text}
    (hend : t = [] ∨ t.getLast? = some (('\n' : Char) : UInt8))
    (hclosed : (ofText t).unclosed = none) (hbody : ¬ ("*/" : Text) <:+: body) :
    ofText (t ++ "/**" ++ body) = { ofText t with unclosed := some ⟨"*", body⟩ } := by
  obtain ⟨hlead, hcomments⟩ := comments_append_opening hbody t hend hclosed
  rw [List.append_assoc, ofText, hlead, hcomments]
  rfl

end Layout

namespace Source

theorem attachLast_concat {Δ : Type} (code : Text) (cs : List (Comment Δ)) (c : Comment Δ) :
    attachLast code (cs ++ [c]) = cs ++ [c.attach code] := by
  induction cs with
  | nil => rfl
  | cons d cs ih =>
    rw [List.cons_append, attachLast, ih, List.cons_append]
    simp

theorem unixNewlines_of_not_mem {t : Text} (h : (('\r' : Char) : UInt8) ∉ t) :
    Text.unixNewlines t = t :=
  Text.unixNewlines_eq_self fun hin => h (hin.subset (List.mem_cons_self ..))

/-- Without a comment that is not closed, every closed comment is read for itself. -/
theorem comments_of_unclosed_eq_none (reading : Reading) (path : Text) {t : Text}
    (ht : (('\r' : Char) : UInt8) ∉ t) (hclosed : (Layout.ofText t).unclosed = none) :
    comments reading path t = (Layout.ofText t).blocks.map (commentOf reading path) := by
  rw [comments_of_closed reading path t (by rw [unixNewlines_of_not_mem ht]) hclosed]
  refine List.map_congr_left fun block _ => ?_
  rw [commentOf]
  exact (Comment.attach_eq_withCode rfl rfl _).symm

/-- A comment that is not closed is attached, as code, to the last comment that is. -/
theorem comments_append_opening (reading : Reading) (path : Text) {t body : Text}
    (ht : (('\r' : Char) : UInt8) ∉ t) (hend : t = [] ∨ t.getLast? = some (('\n' : Char) : UInt8))
    (hclosed : (Layout.ofText t).unclosed = none) (hreturn : (('\r' : Char) : UInt8) ∉ body)
    (hbody : ¬ ("*/" : Text) <:+: body) :
    comments reading path (t ++ "/**" ++ body) = attachLast body (comments reading path t) := by
  have hopening : (('\r' : Char) : UInt8) ∉ t ++ "/**" ++ body := by
    intro hmem
    rcases List.mem_append.mp hmem with hmem | hmem
    · rcases List.mem_append.mp hmem with hmem | hmem
      · exact ht hmem
      · exact absurd hmem (by decide)
    · exact hreturn hmem
  rw [comments_of_unclosed_eq_none reading path ht hclosed, comments,
    unixNewlines_of_not_mem hopening, Layout.ofText_append_opening hend hclosed hbody]
  rfl

end Source

end DocBlock
