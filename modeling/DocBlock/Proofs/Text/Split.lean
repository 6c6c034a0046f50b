import DocBlock.Proofs.Text.Encoding

/-!
# Splitting at a separator

Splitting a text at every occurrence of a separator is cutting it again and again at the first one
(`splitOn_eq_cut`). So what is known of a cut carries over: a text put together around a separator
is split there (`splitOn_append`), and no piece holds the separator (`not_infix_of_mem_splitOn`). The
lines of a text are its pieces between line feeds (`lines_eq_splitOn_lineFeed`).
-/

namespace DocBlock.Text

section
variable {sep : Text} (hsep : sep ≠ [])

theorem splitAfter_eq_splitOn (sep : Text) (skip : Nat) (t : Text) :
    splitAfter sep skip t = splitOn sep (t.drop skip) := by
  induction skip generalizing t with
  | zero => rfl
  | succ skip ih =>
    cases t with
    | nil => rfl
    | cons b t => exact ih t

include hsep

/-- A text that starts with the separator is split after it. -/
theorem splitOn_start (rest : Text) : splitOn sep (sep ++ rest) = [] :: splitOn sep rest := by
  obtain ⟨b, later, rfl⟩ := List.exists_cons_of_ne_nil hsep
  have hstart : (b :: later).isPrefixOf (b :: (later ++ rest)) = true :=
    List.isPrefixOf_iff_prefix.mpr (List.prefix_append (b :: later) rest)
  rw [List.cons_append, splitOn, splitAfter, if_pos hstart, splitAfter_eq_splitOn]
  simp

/-- Splitting is cutting at the first occurrence and splitting what follows. -/
theorem splitOn_eq_cut (t : Text) :
    splitOn sep t = match cut sep t with
      | none => [t]
      | some (before, after) => before :: splitOn sep after := by
  induction t with
  | nil =>
    rw [cut, if_neg (by simpa using hsep)]
    rfl
  | cons b t ih =>
    rw [cut]
    cases hp : sep.isPrefixOf? (b :: t) with
    | some rest =>
      rw [isPrefixOf?_eq_some_iff.mp hp]
      exact splitOn_start hsep rest
    | none =>
      rw [splitOn_cons_of_not_start (isPrefixOf?_eq_none_iff.mp hp), ih]
      cases cut sep t with
      | none => rfl
      | some parts => rfl

theorem splitOn_of_not_infix {t : Text} (h : ¬ sep <:+: t) : splitOn sep t = [t] := by
  rw [splitOn_eq_cut hsep, cut_eq_none_iff.mpr h]

/-- A text put together around a separator is split there, if no occurrence ends before that one
does. -/
theorem splitOn_append {piece : Text} (h : ¬ sep <:+: piece ++ sep.dropLast) (rest : Text) :
    splitOn sep (piece ++ sep ++ rest) = piece :: splitOn sep rest := by
  rw [splitOn_eq_cut hsep, cut_append rest hsep h]

/-- No piece holds the separator. -/
theorem not_infix_of_mem_splitOn (t : Text) : ∀ piece ∈ splitOn sep t, ¬ sep <:+: piece := by
  intro piece hpiece
  rw [splitOn_eq_cut hsep] at hpiece
  cases hcut : cut sep t with
  | none =>
    rw [hcut] at hpiece
    rw [List.mem_singleton.mp hpiece]
    exact cut_eq_none_iff.mp hcut
  | some parts =>
    obtain ⟨before, after⟩ := parts
    rw [hcut] at hpiece
    rcases List.mem_cons.mp hpiece with rfl | hpiece
    · exact not_infix_of_cut hsep hcut
    · have hlength : after.length < t.length := by
        have hpos := List.length_pos_iff.mpr hsep
        rw [eq_append_of_cut hcut, List.length_append, List.length_append]
        omega
      exact not_infix_of_mem_splitOn after piece hpiece
termination_by t.length

end

/-- The first piece starts as the text does, if no separator stands there. -/
theorem exists_splitOn_cons {sep : Text} {b : UInt8} {t : Text} (h : ¬ sep <+: b :: t) :
    ∃ piece pieces, splitOn sep (b :: t) = (b :: piece) :: pieces := by
  rw [splitOn_cons_of_not_start h]
  cases hs : splitOn sep t with
  | nil => exact absurd hs (splitAfter_ne_nil sep 0 t)
  | cons piece pieces => exact ⟨piece, pieces, rfl⟩

/-- Lines are the pieces between line feeds. -/
theorem lines_eq_splitOn_lineFeed (t : Text) : lines t = splitOn "\n" t := by
  induction t with
  | nil => rfl
  | cons b t ih =>
    by_cases hb : b = '\n'
    · subst hb
      have hstart : splitOn "\n" ((('\n' : Char) : UInt8) :: t) = [] :: splitOn "\n" t :=
        splitOn_start (by decide) t
      rw [hstart, ← ih]
      rfl
    · have hnot : ¬ ("\n" : Text) <+: b :: t := by
        rintro ⟨rest, hrest⟩
        exact hb (List.cons.inj hrest).1.symm
      rw [splitOn_cons_of_not_start hnot, ← ih, lines, splitWhere, if_neg (by simpa using hb)]
      rfl

theorem not_mem_of_mem_lines (t : Text) : ∀ line ∈ lines t, (('\n' : Char) : UInt8) ∉ line := by
  intro line hline hmem
  rw [lines_eq_splitOn_lineFeed] at hline
  obtain ⟨before, after, rfl⟩ := List.append_of_mem hmem
  refine not_infix_of_mem_splitOn (by decide) t _ hline ⟨before, after, ?_⟩
  rw [List.append_assoc]
  rfl

end DocBlock.Text
