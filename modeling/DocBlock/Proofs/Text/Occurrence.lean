import DocBlock.Text.Basic

/-!
# Occurrences of a separator

`Text.cut` looks for the first occurrence of a separator. This file says what it finds in terms of
`<:+:`, the relation "occurs in": nothing exactly when the separator does not occur
(`cut_eq_none_iff`), and otherwise the occurrence that ends first (`not_infix_append_of_cut`), with a
part before it that holds none of its own (`not_infix_of_cut`). `cut_append` is the way back: a text
put together around a separator is cut there, provided that the separator does not already end
earlier. Over a byte that the separator does
not hold no occurrence reaches (`infix_append_cons_iff`).

The separators of a source file are two bytes long. For those `pair_infix_append` splits the
question over a concatenation: an occurrence lies in one of the parts or across the seam.

Line ends are replaced by `Text.unixNewlines`, which is splitting at `\r\n` and joining with `\n`
(`unixNewlines_eq_join`).
-/

namespace DocBlock.Text

theorem isPrefixOf?_eq_none_iff {lead t : Text} : lead.isPrefixOf? t = none ↔ ¬ lead <+: t := by
  constructor
  · intro hnone hstart
    obtain ⟨rest, hrest⟩ := hstart
    rw [isPrefixOf?_eq_some_iff.mpr hrest.symm] at hnone
    nomatch hnone
  · intro hnot
    cases hp : lead.isPrefixOf? t with
    | none => rfl
    | some rest => exact absurd ⟨rest, (isPrefixOf?_eq_some_iff.mp hp).symm⟩ hnot

/-- Nothing is found exactly in a text without the separator. -/
theorem cut_eq_none_iff {sep t : Text} : cut sep t = none ↔ ¬ sep <:+: t := by
  induction t with
  | nil => cases sep <;> simp [cut]
  | cons b t ih =>
    rw [cut, List.infix_cons_iff, not_or, ← ih, ← isPrefixOf?_eq_none_iff]
    cases sep.isPrefixOf? (b :: t) with
    | none => simp
    | some rest => simp

theorem contains_iff {sep t : Text} : contains sep t = true ↔ sep <:+: t := by
  rw [contains, Option.isSome_iff_ne_none, ne_eq, cut_eq_none_iff, Classical.not_not]

/-- A separator does not reach across a byte that it does not hold. -/
theorem infix_append_cons_iff {sep : Text} {b : UInt8} (hb : b ∉ sep) (s t : Text) :
    sep <:+: s ++ b :: t ↔ sep <:+: s ∨ sep <:+: t := by
  have hstart : ∀ s' : Text, sep <+: s' ++ b :: t → sep <+: s' := by
    intro s' hpre
    have hseam : s' ++ [b] <+: s' ++ b :: t := ⟨t, by simp⟩
    rcases List.prefix_or_prefix_of_prefix hpre hseam with hpre | hpre
    · rcases List.prefix_concat_iff.mp hpre with rfl | hpre
      · exact absurd (by simp) hb
      · exact hpre
    · exact absurd (hpre.subset (by simp)) hb
  constructor
  · intro hin
    induction s with
    | nil =>
      rcases List.infix_cons_iff.mp hin with hpre | hin
      · exact Or.inl (hstart [] hpre).isInfix
      · exact Or.inr hin
    | cons c s ih =>
      rcases List.infix_cons_iff.mp hin with hpre | hin
      · exact Or.inl (hstart (c :: s) hpre).isInfix
      · exact (ih hin).imp_left fun hin => List.infix_cons_iff.mpr (Or.inr hin)
  · rintro (hin | hin)
    · exact hin.trans (List.prefix_append s (b :: t)).isInfix
    · exact hin.trans ⟨s ++ [b], [], by simp⟩

/-- No occurrence ends before the one that is found does. -/
theorem not_infix_append_of_cut {sep t before after : Text} (hsep : sep ≠ [])
    (h : cut sep t = some (before, after)) : ¬ sep <:+: before ++ sep.dropLast := by
  induction t generalizing before with
  | nil =>
    rw [cut, if_neg (by simpa using hsep)] at h
    cases h
  | cons b t ih =>
    have happ := eq_append_of_cut h
    rw [cut] at h
    split at h
    next rest hp =>
      obtain ⟨rfl, -⟩ := Prod.mk.inj (Option.some.inj h)
      intro hin
      have hlen := hin.length_le
      have hpos := List.length_pos_iff.mpr hsep
      rw [List.nil_append, List.length_dropLast] at hlen
      omega
    next hp =>
      obtain ⟨⟨before', after'⟩, hcut, heq⟩ := Option.map_eq_some_iff.mp h
      obtain ⟨rfl, rfl⟩ := Prod.mk.inj heq
      rw [List.cons_append, List.infix_cons_iff, not_or]
      refine ⟨fun hpre => isPrefixOf?_eq_none_iff.mp hp (hpre.trans ?_), ih hcut⟩
      rw [happ, ← List.cons_append, List.append_assoc]
      exact (List.prefix_append_right_inj _).mpr
        ((List.dropLast_prefix sep).trans (List.prefix_append _ _))

/-- The part before the first occurrence holds none. -/
theorem not_infix_of_cut {sep t before after : Text} (hsep : sep ≠ [])
    (h : cut sep t = some (before, after)) : ¬ sep <:+: before := fun hin =>
  not_infix_append_of_cut hsep h (hin.trans (List.prefix_append _ _).isInfix)

/-- A text put together around a separator is cut there, if no occurrence ends before that one
does. -/
theorem cut_append {sep before : Text} (after : Text) (hsep : sep ≠ [])
    (h : ¬ sep <:+: before ++ sep.dropLast) :
    cut sep (before ++ sep ++ after) = some (before, after) := by
  induction before with
  | nil =>
    have hp : sep.isPrefixOf? (sep ++ after) = some after := isPrefixOf?_eq_some_iff.mpr rfl
    cases sep with
    | nil => exact absurd rfl hsep
    | cons s sep =>
      rw [List.nil_append, List.cons_append, cut, ← List.cons_append, hp]
  | cons b before ih =>
    rw [List.cons_append, List.infix_cons_iff, not_or] at h
    have hp : sep.isPrefixOf? (b :: before ++ sep ++ after) = none := by
      rw [isPrefixOf?_eq_none_iff]
      intro hpre
      -- It would end before the last byte of the one that follows.
      refine h.1 (List.prefix_of_prefix_length_le hpre ?_ ?_)
      · rw [← List.cons_append, List.append_assoc]
        exact (List.prefix_append_right_inj _).mpr
          ((List.dropLast_prefix sep).trans (List.prefix_append _ _))
      · have hlen := List.length_pos_iff.mpr hsep
        simp only [List.length_cons, List.length_append, List.length_dropLast]
        omega
    rw [List.cons_append, List.cons_append] at hp ⊢
    rw [cut, hp]
    simp only [ih h.2, Option.map_some]

/-! ## Separators of two bytes -/

theorem pair_prefix_cons {x y b : UInt8} {t : Text} :
    [x, y] <+: b :: t ↔ b = x ∧ t.head? = some y := by
  rw [List.cons_prefix_cons, eq_comm]
  cases t with
  | nil => simp
  | cons c t =>
    rw [List.cons_prefix_cons, eq_comm (a := y)]
    simp

theorem pair_infix_cons {x y b : UInt8} {t : Text} :
    [x, y] <:+: b :: t ↔ (b = x ∧ t.head? = some y) ∨ [x, y] <:+: t := by
  rw [List.infix_cons_iff, pair_prefix_cons]

/-- Two bytes occur in a concatenation within one of its parts or across the seam. -/
theorem pair_infix_append {x y : UInt8} {s t : Text} :
    [x, y] <:+: s ++ t ↔
      [x, y] <:+: s ∨ [x, y] <:+: t ∨ (s.getLast? = some x ∧ t.head? = some y) := by
  induction s with
  | nil => simp
  | cons b s ih =>
    rw [List.cons_append, pair_infix_cons, ih, pair_infix_cons]
    cases s with
    | nil => simp [or_comm]
    | cons c s => simp only [List.cons_append, List.head?_cons, List.getLast?_cons_cons, or_assoc]

/-! ## Line ends -/

/-- A text without a carriage return before a line feed keeps its line ends. -/
theorem unixNewlines_eq_self {t : Text} (h : ¬ ("\r\n" : Text) <:+: t) : unixNewlines t = t := by
  fun_induction unixNewlines t with
  | case1 => rfl
  | case2 b => rfl
  | case3 b c t hend ih =>
    obtain ⟨hb, hc⟩ : b = '\r' ∧ c = '\n' := by simpa using hend
    have hpair : (['\r', '\n'] : Text) <:+: b :: c :: t :=
      pair_infix_cons.mpr (Or.inl ⟨hb, congrArg some hc⟩)
    exact absurd hpair h
  | case4 b c t hend ih =>
    rw [ih fun hlater => h (pair_infix_cons.mpr (Or.inr hlater))]

/-- A carriage return comes before a line feed in a concatenation only if it does so in a part or
across the seam. -/
theorem not_crlf_append {s t : Text} (hs : ¬ ("\r\n" : Text) <:+: s) (ht : ¬ ("\r\n" : Text) <:+: t)
    (hseam : s.getLast? ≠ some (('\r' : Char) : UInt8) ∨ t.head? ≠ some (('\n' : Char) : UInt8)) :
    ¬ ("\r\n" : Text) <:+: s ++ t := by
  intro hin
  rcases pair_infix_append.mp hin with hin | hin | ⟨hlast, hhead⟩
  · exact hs hin
  · exact ht hin
  · rcases hseam with hseam | hseam
    · exact hseam hlast
    · exact hseam hhead

theorem splitAfter_ne_nil (sep : Text) (skip : Nat) (t : Text) : splitAfter sep skip t ≠ [] := by
  fun_induction splitAfter sep skip t with
  | case1 => simp
  | case2 skip b t ih => exact ih
  | case3 b t hp ih => simp
  | case4 b t hp ih =>
    cases hs : splitAfter sep 0 t with
    | nil => exact absurd hs ih
    | cons piece pieces => simp [consFirst]

/-- A byte put in front of the first piece stands in front of the whole. -/
theorem join_consFirst (sep : Text) (b : UInt8) {pieces : List Text} (h : pieces ≠ []) :
    join sep (consFirst b pieces) = b :: join sep pieces := by
  match pieces, h with
  | [piece], _ => simp [join, consFirst]
  | piece :: next :: pieces, _ => simp [join, consFirst, List.intercalate]

theorem splitOn_cons_of_not_start {sep t : Text} {b : UInt8} (h : ¬ sep <+: b :: t) :
    splitOn sep (b :: t) = consFirst b (splitOn sep t) := by
  rw [splitOn, splitAfter, if_neg (by simpa using h), splitOn]

/-- Replacing line ends is splitting at one kind and joining with the other. -/
theorem unixNewlines_eq_join (t : Text) :
    unixNewlines t = join "\n" (splitOn "\r\n" t) := by
  have hne : ∀ u : Text, splitOn "\r\n" u ≠ [] := fun u => splitAfter_ne_nil _ 0 u
  fun_induction unixNewlines t with
  | case1 => rfl
  | case2 b =>
    have hp : ¬ ("\r\n" : Text) <+: [b] := fun hp => absurd hp.length_le (show ¬ 2 ≤ 1 by omega)
    rw [splitOn_cons_of_not_start hp, join_consFirst _ _ (hne [])]
    rfl
  | case3 b c t hend ih =>
    obtain ⟨rfl, rfl⟩ : b = '\r' ∧ c = '\n' := by simpa using hend
    have hp : ¬ ("\r\n" : Text) <+: (('\n' : Char) : UInt8) :: t := by
      intro hstart
      obtain ⟨rest, hrest⟩ := hstart
      exact absurd (List.cons.inj hrest).1 (by decide)
    -- The separator is skipped byte by byte: one step to find it, one to pass its line feed.
    have hskip :
        splitOn "\r\n" (('\r' : Char) :: ('\n' : Char) :: t) = [] :: splitOn "\r\n" t := rfl
    rw [ih, hskip, join, join, List.intercalate_cons_of_ne_nil (hne t),
      splitOn_cons_of_not_start hp, ← join, join_consFirst _ _ (hne t)]
    rfl
  | case4 b c t hend ih =>
    have hp : ¬ ("\r\n" : Text) <+: b :: c :: t := by
      intro hstart
      obtain ⟨rest, hrest⟩ := hstart
      obtain ⟨hb, htail⟩ := List.cons.inj hrest
      obtain ⟨hc, -⟩ := List.cons.inj htail
      exact hend (by rw [← hb, ← hc]; decide)
    rw [splitOn_cons_of_not_start hp, join_consFirst _ _ (hne _), ih]

end DocBlock.Text
