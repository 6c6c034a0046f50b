import Mathlib.Data.List.Forall2
import DocBlock.Proofs.Text.Characters
import DocBlock.Proofs.Text.Split
import DocBlock.Text.Dedent

/-!
# Texts without their shared indentation

Shrinking an indentation until a line starts with it leaves the longest text that both start
with (`prefix_shrink?_iff`). So shrinking it for line after line leaves the longest text that
all of them start with, in whatever order they come (`prefix_sharedIndentation?_iff`). Only
lines with something in them are asked, and what is left is taken off each of them:

> `dedent_unindents`: every inner line loses the longest indentation that the lines share
> (`IsIndentation`), and a blank one loses all it has.

The inner lines are those of the text without its opening and then without its closing, if it
has them (`OpeningDropped`, `ClosingDropped`). A text that is laid out between the two, from
lines that share no indentation of their own (`IsFlush`), loses the layout and nothing else
(`dedent_laidOut`).
-/

namespace DocBlock.Text

/-! ## What lines share -/

/-- Shrinking leaves the longest text that both start with. -/
theorem prefix_shrink?_iff {indent shared p : Text} (h : shrink? indent shared = some p) (q : Text) :
    q <+: p ↔ q <+: shared ∧ q <+: indent := by
  fun_induction shrink? indent shared with
  | case1 shared hstart =>
    obtain rfl := Option.some.inj h
    exact ⟨fun hq => ⟨hq, hq.trans (List.isPrefixOf_iff_prefix.mp hstart)⟩, And.left⟩
  | case2 => exact absurd h.symm (Option.some_ne_none p)
  | case3 shared hstart hne ih =>
    rw [ih h]
    refine and_congr_left fun hindent => ?_
    -- what `indent` starts with is not the whole of `shared`, so the last byte is not missed
    have hwhole : q ≠ shared := by
      rintro rfl
      exact hstart (List.isPrefixOf_iff_prefix.mpr hindent)
    have hlast : q <+: shared.dropLast ++ [shared.getLast hne] ↔
        q = shared.dropLast ++ [shared.getLast hne] ∨ q <+: shared.dropLast :=
      List.prefix_concat_iff
    rw [List.dropLast_concat_getLast hne] at hlast
    rw [hlast]
    exact (or_iff_right hwhole).symm

theorem prefix_foldlM_shrink?_iff {others : List Text} {shared p : Text}
    (h : others.foldlM (fun shared other => shrink? (indentation other) shared) shared = some p)
    (q : Text) : q <+: p ↔ q <+: shared ∧ ∀ l ∈ others, q <+: indentation l := by
  induction others generalizing shared with
  | nil =>
    obtain rfl := Option.some.inj h
    exact (and_iff_left nofun).symm
  | cons other others ih =>
    rw [List.foldlM_cons] at h
    obtain ⟨smaller, hsmaller, h⟩ := Option.bind_eq_some_iff.mp h
    rw [ih h, prefix_shrink?_iff hsmaller, List.forall_mem_cons, and_assoc]

/-- The lines share the longest text that the indentation of each of them starts with. -/
theorem prefix_sharedIndentation?_iff {ls : List Text} (hne : ls ≠ []) {p : Text}
    (h : sharedIndentation? ls = some p) (q : Text) :
    q <+: p ↔ ∀ l ∈ ls, q <+: indentation l := by
  obtain ⟨line, others, rfl⟩ := List.exists_cons_of_ne_nil hne
  rw [prefix_foldlM_shrink?_iff h, List.forall_mem_cons]

/-- An indentation starts with the spaces and tabs that its line starts with. -/
theorem prefix_indentation_iff {q line : Text} :
    q <+: indentation line ↔ (∀ b ∈ q, Byte.isBlank b = true) ∧ q <+: line := by
  induction q generalizing line with
  | nil => simp
  | cons b q ih =>
    cases line with
    | nil => simp [indentation]
    | cons c line =>
      rw [indentation, List.takeWhile_cons]
      by_cases hc : Byte.isBlank c = true
      · rw [if_pos hc, List.cons_prefix_cons, List.cons_prefix_cons, ← indentation, ih,
          List.forall_mem_cons]
        constructor
        · rintro ⟨rfl, hq, hline⟩
          exact ⟨⟨hc, hq⟩, rfl, hline⟩
        · rintro ⟨⟨-, hq⟩, rfl, hline⟩
          exact ⟨rfl, hq, hline⟩
      · rw [if_neg hc, List.cons_prefix_cons, List.forall_mem_cons]
        constructor
        · exact fun h => absurd (List.prefix_nil.mp h) (List.cons_ne_nil b q)
        · rintro ⟨⟨hb, -⟩, rfl, -⟩
          exact absurd hb hc

/-- The longest text of spaces and tabs that all the lines start with, the blank ones apart. It is
empty if there are no others. -/
structure IsIndentation (p : Text) (ls : List Text) : Prop where
  /-- It is made of spaces and tabs. -/
  blank : ∀ b ∈ p, Byte.isBlank b = true
  /-- Every line with something in it starts with it. -/
  start : ∀ l ∈ ls, isBlank l = false → p <+: l
  /-- No other such text is longer. -/
  longest : (∃ l ∈ ls, isBlank l = false) → ∀ q : Text, (∀ b ∈ q, Byte.isBlank b = true) →
    (∀ l ∈ ls, isBlank l = false → q <+: l) → q <+: p
  /-- Without a line with something in it, it is empty. -/
  empty : (∀ l ∈ ls, isBlank l = true) → p = []

theorem isIndentation_of_sharedIndentation? {ls : List Text} {p : Text}
    (h : sharedIndentation? (ls.filter (!isBlank ·)) = some p) : IsIndentation p ls := by
  have hsolid {l : Text} : l ∈ ls.filter (!isBlank ·) ↔ l ∈ ls ∧ isBlank l = false := by
    rw [List.mem_filter, Bool.not_eq_true']
  by_cases hnil : ls.filter (!isBlank ·) = []
  · rw [hnil] at h
    obtain rfl := Option.some.inj h
    exact {
      blank := nofun
      start := fun l _ _ => List.nil_prefix
      longest := by
        rintro ⟨l, hl, hb⟩
        have hmem := hsolid.mpr ⟨hl, hb⟩
        rw [hnil] at hmem
        exact nomatch hmem
      empty := fun _ => rfl }
  · have hshared (q : Text) := prefix_sharedIndentation?_iff hnil h q
    obtain ⟨first, hfirst⟩ := List.exists_mem_of_ne_nil _ hnil
    have hself := (hshared p).mp List.prefix_rfl
    exact {
      blank := (prefix_indentation_iff.mp (hself first hfirst)).1
      start := fun l hl hb => (prefix_indentation_iff.mp (hself l (hsolid.mpr ⟨hl, hb⟩))).2
      longest := fun _ q hq hstart => (hshared q).mpr fun l hl =>
        prefix_indentation_iff.mpr ⟨hq, hstart l (hsolid.mp hl).1 (hsolid.mp hl).2⟩
      empty := fun hall => by
        have hb := (hsolid.mp hfirst).2
        rw [hall first (hsolid.mp hfirst).1] at hb
        exact nomatch hb }

/-! ## Lines without it -/

/-- The second line is the first without the indentation `p`, or empty if that is blank. -/
structure IsUnindented (p line rest : Text) : Prop where
  blank : isBlank line = true → rest = []
  solid : isBlank line = false → line = p ++ rest

section
variable {p : Text} {ls : List Text}

theorem IsIndentation.isUnindented (h : IsIndentation p ls) {line : Text} (hline : line ∈ ls) :
    IsUnindented p line (unindented p line) := by
  refine ⟨fun hb => if_pos hb, fun hb => ?_⟩
  obtain ⟨rest, rfl⟩ := h.start line hline hb
  have hrest : p.isPrefixOf? (p ++ rest) = some rest := isPrefixOf?_eq_some_iff.mpr rfl
  rw [unindented, hb, if_neg Bool.false_ne_true, hrest, Option.getD_some]

theorem IsUnindented.line_feed {line rest : Text} (h : IsUnindented p line rest)
    (hline : (('\n' : Char) : UInt8) ∉ line) : (('\n' : Char) : UInt8) ∉ rest := by
  cases hb : isBlank line with
  | true =>
    rw [h.blank hb]
    exact List.not_mem_nil
  | false =>
    rw [h.solid hb] at hline
    exact fun hmem => hline (List.mem_append_right p hmem)

end

theorem withoutBlankEnd_sublist (all : List Text) : (withoutBlankEnd all).Sublist all := by
  unfold withoutBlankEnd
  split
  · exact List.dropLast_sublist all
  · exact List.Sublist.refl all

theorem innerLines_ne_nil (t : Text) : innerLines t ≠ [] := by
  rw [innerLines, withoutBlankEnd]
  split
  next h =>
    have hmany := of_decide_eq_true ((Bool.and_eq_true_iff ..).mp h).1
    rw [← List.length_pos_iff, List.length_dropLast]
    omega
  next => exact splitWhere_ne_nil _ _

/-- Every inner line gives one line, without the longest indentation that they share. -/
theorem dedent_unindents (t : Text) : ∃ p, IsIndentation p (innerLines t) ∧
    dedent? t = some (dedent t) ∧
    List.Forall₂ (IsUnindented p) (innerLines t) (lines (dedent t)) := by
  have hresult : dedent? t = some (dedent t) := (Option.some_get (isSome_dedent? t)).symm
  obtain ⟨p, hp, hjoin⟩ := Option.map_eq_some_iff.mp hresult
  have hindent := isIndentation_of_sharedIndentation? hp
  have hlines : lines (dedent t) = (innerLines t).map (unindented p) := by
    rw [← hjoin]
    refine lines_join (fun line hline => ?_) (List.map_eq_nil_iff.not.mpr (innerLines_ne_nil t))
    obtain ⟨l, hl, rfl⟩ := List.mem_map.mp hline
    exact (hindent.isUnindented hl).line_feed
      (not_mem_of_mem_lines _ l ((withoutBlankEnd_sublist _).subset hl))
  refine ⟨p, hindent, hresult, ?_⟩
  rw [hlines, List.forall₂_map_right_iff]
  exact List.forall₂_same.mpr fun line hline => hindent.isUnindented hline

/-! ## The lines inside -/

/-- The second text is the first without a line feed at its start. -/
inductive OpeningDropped : Text → Text → Prop
  | feed (t : Text) : OpeningDropped ((('\n' : Char) : UInt8) :: t) t
  | plain {t : Text} (h : t.head? ≠ some (('\n' : Char) : UInt8)) : OpeningDropped t t

/-- The second text is the first without its last line feed and what follows that, if these are only
spaces and tabs. -/
inductive ClosingDropped : Text → Text → Prop
  | blank (t : Text) {w : Text} (hw : ∀ b ∈ w, Byte.isBlank b = true) :
    ClosingDropped (t ++ (('\n' : Char) : UInt8) :: w) t
  | plain {t : Text}
    (h : ∀ u w, t = u ++ (('\n' : Char) : UInt8) :: w → ∃ b ∈ w, Byte.isBlank b = false) :
    ClosingDropped t t

theorem openingDropped_withoutFirstFeed (t : Text) : OpeningDropped t (withoutFirstFeed t) := by
  rw [withoutFirstFeed]
  split
  next h =>
    obtain ⟨rest, rfl⟩ := List.head?_eq_some_iff.mp (beq_iff_eq.mp h)
    exact .feed rest
  next h => exact .plain fun hhead => h (beq_iff_eq.mpr hhead)

theorem withoutBlankEnd_concat {ls : List Text} (hne : ls ≠ []) {w : Text}
    (hw : ∀ b ∈ w, Byte.isBlank b = true) : withoutBlankEnd (ls ++ [w]) = ls := by
  have hmany : 1 < (ls ++ [w]).length := by
    have hpos := List.length_pos_iff.mpr hne
    rw [List.length_append, List.length_singleton]
    omega
  rw [withoutBlankEnd, List.getLast?_concat, Option.any_some, List.all_eq_true.mpr hw,
    decide_eq_true hmany, Bool.and_self, if_pos rfl, List.dropLast_concat]

/-- What follows a line feed, with none behind, is the last line. -/
theorem lines_append_lineFeed (u : Text) {w : Text} (hw : (('\n' : Char) : UInt8) ∉ w) :
    lines (u ++ (('\n' : Char) : UInt8) :: w) = lines u ++ [w] := by
  have hline : lines w = [w] := splitWhere_eq_singleton fun b hb => by
    rw [beq_eq_false_iff_ne]
    rintro rfl
    exact hw hb
  rw [← hline]
  exact splitWhere_append_cons rfl u w

/-- The inner lines are those of the text without its opening and its closing. -/
theorem exists_closingDropped (opened : Text) :
    ∃ inner, ClosingDropped opened inner ∧ withoutBlankEnd (lines opened) = lines inner := by
  by_cases hclosing : ∃ u w, opened = u ++ (('\n' : Char) : UInt8) :: w ∧
      ∀ b ∈ w, Byte.isBlank b = true
  · obtain ⟨u, w, rfl, hw⟩ := hclosing
    refine ⟨u, .blank u hw, ?_⟩
    rw [lines_append_lineFeed u (not_mem_of_isBlank hw rfl)]
    exact withoutBlankEnd_concat (splitWhere_ne_nil _ u) hw
  · have hplain (u w : Text) (hcut : opened = u ++ (('\n' : Char) : UInt8) :: w) :
        ∃ b ∈ w, Byte.isBlank b = false := by
      by_contra hnone
      refine hclosing ⟨u, w, hcut, fun b hb => ?_⟩
      by_contra hblank
      exact hnone ⟨b, hb, Bool.eq_false_iff.mpr hblank⟩
    refine ⟨opened, .plain hplain, ?_⟩
    rw [withoutBlankEnd, if_neg]
    intro h
    obtain ⟨hmany, hlast⟩ := (Bool.and_eq_true_iff ..).mp h
    -- the last of several lines follows a line feed
    obtain ⟨w, hw, hblank⟩ := (Option.any_eq_true ..).mp hlast
    obtain ⟨ls, hls⟩ := List.getLast?_eq_some_iff.mp hw
    have hne : ls ≠ [] := by
      rintro rfl
      rw [hls] at hmany
      exact Nat.lt_irrefl 1 (of_decide_eq_true hmany)
    have hcut : opened = join "\n" ls ++ (('\n' : Char) : UInt8) :: w := by
      rw [← join_lines opened, hls, join_append _ hne (List.cons_ne_nil w []), join_singleton,
        List.append_assoc]
      rfl
    obtain ⟨b, hb, hsolid⟩ := hplain _ w hcut
    rw [List.all_eq_true.mp hblank b hb] at hsolid
    exact nomatch hsolid

/-! ## Lines that are laid out -/

/-- Lines with nothing to remove: blank ones are empty, and the others, of which there is one, do not
all start with a space or all with a tab. -/
structure IsFlush (ls : List Text) : Prop where
  line_feed : ∀ l ∈ ls, (('\n' : Char) : UInt8) ∉ l
  solid : ∃ l ∈ ls, isBlank l = false
  empty : ∀ l ∈ ls, isBlank l = true → l = []
  start : ∀ b, Byte.isBlank b = true → ∃ l ∈ ls, isBlank l = false ∧ l.head? ≠ some b

/-- The lines after a line feed, each with `w` in front and a line feed behind, and `w'` at the
end. -/
def laidOut (w w' : Text) (ls : List Text) : Text :=
  "\n" ++ ls.flatMap (fun l => w ++ l ++ ("\n" : Text)) ++ w'

/-- Lines that get back what was in front of them are what they were. -/
theorem eq_of_forall₂_isUnindented {w : Text} (hw : ∀ b ∈ w, Byte.isBlank b = true)
    {ls outs : List Text} (hempty : ∀ l ∈ ls, isBlank l = true → l = [])
    (h : List.Forall₂ (fun l out => IsUnindented w (w ++ l) out) ls outs) : outs = ls := by
  induction h with
  | nil => rfl
  | @cons l out ls outs hl _ ih =>
    have hout : out = l := by
      cases hb : isBlank l with
      | true => rw [hl.blank ((isBlank_append hw l).trans hb), hempty l (List.mem_cons_self ..) hb]
      | false => exact (List.append_cancel_left (hl.solid ((isBlank_append hw l).trans hb))).symm
    rw [hout, ih fun k hk => hempty k (List.mem_cons_of_mem l hk)]

section
variable {w w' : Text} {ls : List Text} (hls : IsFlush ls) (hw : ∀ b ∈ w, Byte.isBlank b = true)

include hls hw

theorem innerLines_laidOut (hw' : ∀ b ∈ w', Byte.isBlank b = true) :
    innerLines (laidOut w w' ls) = ls.map (w ++ ·) := by
  obtain ⟨solid, hsolid, -⟩ := hls.solid
  have hne : ls.map (w ++ ·) ≠ [] := List.ne_nil_of_mem (List.mem_map_of_mem hsolid)
  have hopened : withoutFirstFeed (laidOut w w' ls) = join "\n" (ls.map (w ++ ·) ++ [w']) := by
    rw [join_concat, List.flatMap_map]
    rfl
  have hfeed : ∀ l ∈ ls.map (w ++ ·) ++ [w'], (('\n' : Char) : UInt8) ∉ l := by
    intro l hl
    rcases List.mem_append.mp hl with hl | hl
    · obtain ⟨inner, hinner, rfl⟩ := List.mem_map.mp hl
      rw [List.mem_append, not_or]
      exact ⟨not_mem_of_isBlank hw rfl, hls.line_feed inner hinner⟩
    · rw [List.mem_singleton.mp hl]
      exact not_mem_of_isBlank hw' rfl
  rw [innerLines, hopened, lines_join hfeed (List.append_ne_nil_of_left_ne_nil hne _),
    withoutBlankEnd_concat hne hw']

/-- The lines share the indentation they were laid out with and no more. -/
theorem IsIndentation.eq_of_isFlush {p : Text} (h : IsIndentation p (ls.map (w ++ ·))) : p = w := by
  have hblank (l : Text) : isBlank (w ++ l) = isBlank l := isBlank_append hw l
  have hstart : w <+: p := by
    obtain ⟨solid, hsolid, hb⟩ := hls.solid
    refine h.longest ⟨w ++ solid, List.mem_map_of_mem hsolid, by rwa [hblank]⟩ w hw ?_
    rintro _ hl -
    obtain ⟨l, -, rfl⟩ := List.mem_map.mp hl
    exact List.prefix_append w l
  obtain ⟨more, rfl⟩ := hstart
  cases more with
  | nil => exact List.append_nil w
  | cons b more =>
    obtain ⟨l, hl, hb, hhead⟩ := hls.start b (h.blank b (by simp))
    have hlead := h.start (w ++ l) (List.mem_map_of_mem hl) (by rwa [hblank])
    rw [List.prefix_append_right_inj] at hlead
    obtain ⟨rest, rfl⟩ := hlead
    exact absurd rfl hhead

/-- Lines that are laid out are read back. -/
theorem dedent_laidOut (hw' : ∀ b ∈ w', Byte.isBlank b = true) :
    dedent (laidOut w w' ls) = join "\n" ls := by
  obtain ⟨p, hp, -, hlines⟩ := dedent_unindents (laidOut w w' ls)
  rw [innerLines_laidOut hls hw hw'] at hp hlines
  obtain rfl := hp.eq_of_isFlush hls hw
  rw [List.forall₂_map_left_iff] at hlines
  rw [← join_lines (dedent (laidOut p w' ls)), eq_of_forall₂_isUnindented hw hls.empty hlines]

end

/-- The lines between an opening and a closing lose the longest indentation that those with something
in them share, and shrinking never runs out of bytes. In particular lines that are laid out are read
back. -/
theorem dedent_removes_indentation :
    (∀ t, ∃ opened inner p, OpeningDropped t opened ∧ ClosingDropped opened inner ∧
      IsIndentation p (lines inner) ∧ dedent? t = some (dedent t) ∧
      List.Forall₂ (IsUnindented p) (lines inner) (lines (dedent t))) ∧
    ∀ w w' ls, IsFlush ls → (∀ b ∈ w, Byte.isBlank b = true) → (∀ b ∈ w', Byte.isBlank b = true) →
      dedent (laidOut w w' ls) = join "\n" ls := by
  refine ⟨fun t => ?_, fun w w' ls hls hw hw' => dedent_laidOut hls hw hw'⟩
  obtain ⟨inner, hclosing, hinner⟩ := exists_closingDropped (withoutFirstFeed t)
  obtain ⟨p, hp, hresult, hlines⟩ := dedent_unindents t
  rw [innerLines, hinner] at hp hlines
  exact ⟨_, inner, p, openingDropped_withoutFirstFeed t, hclosing, hp, hresult, hlines⟩

/-- One line goes on with a tab and one with a space, so that only the layout is removed. -/
theorem dedent_removes_indentation_mixed :
    dedent "\n \t\ta\n \t\n \t b\n\t" = ("\ta\n\n b" : Text) := by
  have hlines : IsFlush ["\ta", [], " b"] := {
    line_feed := by decide
    solid := ⟨" b", by decide, by decide⟩
    empty := by decide
    start := by
      intro b hb
      by_cases htab : b = '\t'
      · exact ⟨" b", by decide, by decide, by subst htab; decide⟩
      · exact ⟨"\ta", by decide, by decide, fun h => htab (Option.some.inj h).symm⟩ }
  exact dedent_removes_indentation.2 " \t" "\t" ["\ta", [], " b"] hlines
    (List.all_eq_true.mp rfl) (List.all_eq_true.mp rfl)

end DocBlock.Text
