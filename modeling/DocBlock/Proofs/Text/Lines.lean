import Mathlib.Data.List.TakeWhile
import DocBlock.Proofs.Text.Occurrence

/-!
# Lines

`Text.lines` and `Text.join` undo each other: lines without a line feed, joined by line feeds, are
read back as they were (`lines_join`), and a text is its own lines joined (`join_lines`). Both are
the laws of the standard library's `splitOn`, which `Text.splitWhere` computes.
-/

namespace DocBlock.Text

theorem splitWhere_eq_splitOnP (p : UInt8 → Bool) (t : Text) : splitWhere p t = t.splitOnP p := by
  induction t with
  | nil => rfl
  | cons b t ih =>
    rw [splitWhere, List.splitOnP_cons_eq_if_modifyHead, ih]
    split
    next => rfl
    next =>
      cases hs : t.splitOnP p with
      | nil => exact absurd hs (List.splitOnP_ne_nil p t)
      | cons piece pieces => rfl

theorem splitWhere_ne_nil (p : UInt8 → Bool) (t : Text) : splitWhere p t ≠ [] := by
  rw [splitWhere_eq_splitOnP]
  exact List.splitOnP_ne_nil p t

theorem splitWhere_append_cons {p : UInt8 → Bool} {b : UInt8} (hb : p b = true) (s t : Text) :
    splitWhere p (s ++ b :: t) = splitWhere p s ++ splitWhere p t := by
  rw [splitWhere_eq_splitOnP, splitWhere_eq_splitOnP, splitWhere_eq_splitOnP]
  exact List.splitOnP_append_cons s t hb

theorem bne_of_not_mem {c : UInt8} {t : Text} (h : c ∉ t) : ∀ b ∈ t, (b != c) = true := by
  intro b hb
  rw [bne_iff_ne]
  rintro rfl
  exact h hb

theorem takeWhile_bne {c : UInt8} {t : Text} (h : c ∉ t) : t.takeWhile (· != c) = t :=
  List.takeWhile_eq_self_iff.mpr (bne_of_not_mem h)

theorem splitWhere_eq_singleton {p : UInt8 → Bool} {t : Text} (h : ∀ b ∈ t, p b = false) :
    splitWhere p t = [t] := by
  rw [splitWhere_eq_splitOnP]
  exact List.splitOnP_eq_singleton h

theorem lines_eq_splitOn (t : Text) : lines t = List.splitOn (('\n' : Char) : UInt8) t :=
  splitWhere_eq_splitOnP _ t

/-- Lines joined by line feeds are read back as they were. -/
theorem lines_join {ls : List Text} (hlines : ∀ l ∈ ls, (('\n' : Char) : UInt8) ∉ l)
    (hne : ls ≠ []) : lines (join "\n" ls) = ls := by
  rw [lines_eq_splitOn]
  exact List.splitOn_intercalate _ hlines hne

/-- A text is its own lines joined. -/
theorem join_lines (t : Text) : join "\n" (lines t) = t := by
  rw [lines_eq_splitOn]
  exact List.intercalate_splitOn _

theorem join_singleton (sep l : Text) : join sep [l] = l := List.intercalate_singleton

theorem join_cons (sep l : Text) {ls : List Text} (h : ls ≠ []) :
    join sep (l :: ls) = l ++ sep ++ join sep ls := List.intercalate_cons_of_ne_nil h

theorem exists_join_cons (sep l : Text) (ls : List Text) :
    ∃ rest, join sep (l :: ls) = l ++ rest := by
  by_cases hnil : ls = []
  · exact ⟨[], by rw [hnil, join_singleton, List.append_nil]⟩
  · exact ⟨sep ++ join sep ls, by rw [join_cons sep l hnil, List.append_assoc]⟩

theorem join_append (sep : Text) {ls ms : List Text} (hls : ls ≠ []) (hms : ms ≠ []) :
    join sep (ls ++ ms) = join sep ls ++ sep ++ join sep ms := by
  unfold join
  induction ls with
  | nil => exact absurd rfl hls
  | cons l ls ih =>
    by_cases hnil : ls = []
    · rw [hnil, List.singleton_append, List.intercalate_singleton,
        List.intercalate_cons_of_ne_nil hms]
    · have hne : ls ++ ms ≠ [] := List.append_ne_nil_of_left_ne_nil hnil ms
      rw [List.cons_append, List.intercalate_cons_of_ne_nil hne, ih hnil,
        List.intercalate_cons_of_ne_nil hnil]
      simp only [List.append_assoc]

theorem head?_join_cons (x : UInt8) {l : Text} (h : l ≠ []) (ls : List Text) :
    (join [x] (l :: ls)).head? = l.head? := by
  obtain ⟨b, l, rfl⟩ := List.exists_cons_of_ne_nil h
  rw [join, List.intercalate_cons_cons_left]
  rfl

theorem head?_join_ne {x y : UInt8} (hxy : x ≠ y) {l : Text} (hl : l.head? ≠ some y)
    (ls : List Text) : (join [x] (l :: ls)).head? ≠ some y := by
  by_cases hnil : l = []
  · rw [hnil]
    cases ls with
    | nil => simp [join]
    | cons m ls => simpa [join] using hxy
  · rw [head?_join_cons x hnil]
    exact hl

/-- Two bytes do not occur in lines joined by a byte, if they occur in no line and across no
seam. -/
theorem not_infix_join {x y b : UInt8} {ls : List Text} (hline : ∀ l ∈ ls, ¬ [x, y] <:+: l)
    (hbefore : b = y → ∀ l ∈ ls, l.getLast? ≠ some x)
    (hafter : b = x → b ≠ y ∧ ∀ l ∈ ls, l.head? ≠ some y) : ¬ [x, y] <:+: join [b] ls := by
  induction ls with
  | nil => simp [join]
  | cons l ls ih =>
    cases ls with
    | nil =>
      rw [join, List.intercalate_singleton]
      exact hline l (List.mem_cons_self ..)
    | cons m ls =>
      have hlater : ¬ [x, y] <:+: join [b] (m :: ls) :=
        ih (fun k hk => hline k (List.mem_cons_of_mem _ hk))
          (fun hb k hk => hbefore hb k (List.mem_cons_of_mem _ hk))
          fun hb => ⟨(hafter hb).1, fun k hk => (hafter hb).2 k (List.mem_cons_of_mem _ hk)⟩
      rw [join, List.intercalate_cons_cons, List.append_assoc, pair_infix_append,
        List.singleton_append, pair_infix_cons]
      intro hin
      rcases hin with hin | (⟨hb, hin⟩ | hin) | ⟨hlast, hb⟩
      · exact hline l (List.mem_cons_self ..) hin
      · exact head?_join_ne (hafter hb).1 ((hafter hb).2 m (by simp)) ls hin
      · exact hlater hin
      · exact hbefore (Option.some.inj hb) l (List.mem_cons_self ..) hlast

/-- Joining ends every line but the last with the separator. -/
theorem join_concat (sep : Text) (ls : List Text) (last : Text) :
    join sep (ls ++ [last]) = ls.flatMap (· ++ sep) ++ last := by
  induction ls with
  | nil => simp [join]
  | cons l ls ih =>
    have hne : ls ++ [last] ≠ [] := by simp
    rw [List.cons_append, join_cons sep l hne, ih, List.flatMap_cons]
    simp only [List.append_assoc]

theorem of_mem_join {sep : Text} {ls : List Text} {b : UInt8} (h : b ∈ join sep ls) :
    b ∈ sep ∨ ∃ l ∈ ls, b ∈ l := by
  induction ls with
  | nil => exact absurd h List.not_mem_nil
  | cons l ls ih =>
    by_cases hnil : ls = []
    · rw [hnil, join_singleton] at h
      exact Or.inr ⟨l, List.mem_cons_self .., h⟩
    · rw [join_cons sep l hnil, List.append_assoc, List.mem_append, List.mem_append] at h
      rcases h with h | h | h
      · exact Or.inr ⟨l, List.mem_cons_self .., h⟩
      · exact Or.inl h
      · exact (ih h).imp_right fun ⟨m, hm, hb⟩ => ⟨m, List.mem_cons_of_mem _ hm, hb⟩

/-! ## Spaces and tabs -/

theorem eq_space_of_mem_spaces {b : UInt8} {n : Nat} (h : b ∈ spaces n) : b = ' ' :=
  (List.mem_replicate.mp h).2

theorem spaces_append_space (n : Nat) : spaces n ++ " " = spaces (n + 1) :=
  List.replicate_succ'.symm

/-- Only spaces and tabs are in an indentation. -/
theorem not_mem_of_isBlank {w : Text} (hw : ∀ b ∈ w, Byte.isBlank b = true) {b : UInt8}
    (hb : Byte.isBlank b = false) : b ∉ w := by
  intro hmem
  rw [hw b hmem] at hb
  exact nomatch hb

end DocBlock.Text
