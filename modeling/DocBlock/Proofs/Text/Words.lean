import DocBlock.Proofs.Text.Encoding

/-!
# Words

`Text.words` cuts a text at every run of spaces, however long. `Text.Spaced` is the relation the
other way round: a text is written from words with at least one space between neighbours, so that
there are many texts for the same words. All of them are cut back into these words:

> `join_words`: a text put together from its words has one space for every run of spaces;
> `Spaced.words_eq`: the words of a spaced text are the words it was written from;
> `Spaced.infix_iff`: what holds no space occurs in the text exactly if it occurs in a word.
-/

namespace DocBlock.Text

/-- Something that spaces and line feeds do not cut. -/
structure IsWord (w : Text) : Prop where
  ne_nil : w ≠ []
  space : ((' ' : Char) : UInt8) ∉ w
  line_feed : (('\n' : Char) : UInt8) ∉ w

instance (w : Text) : Decidable (IsWord w) :=
  decidable_of_iff (w ≠ [] ∧ ((' ' : Char) : UInt8) ∉ w ∧ (('\n' : Char) : UInt8) ∉ w)
    ⟨fun ⟨hne, hspace, hfeed⟩ => ⟨hne, hspace, hfeed⟩,
      fun ⟨hne, hspace, hfeed⟩ => ⟨hne, hspace, hfeed⟩⟩

/-- A text is written from words, with one space or more between two of them. -/
inductive Spaced : List Text → Text → Prop
  | last {w : Text} (hw : IsWord w) : Spaced [w] w
  | before {w : Text} (hw : IsWord w) (n : Nat) {ws : List Text} {t : Text} (h : Spaced ws t) :
    Spaced (w :: ws) (w ++ spaces (n + 1) ++ t)

/-- The first word of a text ends at its first space. -/
theorem words_eq_cons (t : Text) :
    ∃ later, words t = t.takeWhile (· != ((' ' : Char) : UInt8)) :: later := by
  obtain ⟨first, later, pieces, hwords, hpieces, -⟩ := words_sublist t
  rw [splitWhere_eq_cons] at hpieces
  refine ⟨later, ?_⟩
  rw [hwords, ← (List.cons.inj hpieces).1]
  rfl

theorem words_ne_nil (t : Text) : words t ≠ [] := by
  obtain ⟨later, hlater⟩ := words_eq_cons t
  rw [hlater]
  exact List.cons_ne_nil _ _

theorem words_cons {b : UInt8} (hb : b ≠ ' ') (t : Text) :
    words (b :: t) = consFirst b (words t) := by
  cases t with
  | nil => simp [words, hb, consFirst]
  | cons c t => rw [words, if_neg hb]

/-- What holds no space goes to the first word of what follows. -/
theorem words_append {w : Text} (hw : ((' ' : Char) : UInt8) ∉ w) {t first : Text}
    {later : List Text} (h : words t = first :: later) : words (w ++ t) = (w ++ first) :: later := by
  induction w with
  | nil => exact h
  | cons b w ih =>
    obtain ⟨hb, hrest⟩ := List.ne_and_not_mem_of_not_mem_cons hw
    rw [List.cons_append, words_cons (Ne.symm hb), ih hrest]
    rfl

/-- Spaces before a word end the word before them, however many they are. -/
theorem words_spaces_append (n : Nat) {t : Text} (hne : t ≠ [])
    (hhead : t.head? ≠ some ((' ' : Char) : UInt8)) :
    words (spaces (n + 1) ++ t) = [] :: words t := by
  obtain ⟨b, t, rfl⟩ := List.exists_cons_of_ne_nil hne
  have hb : b ≠ ((' ' : Char) : UInt8) := fun h => hhead (congrArg some h)
  induction n with
  | zero =>
    show words (((' ' : Char) : UInt8) :: b :: t) = _
    rw [words, if_pos rfl, if_neg hb]
  | succ n ih =>
    show words (((' ' : Char) : UInt8) :: ((' ' : Char) : UInt8) :: (spaces n ++ b :: t)) = _
    rw [words, if_pos rfl, if_pos rfl]
    exact ih

/-- Spaces cut a text where it has no others. -/
theorem words_append_spaces {s t : Text} (hend : s.getLast? ≠ some ((' ' : Char) : UInt8)) (n : Nat)
    (hne : t ≠ []) (hhead : t.head? ≠ some ((' ' : Char) : UInt8)) :
    words (s ++ (spaces (n + 1) ++ t)) = words s ++ words t := by
  have hspaces := words_spaces_append n hne hhead
  fun_induction words s with
  | case1 => exact hspaces
  | case2 => exact absurd rfl hend
  | case3 b hb =>
    rw [List.singleton_append, words_cons hb, hspaces]
    rfl
  | case4 u ih =>
    rw [← ih (by simpa using hend), List.cons_append, List.cons_append, words, if_pos rfl, if_pos rfl]
  | case5 c u hc ih =>
    rw [List.cons_append, List.cons_append, words, if_pos rfl, if_neg hc, List.cons_append,
      ← ih (by simpa using hend), List.cons_append]
  | case6 b c u hb ih =>
    obtain ⟨w, ws, hwords⟩ := List.exists_cons_of_ne_nil (words_ne_nil (c :: u))
    rw [List.cons_append, words_cons hb, ih (by simpa using hend), hwords]
    rfl

/-- The text with one space for every run of spaces. -/
def singleSpaced : Text → Text
  | [] => []
  | [b] => [b]
  | b :: c :: t =>
    if b = ' ' ∧ c = ' ' then singleSpaced (c :: t) else b :: singleSpaced (c :: t)

/-- Words put together again are the text with one space for every run of spaces. -/
theorem join_words (t : Text) : join " " (words t) = singleSpaced t := by
  fun_induction words t with
  | case1 => rfl
  | case2 => rfl
  | case3 b hb => exact join_singleton " " [b]
  | case4 t ih =>
    rw [singleSpaced, if_pos ⟨rfl, rfl⟩]
    exact ih
  | case5 c t hc ih =>
    rw [singleSpaced, if_neg (fun h => hc h.2), ← ih, join_cons _ _ (words_ne_nil _)]
    rfl
  | case6 b c t hb ih =>
    rw [singleSpaced, if_neg (fun h => hb h.1), ← ih]
    exact join_consFirst " " b (words_ne_nil _)

/-- A text is one word, be it empty, exactly if it holds no space. -/
theorem tail_words_eq_nil_iff (t : Text) : (words t).tail = [] ↔ ((' ' : Char) : UInt8) ∉ t := by
  fun_induction words t with
  | case1 => simp
  | case2 => simp
  | case3 b hb => simpa using Ne.symm hb
  | case4 t ih =>
    rw [ih]
    simp
  | case5 c t hc ih =>
    rw [List.tail_cons]
    exact iff_of_false (words_ne_nil _) fun h => h (List.mem_cons_self ..)
  | case6 b c t hb ih =>
    have htail (pieces : List Text) : (consFirst b pieces).tail = pieces.tail := by
      cases pieces <;> rfl
    rw [htail, ih, List.mem_cons, List.mem_cons, not_or, List.mem_cons, not_or, not_or]
    exact (and_iff_right (Ne.symm hb)).symm

namespace Spaced

variable {ws : List Text} {t : Text}

theorem isWord (h : Spaced ws t) : ∀ w ∈ ws, IsWord w := by
  induction h with
  | last hw =>
    intro w hmem
    rw [List.mem_singleton.mp hmem]
    exact hw
  | before hw n h ih =>
    intro w hmem
    rcases List.mem_cons.mp hmem with rfl | hmem
    · exact hw
    · exact ih w hmem

/-- A spaced text starts with its first word. -/
theorem start (h : Spaced ws t) : t ≠ [] ∧ t.head? ≠ some ((' ' : Char) : UInt8) := by
  obtain ⟨w, rest, hw, rfl⟩ : ∃ w rest, IsWord w ∧ t = w ++ rest := by
    cases h with
    | last hw => exact ⟨t, [], hw, (List.append_nil t).symm⟩
    | before hw n h => exact ⟨_, _, hw, List.append_assoc ..⟩
  obtain ⟨b, w, rfl⟩ := List.exists_cons_of_ne_nil hw.ne_nil
  refine ⟨List.cons_ne_nil _ _, fun hhead => hw.space ?_⟩
  rw [← Option.some.inj hhead]
  exact List.mem_cons_self ..

/-- The words that a text was written from are read back, whatever the spacing. -/
theorem words_eq (h : Spaced ws t) : words t = ws := by
  induction h with
  | @last w hw =>
    have hend := words_append (t := []) hw.space rfl
    rw [List.append_nil] at hend
    exact hend
  | @before w hw n ws t h ih =>
    obtain ⟨hne, hhead⟩ := h.start
    rw [List.append_assoc, words_append hw.space (words_spaces_append n hne hhead), ih,
      List.append_nil]

theorem line_feed (h : Spaced ws t) : (('\n' : Char) : UInt8) ∉ t := by
  induction h with
  | last hw => exact hw.line_feed
  | before hw n h ih =>
    intro hmem
    rcases List.mem_append.mp hmem with hmem | hmem
    · rcases List.mem_append.mp hmem with hmem | hmem
      · exact hw.line_feed hmem
      · exact absurd (List.mem_replicate.mp hmem).2 (by decide)
    · exact ih hmem

/-- What holds no space occurs in a spaced text exactly if it occurs in one of its words. -/
theorem infix_iff {sep : Text} (hne : sep ≠ []) (hsep : ((' ' : Char) : UInt8) ∉ sep)
    (h : Spaced ws t) : sep <:+: t ↔ ∃ w ∈ ws, sep <:+: w := by
  have hspaces (n : Nat) (t : Text) : sep <:+: spaces n ++ t ↔ sep <:+: t := by
    induction n with
    | zero => exact Iff.rfl
    | succ n ih =>
      have hspace := infix_append_cons_iff hsep [] (spaces n ++ t)
      rw [List.infix_nil, or_iff_right hne] at hspace
      exact hspace.trans ih
  induction h with
  | last hw => simp
  | @before w hw n ws t h ih =>
    have hlater : sep <:+: t ↔ ∃ w ∈ ws, sep <:+: w := ih
    have hsplit := infix_append_cons_iff hsep w (spaces n ++ t)
    rw [hspaces, hlater] at hsplit
    simp only [List.append_assoc, List.mem_cons, exists_eq_or_imp]
    exact hsplit

end Spaced

end DocBlock.Text
