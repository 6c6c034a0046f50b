import DocBlock.Proofs.Text.Characters

/-!
# Trimmed texts

Trimming takes whole characters away at both ends. A character does not depend on what is cut off
behind it (`firstWidth_take`), so what is left is split into the characters that it had
(`characters_trim`), and there is nothing more to trim:

> `trim_trim`: trimming twice is trimming once;
> `isBlank_trim`: unless nothing is left, something is left that is not white space;
> `exists_append_trim`: what is taken away is white space, so that a byte of any other kind is counted
> as often as before (`count_trim`).
-/

namespace DocBlock.Text

/-- The first character does not depend on what is cut off behind it. -/
theorem firstWidth_take {t : Text} {n : Nat} (h : firstWidth t ≤ n) :
    firstWidth (t.take n) = firstWidth t := by
  -- Only the first four bytes count, so only the first four lengths need a look.
  match n with
  | 0 =>
    have ht : t = [] := by
      by_contra hne
      exact absurd (firstWidth_pos hne) (by omega)
    rw [ht]
    rfl
  | 1 => fun_cases firstWidth t <;> simp_all [firstWidth]
  | 2 => fun_cases firstWidth t <;> simp_all [firstWidth]
  | 3 => fun_cases firstWidth t <;> simp_all [firstWidth]
  | n + 4 => fun_cases firstWidth t <;> simp_all [firstWidth]

theorem length_firstCharacter (t : Text) : (firstCharacter t).length = firstWidth t := by
  rw [firstCharacter, List.length_take]
  exact Nat.min_eq_left (firstWidth_le_length t)

theorem firstWidth_of_prefix {s t : Text} (hpre : s <+: t) (h : firstWidth t ≤ s.length) :
    firstWidth s = firstWidth t := by
  rw [List.prefix_iff_eq_take.mp hpre]
  exact firstWidth_take h

/-- Characters at the start of a text are split as they are in the text. -/
theorem characters_flatten_of_prefix {t : Text} {cs : List Text} (h : cs <+: characters t) :
    characters cs.flatten = cs := by
  induction cs generalizing t with
  | nil => rfl
  | cons c cs ih =>
    have ht : t ≠ [] := by
      intro hnil
      rw [hnil] at h
      exact absurd (List.prefix_nil.mp h) (List.cons_ne_nil c cs)
    rw [characters_eq_cons ht, List.cons_prefix_cons] at h
    obtain ⟨rfl, hcs⟩ := h
    have hpre : firstCharacter t ++ cs.flatten <+: t := by
      obtain ⟨post, hpost⟩ := hcs
      refine ⟨post.flatten, ?_⟩
      rw [List.append_assoc, ← List.flatten_append, hpost, flatten_characters,
        firstCharacter_append_afterFirst]
    have hlen := length_firstCharacter t
    have hwidth : firstWidth (firstCharacter t ++ cs.flatten) = firstWidth t := by
      refine firstWidth_of_prefix hpre ?_
      rw [List.length_append]
      omega
    have hne : firstCharacter t ++ cs.flatten ≠ [] := by
      have hpos := firstWidth_pos ht
      rw [← List.length_pos_iff, List.length_append]
      omega
    have hsplit : firstCharacter (firstCharacter t ++ cs.flatten) = firstCharacter t
        ∧ afterFirst (firstCharacter t ++ cs.flatten) = cs.flatten := by
      constructor
      · rw [firstCharacter, hwidth, ← hlen, List.take_left]
      · rw [afterFirst, hwidth, ← hlen, List.drop_left]
    rw [List.flatten_cons, characters_eq_cons hne, hsplit.1, hsplit.2, ih hcs]

/-- Characters at the end of a text are split as they are in the text. -/
theorem characters_flatten_of_suffix {t : Text} {cs : List Text} (h : cs <:+ characters t) :
    characters cs.flatten = cs := by
  by_cases ht : t = []
  · rw [ht] at h
    rw [List.suffix_nil.mp h]
    rfl
  · rw [characters_eq_cons ht, List.suffix_cons_iff] at h
    rcases h with rfl | h
    · rw [← characters_eq_cons ht, flatten_characters]
    · have hpos := firstWidth_pos ht
      have hlen := List.length_pos_iff.mpr ht
      exact characters_flatten_of_suffix h
termination_by t.length
decreasing_by
  simp only [afterFirst, List.length_drop]
  omega

/-- The characters of a trimmed text. -/
theorem characters_trim (t : Text) : characters (trim t) =
    (((characters t).dropWhile isSpace).reverse.dropWhile isSpace).reverse := by
  have hstart : characters ((characters t).dropWhile isSpace).flatten
      = (characters t).dropWhile isSpace :=
    characters_flatten_of_suffix (List.dropWhile_suffix _)
  refine characters_flatten_of_prefix (t := ((characters t).dropWhile isSpace).flatten) ?_
  rw [hstart, ← List.reverse_suffix, List.reverse_reverse]
  exact List.dropWhile_suffix _

theorem head?_dropWhile_any {p : Text → Bool} {cs : List Text} (h : cs.dropWhile p ≠ []) :
    (cs.dropWhile p).head?.any (fun c => !p c) = true := by
  rw [List.head?_eq_some_head h, Option.any_some, List.head_dropWhile_not p h]
  rfl

/-- A trimmed text starts and ends with a character that is not white space, unless there is nothing
left of it. -/
theorem solid_trim {t : Text} (h : trim t ≠ []) :
    startsSolid (trim t) = true ∧ endsSolid (trim t) = true := by
  have hright : ((characters t).dropWhile isSpace).reverse.dropWhile isSpace ≠ [] := by
    intro hnil
    refine h ?_
    rw [trim, hnil]
    rfl
  have hleft : (characters t).dropWhile isSpace ≠ [] := by
    intro hnil
    rw [hnil] at hright
    exact hright rfl
  rw [startsSolid, endsSolid, characters_trim, List.getLast?_reverse]
  refine ⟨?_, head?_dropWhile_any hright⟩
  -- What is taken away at the end leaves the first character, which the start was trimmed to.
  have hpre : (((characters t).dropWhile isSpace).reverse.dropWhile isSpace).reverse
      <+: (characters t).dropWhile isSpace := by
    rw [← List.reverse_suffix, List.reverse_reverse]
    exact List.dropWhile_suffix _
  have hne := List.reverse_ne_nil_iff.mpr hright
  rw [List.head?_eq_some_head hne, Option.any_some, hpre.head hne,
    List.head_dropWhile_not isSpace hleft]
  rfl

/-- Only white space is trimmed away. -/
theorem exists_append_trim (t : Text) : ∃ pre post : List Text,
    t = pre.flatten ++ trim t ++ post.flatten ∧
      ∀ c ∈ pre ++ post, c ∈ characters t ∧ isSpace c = true := by
  have hleft : (characters t).takeWhile isSpace ++ (characters t).dropWhile isSpace = characters t :=
    List.takeWhile_append_dropWhile
  have hright := congrArg List.reverse (List.takeWhile_append_dropWhile (p := isSpace)
    (l := ((characters t).dropWhile isSpace).reverse))
  rw [List.reverse_append, List.reverse_reverse] at hright
  refine ⟨(characters t).takeWhile isSpace,
    (((characters t).dropWhile isSpace).reverse.takeWhile isSpace).reverse, ?_, ?_⟩
  · rw [trim, List.append_assoc, ← List.flatten_append, ← List.flatten_append, hright, hleft,
      flatten_characters]
  · intro c hc
    rcases List.mem_append.mp hc with hc | hc
    · exact ⟨(List.takeWhile_sublist _).subset hc, List.mem_takeWhile_imp hc⟩
    · rw [List.mem_reverse] at hc
      have hmem := List.mem_reverse.mp ((List.takeWhile_sublist _).subset hc)
      exact ⟨(List.dropWhile_sublist _).subset hmem, List.mem_takeWhile_imp hc⟩

theorem trim_infix (t : Text) : trim t <:+: t := by
  obtain ⟨pre, post, ht, -⟩ := exists_append_trim t
  exact ⟨pre.flatten, post.flatten, ht.symm⟩

/-- An ASCII byte is a character of its own. -/
theorem eq_singleton_of_mem_characters {t c : Text} (hc : c ∈ characters t) {b : UInt8}
    (hb : b ∈ c) (hlt : b < 0x80) : c = [b] := by
  by_cases ht : t = []
  · rw [ht] at hc
    exact absurd hc (by simp [characters])
  · rw [characters_eq_cons ht, List.mem_cons] at hc
    rcases hc with rfl | hc
    · rcases firstCharacter_cases ht with ⟨a, rest, -, hfirst, -⟩ | hwide
      · rw [hfirst] at hb ⊢
        rw [List.mem_singleton.mp hb]
      · exact absurd (hwide b hb) (UInt8.not_le.mpr hlt)
    · have hpos := firstWidth_pos ht
      have hlen := List.length_pos_iff.mpr ht
      exact eq_singleton_of_mem_characters hc hb hlt
termination_by t.length
decreasing_by
  simp only [afterFirst, List.length_drop]
  omega

/-- A byte that is no white space is kept wherever it stands. -/
theorem count_trim {b : UInt8} (hlt : b < 0x80) (hb : isSpace [b] = false) (t : Text) :
    (trim t).count b = t.count b := by
  obtain ⟨pre, post, ht, hspace⟩ := exists_append_trim t
  have hnot : ∀ cs : List Text, (∀ c ∈ cs, c ∈ pre ++ post) → cs.flatten.count b = 0 := by
    intro cs hcs
    rw [List.count_eq_zero]
    intro hmem
    obtain ⟨c, hc, hbc⟩ := List.mem_flatten.mp hmem
    obtain ⟨hchar, hwhite⟩ := hspace c (hcs c hc)
    rw [eq_singleton_of_mem_characters hchar hbc hlt, hb] at hwhite
    exact nomatch hwhite
  have hcount := congrArg (List.count b) ht
  rw [List.count_append, List.count_append, hnot pre fun c hc => List.mem_append_left _ hc,
    hnot post fun c hc => List.mem_append_right _ hc] at hcount
  omega

/-- A text that starts with such a byte still does when it is trimmed. -/
theorem head?_trim_cons {b : UInt8} (hlt : b < 0x80) (hb : isSpace [b] = false) (t : Text) :
    (trim (b :: t)).head? = some b := by
  have hdrop : (characters (b :: t)).dropWhile isSpace = [b] :: characters t := by
    rw [characters_cons_of_lt hlt]
    exact List.dropWhile_cons_of_neg (by simp [hb])
  rw [trim, hdrop, List.reverse_cons, List.dropWhile_append]
  split
  next =>
    rw [List.dropWhile_cons_of_neg (by simp [hb])]
    rfl
  next =>
    rw [List.reverse_append]
    rfl

/-- Trimming twice is trimming once. -/
theorem trim_trim (t : Text) : trim (trim t) = trim t := by
  by_cases h : trim t = []
  · rw [h]
    rfl
  · obtain ⟨hstart, hend⟩ := solid_trim h
    exact trim_eq_self hstart hend

/-- Something that is not white space is left of a text by trimming, if anything is. -/
theorem isBlank_trim {t : Text} (h : trim t ≠ []) : isBlank (trim t) = false := by
  have hstart := (solid_trim h).1
  rw [startsSolid, Option.any_eq_true] at hstart
  obtain ⟨c, hc, hsolid⟩ := hstart
  rw [isBlank, List.all_eq_false]
  exact ⟨c, List.mem_of_mem_head? hc, by simpa using hsolid⟩

/-! ## Bytes at the end -/

theorem dropWhileRight_append (p : UInt8 → Bool) (t : Text) :
    dropWhileRight p t ++ (t.reverse.takeWhile p).reverse = t := by
  rw [dropWhileRight, ← List.reverse_append, List.takeWhile_append_dropWhile, List.reverse_reverse]

/-- What is left does not end with a byte that is dropped. -/
theorem getLast?_dropWhileRight (p : UInt8 → Bool) (t : Text) :
    ∀ b ∈ (dropWhileRight p t).getLast?, p b = false := by
  intro b hb
  rw [dropWhileRight, List.getLast?_reverse] at hb
  have hstop := List.head?_dropWhile_not p t.reverse
  rw [hb] at hstop
  simpa using hstop

end DocBlock.Text
