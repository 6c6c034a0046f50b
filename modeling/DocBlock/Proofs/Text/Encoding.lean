import Mathlib.Data.List.TakeWhile
import DocBlock.Proofs.Text.Lines
import DocBlock.Proofs.Text.Trim

/-!
# Well-formed texts stay well-formed

A text is well-formed when it is UTF-8. Its operations work on bytes, and each of them cuts a text
only next to an ASCII byte or between whole characters. Such a cut leaves both sides well-formed
(`isWellFormed_seam`), and well-formed texts put together are well-formed (`isWellFormed_append`).
So no operation splits a character:

> `isWellFormed_of_mem_splitWhere`, `isWellFormed_of_mem_splitOn`, `isWellFormed_of_mem_words`: the
> pieces between ASCII separators;
> `isWellFormed_trim`: what is left by trimming;
> `isWellFormed_join`: pieces joined again.
-/

namespace DocBlock.Text

/-- A text of ASCII bytes alone. -/
def IsAscii (t : Text) : Prop := ∀ b ∈ t, b < 0x80

instance (t : Text) : Decidable (IsAscii t) := List.decidableBAll (· < 0x80) t

theorem lt_of_beq {b c : UInt8} (hc : c < 0x80) (h : (b == c) = true) : b < 0x80 := by
  rw [beq_iff_eq.mp h]
  exact hc

theorem lt_of_bne {b c : UInt8} (hc : c < 0x80) (h : (b != c) = false) : b < 0x80 := by
  rw [bne_eq_false_iff_eq.mp h]
  exact hc

/-! ## Putting texts together -/

theorem isWellFormed_cons_of_lt {b : UInt8} (h : b < 0x80) (t : Text) :
    isWellFormed (b :: t) = isWellFormed t := by
  have hpoint : (codePoint [b]).isSome = true := by simp [codePoint, h]
  rw [isWellFormed, characters_cons_of_lt h, List.all_cons, hpoint, Bool.true_and, isWellFormed]

/-- A well-formed text does not start in the middle of a character. -/
theorem isTail_of_isWellFormed {t : Text} (h : isWellFormed t = true) :
    ∀ b ∈ t.head?, isTail b = false := by
  intro b hb
  obtain ⟨t, rfl⟩ := List.head?_eq_some_iff.mp hb
  rw [Bool.eq_false_iff]
  intro htail
  -- No sequence starts with such a byte, so it would be a stray one.
  have hfirst : firstWidth (b :: t) = 1 := by
    have hpair : ∀ c, isPair b c = false := by grind [isPair, isTail]
    have htriple : ∀ c d, isTriple b c d = false := by grind [isTriple, isTail]
    have hquad : ∀ c d e, isQuadruple b c d e = false := by grind [isQuadruple, isTail]
    rcases t with _ | ⟨c, _ | ⟨d, _ | ⟨e, t⟩⟩⟩ <;> simp [firstWidth, hpair, htriple, hquad]
  have hstray : codePoint [b] = none := by
    have hle : ¬ b < 0x80 := by grind [isTail]
    simp [codePoint, hle]
  rw [isWellFormed, characters_eq_cons (List.cons_ne_nil b t), firstCharacter, hfirst] at h
  simp [hstray] at h

theorem isWellFormed_append {s t : Text} (hs : isWellFormed s = true) (ht : isWellFormed t = true) :
    isWellFormed (s ++ t) = true := by
  rw [isWellFormed, characters_append s (isTail_of_isWellFormed ht), List.all_append,
    Bool.and_eq_true]
  exact ⟨hs, ht⟩

theorem isWellFormed_flatten {ts : List Text} (h : ∀ t ∈ ts, isWellFormed t = true) :
    isWellFormed ts.flatten = true := by
  induction ts with
  | nil => rfl
  | cons t ts ih =>
    rw [List.flatten_cons]
    exact isWellFormed_append (h t (List.mem_cons_self ..))
      (ih fun u hu => h u (List.mem_cons_of_mem _ hu))

theorem isWellFormed_headD {ts : List Text} (h : ∀ t ∈ ts, isWellFormed t = true) :
    isWellFormed (ts.headD []) = true := by
  cases ts with
  | nil => rfl
  | cons t ts => exact h t (List.mem_cons_self ..)

theorem IsAscii.isWellFormed {t : Text} (h : IsAscii t) : isWellFormed t = true := by
  induction t with
  | nil => rfl
  | cons b t ih =>
    rw [isWellFormed_cons_of_lt (h b (List.mem_cons_self ..))]
    exact ih fun c hc => h c (List.mem_cons_of_mem _ hc)

theorem isWellFormed_join {sep : Text} (hsep : isWellFormed sep = true) {ts : List Text}
    (h : ∀ t ∈ ts, isWellFormed t = true) : isWellFormed (join sep ts) = true := by
  induction ts with
  | nil => rfl
  | cons t ts ih =>
    have ht : isWellFormed t = true := h t (List.mem_cons_self ..)
    by_cases hnil : ts = []
    · rw [hnil, join_singleton]
      exact ht
    · rw [join_cons _ _ hnil]
      refine isWellFormed_append (isWellFormed_append ht hsep) ?_
      exact ih fun u hu => h u (List.mem_cons_of_mem _ hu)

/-! ## Taking texts apart -/

/-- A text cut next to an ASCII byte is well-formed on both sides. -/
theorem isWellFormed_seam {s t : Text} (h : isWellFormed (s ++ t) = true)
    (hseam : (∀ b ∈ s.getLast?, b < 0x80) ∨ ∀ b ∈ t.head?, b < 0x80) :
    isWellFormed s = true ∧ isWellFormed t = true := by
  rcases hseam with hlast | hhead
  · by_cases hs : s = []
    · rw [hs] at h ⊢
      exact ⟨rfl, h⟩
    · obtain ⟨init, b, rfl⟩ : ∃ init b, s = init ++ [b] :=
        ⟨_, _, (List.dropLast_concat_getLast hs).symm⟩
      have hb : b < 0x80 := hlast b List.getLast?_concat
      have htail : ∀ c ∈ (b :: t).head?, isTail c = false := by
        intro c hc
        cases hc
        exact isTail_eq_false hb
      rw [List.append_assoc, List.singleton_append, isWellFormed, characters_append init htail,
        List.all_append, Bool.and_eq_true] at h
      obtain ⟨hinit, hrest⟩ := h
      refine ⟨isWellFormed_append hinit ?_, ?_⟩
      · rw [isWellFormed_cons_of_lt hb]
        rfl
      · rw [← isWellFormed_cons_of_lt hb]
        exact hrest
  · rw [isWellFormed, characters_append s fun b hb => isTail_eq_false (hhead b hb), List.all_append,
      Bool.and_eq_true] at h
    exact h

theorem isWellFormed_of_ascii_append {s t : Text} (hs : IsAscii s)
    (h : isWellFormed (s ++ t) = true) : isWellFormed t = true :=
  (isWellFormed_seam h (Or.inl fun b hb => hs b (List.mem_of_getLast? hb))).2

section
variable {p : UInt8 → Bool} {t : Text}

/-- What is taken up to an ASCII byte, and what is left from there on. -/
theorem isWellFormed_takeWhile (hp : ∀ b, p b = false → b < 0x80) (h : isWellFormed t = true) :
    isWellFormed (t.takeWhile p) = true ∧ isWellFormed (t.dropWhile p) = true := by
  rw [← List.takeWhile_append_dropWhile (p := p) (l := t)] at h
  refine isWellFormed_seam h (Or.inr fun b hb => hp b ?_)
  have hstop := List.head?_dropWhile_not p t
  rw [hb] at hstop
  simpa using hstop

/-- What is left after ASCII bytes. -/
theorem isWellFormed_dropWhile (hp : ∀ b, p b = true → b < 0x80) (h : isWellFormed t = true) :
    isWellFormed (t.dropWhile p) = true := by
  rw [← List.takeWhile_append_dropWhile (p := p) (l := t)] at h
  exact isWellFormed_of_ascii_append (fun b hb => hp b (List.mem_takeWhile_imp hb)) h

/-- What is left before the bytes at the end, cut next to an ASCII byte on either side. -/
theorem isWellFormed_dropWhileRight
    (hp : (∀ b, p b = true → b < 0x80) ∨ ∀ b, p b = false → b < 0x80)
    (h : isWellFormed t = true) : isWellFormed (dropWhileRight p t) = true := by
  rw [← dropWhileRight_append p t] at h
  refine (isWellFormed_seam h ?_).1
  rcases hp with hp | hp
  · refine Or.inr fun b hb => hp b ?_
    have hmem := List.mem_of_mem_head? hb
    exact List.mem_takeWhile_imp (List.mem_reverse.mp hmem)
  · exact Or.inl fun b hb => hp b (getLast?_dropWhileRight p t b hb)

theorem isWellFormed_trimWhere (hp : ∀ b, p b = true → b < 0x80) (h : isWellFormed t = true) :
    isWellFormed (trimWhere p t) = true :=
  isWellFormed_dropWhileRight (Or.inl hp) (isWellFormed_dropWhile hp h)

/-! ## Pieces between bytes -/

/-- The first piece runs to the first separator, and the others are those of the rest. -/
theorem splitWhere_eq_cons (p : UInt8 → Bool) (t : Text) :
    splitWhere p t = t.takeWhile (fun b => !p b) ::
      match t.dropWhile (fun b => !p b) with
      | [] => []
      | _ :: rest => splitWhere p rest := by
  induction t with
  | nil => rfl
  | cons b t ih =>
    cases hb : p b with
    | true => simp [splitWhere, hb]
    | false =>
      rw [splitWhere, ih]
      simp [hb, consFirst]

/-- Pieces between ASCII separators are well-formed. -/
theorem isWellFormed_of_mem_splitWhere {t : Text} (hp : ∀ b, p b = true → b < 0x80)
    (h : isWellFormed t = true) : ∀ piece ∈ splitWhere p t, isWellFormed piece = true := by
  intro piece hpiece
  obtain ⟨hfirst, hrest⟩ := isWellFormed_takeWhile (p := fun b => !p b)
    (fun b hb => hp b (by simpa using hb)) h
  rw [splitWhere_eq_cons] at hpiece
  rcases List.mem_cons.mp hpiece with rfl | hpiece
  · exact hfirst
  · split at hpiece
    next => nomatch hpiece
    next c rest hdrop =>
      have hc : c < 0x80 := by
        have hstop := List.head?_dropWhile_not (fun b => !p b) t
        rw [hdrop] at hstop
        exact hp c (by simpa using hstop)
      rw [hdrop, isWellFormed_cons_of_lt hc] at hrest
      have hlen : rest.length < t.length := by
        have hle := (List.dropWhile_sublist (p := fun b => !p b) (l := t)).length_le
        rw [hdrop, List.length_cons] at hle
        omega
      exact isWellFormed_of_mem_splitWhere hp hrest piece hpiece
termination_by t.length
decreasing_by omega

theorem isWellFormed_of_mem_lines (h : isWellFormed t = true) :
    ∀ line ∈ lines t, isWellFormed line = true :=
  isWellFormed_of_mem_splitWhere (fun _ => lt_of_beq (by decide)) h

theorem flatten_consFirst (b : UInt8) (pieces : List Text) :
    (consFirst b pieces).flatten = b :: pieces.flatten := by
  cases pieces <;> rfl

/-- The pieces put together are the text without its separators. -/
theorem flatten_splitWhere (p : UInt8 → Bool) (t : Text) :
    (splitWhere p t).flatten = t.filter fun b => !p b := by
  induction t with
  | nil => rfl
  | cons b t ih =>
    rw [splitWhere]
    cases hb : p b with
    | true => simp [hb, ih]
    | false => simp [hb, ih, flatten_consFirst]

/-- ASCII bytes can be left out. -/
theorem isWellFormed_filter (hp : ∀ b, p b = true → b < 0x80) (h : isWellFormed t = true) :
    isWellFormed (t.filter fun b => !p b) = true := by
  rw [← flatten_splitWhere]
  exact isWellFormed_flatten (isWellFormed_of_mem_splitWhere hp h)

theorem isWellFormed_erase {b : UInt8} (hb : b < 0x80) (h : isWellFormed t = true) :
    isWellFormed (t.erase b) = true := by
  by_cases hmem : b ∈ t
  · obtain ⟨before, after, -, ht, herase⟩ := List.exists_erase_eq hmem
    rw [ht] at h
    obtain ⟨hbefore, hafter⟩ := isWellFormed_seam h (Or.inr fun c hc => by cases hc; exact hb)
    rw [isWellFormed_cons_of_lt hb] at hafter
    rw [herase]
    exact isWellFormed_append hbefore hafter
  · rw [List.erase_of_not_mem hmem]
    exact h

end

/-! ## Pieces between texts -/

theorem isWellFormed_of_mem_join {sep : Text} (hne : sep ≠ []) (hsep : IsAscii sep)
    {ts : List Text} (h : isWellFormed (join sep ts) = true) :
    ∀ t ∈ ts, isWellFormed t = true := by
  induction ts with
  | nil => exact fun t ht => nomatch ht
  | cons t ts ih =>
    by_cases hnil : ts = []
    · rw [hnil, join_singleton] at h
      intro u hu
      rw [hnil, List.mem_singleton] at hu
      rw [hu]
      exact h
    · rw [join_cons _ _ hnil, List.append_assoc] at h
      have hhead : ∀ b ∈ (sep ++ join sep ts).head?, b < 0x80 := by
        obtain ⟨c, sep, rfl⟩ := List.exists_cons_of_ne_nil hne
        intro b hb
        cases hb
        exact hsep c (List.mem_cons_self ..)
      obtain ⟨ht, hlater⟩ := isWellFormed_seam h (Or.inr hhead)
      intro u hu
      rcases List.mem_cons.mp hu with rfl | hu
      · exact ht
      · exact ih (isWellFormed_of_ascii_append hsep hlater) u hu

theorem join_splitAfter {sep : Text} (hsep : sep ≠ []) (skip : Nat) (t : Text) :
    join sep (splitAfter sep skip t) = t.drop skip := by
  fun_induction splitAfter sep skip t with
  | case1 skip => simp [join]
  | case2 skip b t ih => exact ih
  | case3 b t hp ih =>
    obtain ⟨rest, hrest⟩ := List.isPrefixOf_iff_prefix.mp hp
    have hdrop : t.drop (sep.length - 1) = rest := by
      have hlen := List.length_pos_iff.mpr hsep
      have h := congrArg (List.drop sep.length) hrest
      rw [List.drop_left, ← Nat.sub_add_cancel hlen, List.drop_succ_cons] at h
      exact h.symm
    rw [join_cons _ _ (splitAfter_ne_nil _ _ _), ih, hdrop]
    exact hrest
  | case4 b t hp ih =>
    rw [join_consFirst sep b (splitAfter_ne_nil _ _ _), ih]
    rfl

/-- A text is its own pieces joined. -/
theorem join_splitOn {sep : Text} (hsep : sep ≠ []) (t : Text) : join sep (splitOn sep t) = t :=
  join_splitAfter hsep 0 t

section
variable (sep : Text) {t : Text} (hne : sep ≠ []) (hsep : IsAscii sep) (h : isWellFormed t = true)
include hne hsep h

theorem isWellFormed_of_mem_splitOn : ∀ piece ∈ splitOn sep t, isWellFormed piece = true := by
  rw [← join_splitOn hne t] at h
  exact isWellFormed_of_mem_join hne hsep h

theorem isWellFormed_of_cut {before after : Text} (hcut : cut sep t = some (before, after)) :
    isWellFormed before = true ∧ isWellFormed after = true := by
  have hjoin : join sep [before, after] = t := by
    rw [eq_append_of_cut hcut]
    simp [join]
  rw [← hjoin] at h
  have hall := isWellFormed_of_mem_join hne hsep h
  exact ⟨hall before (by simp), hall after (by simp)⟩

theorem isWellFormed_before : isWellFormed (before sep t) = true := by
  unfold before
  cases hcut : cut sep t with
  | none => exact h
  | some parts => exact (isWellFormed_of_cut sep hne hsep h hcut).1

theorem isWellFormed_after : isWellFormed (after sep t) = true := by
  unfold after
  cases hcut : cut sep t with
  | none => rfl
  | some parts => exact (isWellFormed_of_cut sep hne hsep h hcut).2

end

theorem isWellFormed_unixNewlines {t : Text} (h : isWellFormed t = true) :
    isWellFormed (unixNewlines t) = true := by
  rw [unixNewlines_eq_join]
  exact isWellFormed_join (by decide)
    (isWellFormed_of_mem_splitOn "\r\n" (by decide) (by decide) h)

/-! ## Whole characters -/

/-- A text that is cut between two of its characters is well-formed on both sides. -/
theorem isWellFormed_first {t : Text} (h : isWellFormed t = true) :
    isWellFormed (firstCharacter t) = true ∧ isWellFormed (afterFirst t) = true := by
  by_cases ht : t = []
  · rw [ht]
    decide
  · have hcons := characters_eq_cons ht
    have hfirst : characters (firstCharacter t) = [firstCharacter t] := by
      have hpre : [firstCharacter t] <+: characters t := ⟨_, hcons.symm⟩
      simpa using characters_flatten_of_prefix hpre
    rw [isWellFormed, hcons, List.all_cons, Bool.and_eq_true] at h
    refine ⟨?_, h.2⟩
    rw [isWellFormed, hfirst, List.all_cons, h.1]
    rfl

/-- The UTF-8 sequences of one code point. -/
inductive IsSequence : Text → Prop
  | single {a : UInt8} (h : a < 0x80) : IsSequence [a]
  | pair {a b : UInt8} (h : isPair a b = true) : IsSequence [a, b]
  | triple {a b c : UInt8} (h : isTriple a b c = true) : IsSequence [a, b, c]
  | quadruple {a b c d : UInt8} (h : isQuadruple a b c d = true) : IsSequence [a, b, c, d]

theorem IsSequence.isWellFormed {c : Text} (h : IsSequence c) : isWellFormed c = true := by
  cases h with
  | single h => simp [Text.isWellFormed, characters, codePoint, h]
  | pair h => simp [Text.isWellFormed, characters, codePoint, h]
  | triple h => simp [Text.isWellFormed, characters, codePoint, h]
  | quadruple h => simp [Text.isWellFormed, characters, codePoint, h]

theorem isSequence_firstCharacter {t : Text} (ht : t ≠ [])
    (h : (codePoint (firstCharacter t)).isSome = true) : IsSequence (firstCharacter t) := by
  have hsingle : ∀ a : UInt8, (codePoint [a]).isSome = true → IsSequence [a] := by
    intro a ha
    by_cases hlt : a < 0x80
    · exact .single hlt
    · simp [codePoint, hlt] at ha
  unfold firstCharacter at h ⊢
  revert h
  fun_cases firstWidth t with
  | case1 a b c d t hquad => exact fun _ => .quadruple hquad
  | case2 a b c d t _ htriple => exact fun _ => .triple htriple
  | case5 a b c htriple => exact fun _ => .triple htriple
  | case3 a b c d t _ _ hpair => exact fun _ => .pair hpair
  | case6 a b c _ hpair => exact fun _ => .pair hpair
  | case8 a b hpair => exact fun _ => .pair hpair
  | case11 => exact absurd rfl ht
  | _ => exact hsingle _

/-- The characters of a text are sequences and stray bytes. -/
theorem isSequence_of_mem_characters {t c : Text} (hc : c ∈ characters t)
    (h : (codePoint c).isSome = true) : IsSequence c := by
  by_cases ht : t = []
  · rw [ht] at hc
    nomatch hc
  · have hpos := firstWidth_pos ht
    have hlen := List.length_pos_iff.mpr ht
    rw [characters_eq_cons ht] at hc
    rcases List.mem_cons.mp hc with rfl | hc
    · exact isSequence_firstCharacter ht h
    · exact isSequence_of_mem_characters hc h
termination_by t.length
decreasing_by
  simp only [afterFirst, List.length_drop]
  omega

theorem repaired_eq_self {t : Text} (h : isWellFormed t = true) : repaired t = t := by
  have hkeep : ∀ c ∈ characters t, repairedCharacter c = c := fun c hc =>
    if_pos (List.all_eq_true.mp h c hc)
  rw [repaired, List.flatMap_def, List.map_congr_left hkeep, List.map_id', flatten_characters]

theorem isWellFormed_trim {t : Text} (h : isWellFormed t = true) :
    isWellFormed (trim t) = true := by
  rw [isWellFormed, characters_trim, List.all_eq_true]
  intro c hc
  rw [List.mem_reverse] at hc
  have hmem := (List.dropWhile_sublist (p := isSpace)).subset hc
  rw [List.mem_reverse] at hmem
  exact List.all_eq_true.mp h c ((List.dropWhile_sublist (p := isSpace)).subset hmem)

theorem isWellFormed_trimRight {t : Text} (h : isWellFormed t = true) :
    isWellFormed (trimRight t) = true := by
  have hpre : ((characters t).reverse.dropWhile isSpace).reverse <+: characters t := by
    rw [← List.reverse_suffix, List.reverse_reverse]
    exact List.dropWhile_suffix _
  rw [isWellFormed, trimRight, characters_flatten_of_prefix hpre, List.all_eq_true]
  intro c hc
  exact List.all_eq_true.mp h c (hpre.subset hc)

/-! ## Words -/

/-- The words of a text are pieces between its spaces: the first piece, and some of the others. -/
theorem words_sublist (t : Text) : ∃ first later pieces, words t = first :: later ∧
    splitWhere (· == ' ') t = first :: pieces ∧ later.Sublist pieces := by
  fun_induction words t with
  | case1 => exact ⟨[], [], [], rfl, rfl, List.Sublist.slnil⟩
  | case2 => exact ⟨[], [[]], [[]], rfl, rfl, List.Sublist.refl _⟩
  | case3 b hb => exact ⟨[b], [], [], rfl, by simp [splitWhere, hb, consFirst], List.Sublist.slnil⟩
  | case4 t ih =>
    -- The empty piece between two spaces is no word.
    obtain ⟨first, later, pieces, hwords, hpieces, hsub⟩ := ih
    have hspace : ∀ u : Text, splitWhere (· == ' ') ((' ' : UInt8) :: u)
        = [] :: splitWhere (· == ' ') u := fun u => rfl
    obtain ⟨rfl, rfl⟩ := List.cons.inj ((hspace t).symm.trans hpieces)
    exact ⟨[], later, _, hwords, by rw [hspace, hspace], hsub.cons _⟩
  | case5 c t hc ih =>
    obtain ⟨first, later, pieces, hwords, hpieces, hsub⟩ := ih
    refine ⟨[], _, _, rfl, rfl, ?_⟩
    rw [hwords, hpieces]
    exact hsub.cons_cons first
  | case6 b c t hb ih =>
    obtain ⟨first, later, pieces, hwords, hpieces, hsub⟩ := ih
    refine ⟨b :: first, later, pieces, by rw [hwords]; rfl, ?_, hsub⟩
    rw [splitWhere, if_neg (by simpa using hb), hpieces]
    rfl

theorem isWellFormed_of_mem_words {t : Text} (h : isWellFormed t = true) :
    ∀ word ∈ words t, isWellFormed word = true := by
  intro word hword
  obtain ⟨first, later, pieces, hwords, hpieces, hsub⟩ := words_sublist t
  refine isWellFormed_of_mem_splitWhere (p := (· == ((' ' : Char) : UInt8)))
    (fun _ => lt_of_beq (by decide)) h word ?_
  rw [hpieces]
  rw [hwords] at hword
  exact (hsub.cons_cons first).subset hword

end DocBlock.Text
