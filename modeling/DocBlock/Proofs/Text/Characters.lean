import Mathlib.Data.List.TakeWhile
import DocBlock.Text.Character

/-!
# Whole characters

`Text.characters` splits a text from the left. This file shows the split one character at a time
(`characters_eq_cons`): the first character is taken whole, and the rest is split as if it stood
alone. From the right the same holds at every byte that does not continue a UTF-8 sequence
(`characters_append`), in particular at line feeds and spaces. So white space can be trimmed on
both sides of a text without looking into it (`trim_append_left`, `trim_append_right`), and a text
with neither is left as it is (`trim_eq_self`).
-/

namespace DocBlock.Text

theorem isTail_of_isPair {a b : UInt8} (h : isPair a b = true) : isTail b = true := by
  simp only [isPair, Bool.and_eq_true] at h
  exact h.2

theorem isTail_of_isTriple {a b c : UInt8} (h : isTriple a b c = true) :
    isTail b = true ∧ isTail c = true := by
  grind [isTriple, isTail]

theorem isTail_of_isQuadruple {a b c d : UInt8} (h : isQuadruple a b c d = true) :
    isTail b = true ∧ isTail c = true ∧ isTail d = true := by
  grind [isQuadruple, isTail]

/-! ## From the left -/

theorem firstWidth_pos {t : Text} (h : t ≠ []) : 0 < firstWidth t := by
  fun_cases firstWidth t with
  | case11 => exact absurd rfl h
  | _ => omega

theorem firstWidth_le_length (t : Text) : firstWidth t ≤ t.length := by
  fun_cases firstWidth t <;> simp

theorem firstCharacter_append_afterFirst (t : Text) : firstCharacter t ++ afterFirst t = t :=
  List.take_append_drop _ _

/-- The first character is taken whole, and what follows it is split on its own. -/
theorem characters_eq_cons {t : Text} (h : t ≠ []) :
    characters t = firstCharacter t :: characters (afterFirst t) := by
  unfold firstCharacter afterFirst
  fun_cases firstWidth t with
  | case11 => exact absurd rfl h
  | _ => simp_all [characters]

theorem flatten_characters (t : Text) : (characters t).flatten = t := by
  by_cases ht : t = []
  · rw [ht]
    rfl
  · have hpos := firstWidth_pos ht
    have hlen := List.length_pos_iff.mpr ht
    rw [characters_eq_cons ht, List.flatten_cons, flatten_characters (afterFirst t),
      firstCharacter_append_afterFirst]
termination_by t.length
decreasing_by
  simp only [afterFirst, List.length_drop]
  omega

/-! ## Characters of several bytes -/

theorem le_of_isPair {a b : UInt8} (h : isPair a b = true) : 0x80 ≤ a ∧ 0x80 ≤ b := by
  grind [isPair, isTail]

theorem le_of_isTriple {a b c : UInt8} (h : isTriple a b c = true) :
    0x80 ≤ a ∧ 0x80 ≤ b ∧ 0x80 ≤ c := by
  grind [isTriple, isTail]

theorem le_of_isQuadruple {a b c d : UInt8} (h : isQuadruple a b c d = true) :
    0x80 ≤ a ∧ 0x80 ≤ b ∧ 0x80 ≤ c ∧ 0x80 ≤ d := by
  grind [isQuadruple, isTail]

/-! Where a code point is computed, the bytes are needed as numbers. -/

theorem toNat_of_isPair {a b : UInt8} (h : isPair a b = true) :
    194 ≤ a.toNat ∧ a.toNat ≤ 223 ∧ 128 ≤ b.toNat ∧ b.toNat ≤ 191 := by
  simp only [isPair, isTail, Bool.and_eq_true, decide_eq_true_eq, UInt8.le_iff_toNat_le,
    UInt8.reduceToNat] at h
  omega

theorem toNat_of_isTriple {a b c : UInt8} (h : isTriple a b c = true) :
    224 ≤ a.toNat ∧ a.toNat ≤ 239 ∧ 128 ≤ b.toNat ∧ b.toNat ≤ 191 ∧
      128 ≤ c.toNat ∧ c.toNat ≤ 191 ∧ (a.toNat = 224 → 160 ≤ b.toNat) := by
  simp only [isTriple, isTail, Bool.and_eq_true, Bool.or_eq_true, decide_eq_true_eq,
    UInt8.le_iff_toNat_le, beq_iff_eq, bne_iff_ne, ne_eq, ← UInt8.toNat_inj, UInt8.reduceToNat] at h
  omega

theorem toNat_of_isQuadruple {a b c d : UInt8} (h : isQuadruple a b c d = true) :
    240 ≤ a.toNat ∧ a.toNat ≤ 244 ∧ 128 ≤ b.toNat ∧ b.toNat ≤ 191 ∧ 128 ≤ c.toNat ∧
      c.toNat ≤ 191 ∧ 128 ≤ d.toNat ∧ d.toNat ≤ 191 ∧ (a.toNat = 240 → 144 ≤ b.toNat) := by
  simp only [isQuadruple, isTail, Bool.and_eq_true, Bool.or_eq_true, decide_eq_true_eq,
    UInt8.le_iff_toNat_le, beq_iff_eq, ← UInt8.toNat_inj, UInt8.reduceToNat] at h
  omega

/-- The first character is a single byte, or no byte of it is ASCII. -/
theorem firstCharacter_cases {t : Text} (h : t ≠ []) :
    (∃ b rest, t = b :: rest ∧ firstCharacter t = [b] ∧ afterFirst t = rest) ∨
      ∀ b ∈ firstCharacter t, 0x80 ≤ b := by
  unfold firstCharacter afterFirst
  fun_cases firstWidth t with
  | case1 a b c d t hquad => right; simpa using le_of_isQuadruple hquad
  | case2 a b c d t _ htriple => right; simpa using le_of_isTriple htriple
  | case5 a b c htriple => right; simpa using le_of_isTriple htriple
  | case3 a b c d t _ _ hpair => right; simpa using le_of_isPair hpair
  | case6 a b c _ hpair => right; simpa using le_of_isPair hpair
  | case8 a b hpair => right; simpa using le_of_isPair hpair
  | case11 => exact absurd rfl h
  | _ => exact Or.inl ⟨_, _, rfl, rfl, rfl⟩

/-! ## From the right -/

/-- A byte that does not continue a sequence has no influence on the first character of what stands
before it. -/
theorem firstWidth_append {s rest : Text} (hs : s ≠ [])
    (hrest : ∀ b ∈ rest.head?, isTail b = false) : firstWidth (s ++ rest) = firstWidth s := by
  cases rest with
  | nil => rw [List.append_nil]
  | cons r rest =>
    have hr : isTail r = false := hrest r rfl
    have hpair : ∀ a, isPair a r = false := fun a =>
      Bool.eq_false_iff.mpr fun h => by simp [isTail_of_isPair h] at hr
    have htriple : ∀ a b, isTriple a r b = false ∧ isTriple a b r = false := fun a b =>
      ⟨Bool.eq_false_iff.mpr fun h => by simp [isTail_of_isTriple h] at hr,
        Bool.eq_false_iff.mpr fun h => by simp [isTail_of_isTriple h] at hr⟩
    have hquad : ∀ a b c, isQuadruple a r b c = false ∧ isQuadruple a b r c = false
        ∧ isQuadruple a b c r = false := fun a b c =>
      ⟨Bool.eq_false_iff.mpr fun h => by simp [isTail_of_isQuadruple h] at hr,
        Bool.eq_false_iff.mpr fun h => by simp [isTail_of_isQuadruple h] at hr,
        Bool.eq_false_iff.mpr fun h => by simp [isTail_of_isQuadruple h] at hr⟩
    -- Only the first four bytes count, and a sequence that reached `r` would continue with it.
    match s with
    | [] => exact absurd rfl hs
    | [a] => rcases rest with _ | ⟨x, _ | ⟨y, rest⟩⟩ <;> simp [firstWidth, hpair, htriple, hquad]
    | [a, b] => cases rest <;> simp [firstWidth, htriple, hquad]
    | [a, b, c] => simp [firstWidth, hquad]
    | a :: b :: c :: d :: s => simp [firstWidth]

/-- Such a byte leaves the first character as it is, and stands in what follows it. -/
theorem first_append {s rest : Text} (hs : s ≠ [])
    (hrest : ∀ b ∈ rest.head?, isTail b = false) :
    firstCharacter (s ++ rest) = firstCharacter s ∧ afterFirst (s ++ rest) = afterFirst s ++ rest := by
  have hle := firstWidth_le_length s
  simp only [firstCharacter, afterFirst, firstWidth_append hs hrest]
  exact ⟨List.take_append_of_le_length hle, List.drop_append_of_le_length hle⟩

/-- A text can be split apart before any byte that does not continue a sequence. -/
theorem characters_append (s : Text) {rest : Text} (hrest : ∀ b ∈ rest.head?, isTail b = false) :
    characters (s ++ rest) = characters s ++ characters rest := by
  by_cases hs : s = []
  · rw [hs]
    rfl
  · have hpos := firstWidth_pos hs
    have hlen := List.length_pos_iff.mpr hs
    obtain ⟨hfirst, hafter⟩ := first_append hs hrest
    rw [characters_eq_cons hs, characters_eq_cons (List.append_ne_nil_of_left_ne_nil hs rest),
      hfirst, hafter, characters_append (afterFirst s) hrest, List.cons_append]
termination_by s.length
decreasing_by
  simp only [afterFirst, List.length_drop]
  omega

/-! ## White space at the ends -/

theorem lt_of_isSpace {b : UInt8} (h : isSpace [b] = true) : b < 0x80 := by
  by_cases hb : b < 0x80
  · exact hb
  · simp [isSpace, codePoint, hb] at h

theorem isTail_eq_false {b : UInt8} (h : b < 0x80) : isTail b = false := by
  grind [isTail]

theorem characters_cons_of_lt {b : UInt8} (h : b < 0x80) (t : Text) :
    characters (b :: t) = [b] :: characters t := by
  have hfirst : firstWidth (b :: t) = 1 := by
    have hpair : ∀ c, isPair b c = false := by grind [isPair]
    have htriple : ∀ c d, isTriple b c d = false := by grind [isTriple]
    have hquad : ∀ c d e, isQuadruple b c d e = false := by grind [isQuadruple]
    rcases t with _ | ⟨c, _ | ⟨d, _ | ⟨e, t⟩⟩⟩ <;> simp [firstWidth, hpair, htriple, hquad]
  rw [characters_eq_cons (List.cons_ne_nil b t), firstCharacter, afterFirst, hfirst]
  rfl

theorem isSpace_of_mem_characters {t : Text} (h : ∀ b ∈ t, isSpace [b] = true) :
    ∀ c ∈ characters t, isSpace c = true := by
  induction t with
  | nil => exact fun c hc => absurd hc (by simp [characters])
  | cons b t ih =>
    have hb : isSpace [b] = true := h b (List.mem_cons_self ..)
    intro c hc
    rw [characters_cons_of_lt (lt_of_isSpace hb)] at hc
    rcases List.mem_cons.mp hc with rfl | hc
    · exact hb
    · exact ih (fun d hd => h d (List.mem_cons_of_mem _ hd)) c hc

theorem isSpace_of_isBlank {b : UInt8} (h : Byte.isBlank b = true) : isSpace [b] = true := by
  rcases (Bool.or_eq_true_iff ..).mp h with h | h
  · rw [beq_iff_eq.mp h]
    decide
  · rw [beq_iff_eq.mp h]
    decide

/-- Spaces and tabs in front of a text do not change whether it is blank. -/
theorem isBlank_append {w : Text} (hw : ∀ b ∈ w, Byte.isBlank b = true) (t : Text) :
    isBlank (w ++ t) = isBlank t := by
  induction w with
  | nil => rfl
  | cons b w ih =>
    have hspace := isSpace_of_isBlank (hw b (List.mem_cons_self ..))
    rw [List.cons_append, isBlank, characters_cons_of_lt (lt_of_isSpace hspace), List.all_cons,
      hspace, Bool.true_and]
    exact ih fun c hc => hw c (List.mem_cons_of_mem b hc)

/-- White space in front of a text is trimmed away. -/
theorem trim_append_left {pre : Text} (hpre : ∀ b ∈ pre, isSpace [b] = true) (t : Text) :
    trim (pre ++ t) = trim t := by
  induction pre with
  | nil => rfl
  | cons b pre ih =>
    have hb : isSpace [b] = true := hpre b (List.mem_cons_self ..)
    have hrest : trim (pre ++ t) = trim t := ih fun c hc => hpre c (List.mem_cons_of_mem _ hc)
    rw [← hrest, List.cons_append, trim, characters_cons_of_lt (lt_of_isSpace hb),
      List.dropWhile_cons_of_pos hb]
    rfl

/-- White space after a text is trimmed away. -/
theorem trim_append_right (t : Text) {post : Text} (hpost : ∀ b ∈ post, isSpace [b] = true) :
    trim (t ++ post) = trim t := by
  have hchars := isSpace_of_mem_characters hpost
  have hhead : ∀ b ∈ post.head?, isTail b = false := fun b hb =>
    isTail_eq_false (lt_of_isSpace (hpost b (List.mem_of_mem_head? hb)))
  rw [trim, characters_append t hhead, List.dropWhile_append]
  split
  next hnil =>
    rw [List.dropWhile_eq_nil_iff.mpr hchars, trim, List.isEmpty_iff.mp hnil]
  next hne =>
    rw [List.reverse_append,
      List.dropWhile_append_of_pos fun c hc => hchars c (List.mem_reverse.mp hc)]
    rfl

/-! ## Texts without white space at the ends -/

/-- Whether a text starts with a character that is not white space. -/
def startsSolid (t : Text) : Bool := (characters t).head?.any fun c => !isSpace c

/-- Whether a text ends with a character that is not white space. -/
def endsSolid (t : Text) : Bool := (characters t).getLast?.any fun c => !isSpace c

theorem dropWhile_eq_self {p : Text → Bool} {cs : List Text}
    (h : cs.head?.any (fun c => !p c) = true) : cs.dropWhile p = cs := by
  cases cs with
  | nil => rfl
  | cons c cs => exact List.dropWhile_cons_of_neg (by simpa using h)

/-- A text that neither starts nor ends with white space is left as it is. -/
theorem trim_eq_self {t : Text} (hstart : startsSolid t = true) (hend : endsSolid t = true) :
    trim t = t := by
  rw [endsSolid, ← List.head?_reverse] at hend
  rw [trim, dropWhile_eq_self hstart, dropWhile_eq_self hend, List.reverse_reverse,
    flatten_characters]

theorem startsSolid_append {s rest : Text} (h : startsSolid s = true)
    (hrest : ∀ b ∈ rest.head?, isTail b = false) : startsSolid (s ++ rest) = true := by
  rw [startsSolid, characters_append s hrest]
  cases hs : characters s with
  | nil => simp [startsSolid, hs] at h
  | cons c cs => simpa [startsSolid, hs] using h

theorem endsSolid_append {b : UInt8} (hb : b < 0x80) (pre : Text) {t : Text}
    (h : endsSolid t = true) : endsSolid (pre ++ b :: t) = true := by
  have hhead : ∀ c ∈ (b :: t).head?, isTail c = false := by
    intro c hc
    cases hc
    exact isTail_eq_false hb
  rw [endsSolid, characters_append pre hhead, characters_cons_of_lt hb]
  cases ht : (characters t).getLast? with
  | none => simp [endsSolid, ht] at h
  | some c =>
    rw [List.getLast?_append, List.getLast?_cons, ht]
    simpa [endsSolid, ht] using h

end DocBlock.Text
