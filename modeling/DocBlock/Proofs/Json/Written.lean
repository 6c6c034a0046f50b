import DocBlock.Proofs.Json.Reader
import DocBlock.Proofs.Text.Encoding

/-!
# Written strings and numbers

A character of a string is written in one of three ways, and `Written` lists them: as it is, as a
letter or a mark after a backslash, or as its number. A stray byte is written as the number of the
replacement character, which it is read back as. Whatever is escaped, `Written` is all that the reader
has to know:

> `Written.parts`: each way is read back as the character, whatever follows it;
> `Written.squeezeFrom`: nothing in it is white space outside a string;
> `parts?_characters`: so a string is read up to its closing quotation mark;
> `integer?_ofInt`: a number is read back from its digits.
-/

namespace DocBlock.Json

open Text (isWellFormed IsSequence codePoint ofCodePoint)

/-- What is checked of all numbers below 256 holds of all bytes. -/
theorem forall_byte {p : UInt8 → Prop} (h : ∀ n < 256, p n.toUInt8) (b : UInt8) : p b := by
  have hb := h b.toNat b.toNat_lt
  rwa [show b.toNat.toUInt8 = b from UInt8.ofNat_toNat] at hb

/-! ## Characters of a string -/

/-- A byte that can stand in a string as it is. -/
structure IsPlain (b : UInt8) : Prop where
  quote : b ≠ Byte.quote
  backslash : b ≠ Byte.backslash
  control : ¬ b < 0x20

theorem isPlain_of_toNat {b : UInt8} (hquote : b.toNat ≠ 0x22) (hbackslash : b.toNat ≠ 0x5C)
    (hcontrol : 0x20 ≤ b.toNat) : IsPlain b := by
  refine ⟨?_, ?_, ?_⟩
  · rintro rfl
    exact hquote rfl
  · rintro rfl
    exact hbackslash rfl
  · intro hlt
    have hlt : b.toNat < 0x20 := UInt8.lt_iff_toNat_lt.mp hlt
    omega

/-- How a character is written in a string: as it is, with a backslash before a letter or a mark, or
by its number, if this is no surrogate and has four digits. -/
inductive Written : Text → Text → Prop
  | plain {c : Text} (hc : IsSequence c) (h : ∀ b ∈ c, IsPlain b) : Written c c
  | short {e b : UInt8} (h : unescaped? e = some b) : Written [b] (shortEscape e)
  | unicode {n : Nat} (h : n < 0xD800 ∨ 0xE000 ≤ n ∧ n < 0x10000) :
      Written (ofCodePoint n) (unicodeEscape n)

theorem ofCodePoint_of_lt : ∀ n < 0x80, ofCodePoint n = [n.toUInt8] := by
  decide +kernel

/-- A character is one ASCII byte, or it has none. -/
theorem ascii_cases {c : Text} {n : Nat} (hc : IsSequence c) (hn : codePoint c = some n) :
    (n < 0x80 ∧ c = [n.toUInt8]) ∨ (0x80 ≤ n ∧ ∀ b ∈ c, 0x80 ≤ b) := by
  cases hc with
  | @single a ha =>
    rw [codePoint, if_pos ha] at hn
    obtain rfl := Option.some.inj hn
    exact Or.inl ⟨UInt8.lt_iff_toNat_lt.mp ha, by simp⟩
  | pair h =>
    obtain rfl := Option.some.inj hn
    have hbytes := Text.toNat_of_isPair h
    exact Or.inr ⟨by omega, by simpa using Text.le_of_isPair h⟩
  | triple h =>
    obtain rfl := Option.some.inj hn
    have hbytes := Text.toNat_of_isTriple h
    exact Or.inr ⟨by omega, by simpa using Text.le_of_isTriple h⟩
  | quadruple h =>
    obtain rfl := Option.some.inj hn
    have hbytes := Text.toNat_of_isQuadruple h
    exact Or.inr ⟨by omega, by simpa using Text.le_of_isQuadruple h⟩

/-- The two separators that are escaped are three bytes long. -/
theorem eq_of_separator {c : Text} {n : Nat} (hc : IsSequence c) (hn : codePoint c = some n)
    (h : n = 0x2028 ∨ n = 0x2029) : c = ofCodePoint n := by
  cases hc with
  | @single a ha =>
    rw [codePoint, if_pos ha] at hn
    have hlt : a.toNat < 128 := UInt8.lt_iff_toNat_lt.mp ha
    have heq := Option.some.inj hn
    omega
  | pair hpair =>
    have heq := Option.some.inj hn
    have hbytes := Text.toNat_of_isPair hpair
    omega
  | @triple x y z htriple =>
    -- The other widths have other code points, and here the code point gives the three bytes.
    have heq := Option.some.inj hn
    have hbytes := Text.toNat_of_isTriple htriple
    have hx : x = 0xE2 := UInt8.toNat_inj.mp (show x.toNat = 0xE2 by omega)
    have hy : y = 0x80 := UInt8.toNat_inj.mp (show y.toNat = 0x80 by omega)
    rcases h with rfl | rfl
    · have hz : z = 0xA8 := UInt8.toNat_inj.mp (show z.toNat = 0xA8 by omega)
      rw [hx, hy, hz]
      decide +kernel
    · have hz : z = 0xA9 := UInt8.toNat_inj.mp (show z.toNat = 0xA9 by omega)
      rw [hx, hy, hz]
      decide +kernel
  | quadruple hquad =>
    have heq := Option.some.inj hn
    have hbytes := Text.toNat_of_isQuadruple hquad
    omega

theorem exists_codePoint {c : Text} (hc : IsSequence c) : ∃ n, codePoint c = some n := by
  cases hc with
  | single h => exact ⟨_, if_pos h⟩
  | pair h => exact ⟨_, rfl⟩
  | triple h => exact ⟨_, rfl⟩
  | quadruple h => exact ⟨_, rfl⟩

theorem written_writtenCharacter (escaping : Escaping) {c : Text} (hc : IsSequence c) :
    Written c (writtenCharacter escaping c) := by
  obtain ⟨n, hn⟩ := exists_codePoint hc
  have hshort : ∀ m, n = m → ∀ e, unescaped? e = some m.toUInt8 → m < 0x80 →
      Written c (shortEscape e) := by
    intro m hnm e he hm
    rcases ascii_cases hc hn with ⟨-, rfl⟩ | ⟨hle, -⟩
    · rw [hnm]
      exact .short he
    · omega
  have hunicode : n < 0x80 ∨ n = 0x2028 ∨ n = 0x2029 → Written c (unicodeEscape n) := by
    intro hrange
    have hlt : n < 0xD800 := by omega
    have heq : c = ofCodePoint n := by
      rcases hrange with hascii | hseparator
      · rcases ascii_cases hc hn with ⟨-, rfl⟩ | ⟨hle, -⟩
        · exact (ofCodePoint_of_lt n hascii).symm
        · omega
      · exact eq_of_separator hc hn hseparator
    rw [heq]
    exact .unicode (.inl hlt)
  unfold writtenCharacter
  rw [hn]
  dsimp only
  -- One step for each condition of the writer, in its order.
  refine iteInduction (fun h => hshort 0x22 h _ (by decide) (by decide)) fun hquote => ?_
  refine iteInduction (fun h => hshort 0x5C h _ (by decide) (by decide)) fun hbackslash => ?_
  refine iteInduction (fun h => hshort 0x08 h _ (by decide) (by decide)) fun _ => ?_
  refine iteInduction (fun h => hshort 0x0C h _ (by decide) (by decide)) fun _ => ?_
  refine iteInduction (fun h => hshort 0x0A h _ (by decide) (by decide)) fun _ => ?_
  refine iteInduction (fun h => hshort 0x0D h _ (by decide) (by decide)) fun _ => ?_
  refine iteInduction (fun h => hshort 0x09 h _ (by decide) (by decide)) fun _ => ?_
  refine iteInduction (fun h => hunicode (by omega)) fun hcontrol => ?_
  refine iteInduction (fun h => hunicode (Or.inr (by simpa using h))) fun _ => ?_
  refine iteInduction (fun hmarkup => hunicode (Or.inl ?_)) fun _ => .plain hc fun b hb => ?_
  · simp only [Bool.and_eq_true, Bool.or_eq_true, decide_eq_true_eq] at hmarkup
    omega
  · rcases ascii_cases hc hn with ⟨hascii, rfl⟩ | ⟨-, hle⟩
    · obtain rfl := List.mem_singleton.mp hb
      have hbyte : n.toUInt8.toNat = n := Nat.mod_eq_of_lt (by omega)
      exact isPlain_of_toNat (by omega) (by omega) (by omega)
    · have hge : 0x80 ≤ b.toNat := UInt8.le_iff_toNat_le.mp (hle b hb)
      exact isPlain_of_toNat (by omega) (by omega) (by omega)

/-- A character of a text is written as a character that it is read back as: a stray byte as the
replacement character. -/
theorem written_repairedCharacter (escaping : Escaping) {t c : Text} (hc : c ∈ Text.characters t) :
    Written (Text.repairedCharacter c) (writtenCharacter escaping c) := by
  unfold Text.repairedCharacter
  by_cases hpoint : (codePoint c).isSome = true
  · rw [if_pos hpoint]
    exact written_writtenCharacter escaping (Text.isSequence_of_mem_characters hc hpoint)
  · have hreplacement : ofCodePoint 0xFFFD = [0xEF, 0xBF, 0xBD] := by decide +kernel
    rw [if_neg hpoint, writtenCharacter, Option.not_isSome_iff_eq_none.mp hpoint, ← hreplacement]
    exact .unicode (.inr (by decide))

theorem hexDigit_spec : ∀ d < 16,
    Byte.isHexDigit (Byte.hexDigit d) = true ∧ Byte.hexValue (Byte.hexDigit d) = d := by
  decide

theorem hexadecimal_four (n : Nat) : Text.hexadecimal 4 n
    = [Byte.hexDigit (n / 16 / 16 / 16 % 16), Byte.hexDigit (n / 16 / 16 % 16),
        Byte.hexDigit (n / 16 % 16), Byte.hexDigit (n % 16)] := rfl

theorem unit?_hexadecimal {n : Nat} (h : n < 0x10000) :
    unit? (Text.hexadecimal 4 n) = some n := by
  have hdigit : ∀ m, Byte.isHexDigit (Byte.hexDigit (m % 16)) = true ∧
      Byte.hexValue (Byte.hexDigit (m % 16)) = m % 16 :=
    fun m => hexDigit_spec _ (Nat.mod_lt _ (by decide))
  rw [hexadecimal_four, unit?, if_pos (by simp [hdigit])]
  simp only [List.foldl_cons, List.foldl_nil, (hdigit _).2, Option.some.injEq]
  omega

theorem isPlain_hexDigit : ∀ d < 16, IsPlain (Byte.hexDigit d) := by
  have h : ∀ d < 16, (Byte.hexDigit d).toNat ≠ 0x22 ∧ (Byte.hexDigit d).toNat ≠ 0x5C ∧
      0x20 ≤ (Byte.hexDigit d).toNat := by decide
  exact fun d hd => isPlain_of_toNat (h d hd).1 (h d hd).2.1 (h d hd).2.2

/-! ### Reading it back -/

theorem parts?_cons {b : UInt8} (hb : IsPlain b) (t : Text) :
    parts? (b :: t) = (parts? t).map (withPart (.byte b)) := by
  rw [parts?.eq_def]
  dsimp only
  rw [if_neg hb.quote, if_neg hb.backslash, if_neg hb.control]

theorem parts?_short {e b : UInt8} (he : unescaped? e = some b) (t : Text) :
    parts? (Byte.backslash :: e :: t) = (parts? t).map (withPart (.byte b)) := by
  have hu : e ≠ 'u' := by
    intro heq
    rw [heq] at he
    exact nomatch he
  rw [parts?.eq_def]
  dsimp only
  rw [if_neg (by decide), if_pos rfl, if_neg hu, he]
  rfl

theorem parts?_unicode {n : Nat} (hn : n < 0x10000) (t : Text) :
    parts? (unicodeEscape n ++ t) = (parts? t).map (withPart (.unit n)) := by
  have hunit := unit?_hexadecimal hn
  rw [hexadecimal_four] at hunit
  rw [unicodeEscape, hexadecimal_four, parts?.eq_def]
  dsimp only [List.cons_append, List.nil_append]
  rw [if_neg (by decide), if_pos rfl, if_pos rfl, hunit]
  rfl

theorem ofParts_unit {n : Nat} (h : n < 0xD800 ∨ 0xE000 ≤ n ∧ n < 0x10000) (parts : List Part) :
    ofParts (.unit n :: parts) = ofCodePoint n ++ ofParts parts := by
  -- Only a surrogate starts a pair, so the next part does not matter.
  have hpair : ∀ m, isSurrogatePair n m = false := by
    intro m
    simp only [isSurrogatePair, Bool.and_eq_false_iff, decide_eq_false_iff_not]
    omega
  match parts with
  | [] => rw [ofParts.eq_def]
  | .byte b :: parts => rw [ofParts.eq_def]
  | .unit m :: parts => rw [ofParts, hpair, if_neg Bool.false_ne_true]

/-- The parts of a written character, which give it back whatever follows. -/
theorem Written.parts {c w : Text} (h : Written c w) (rest : Text) :
    ∃ parts, (∀ later, ofParts (parts ++ later) = c ++ ofParts later) ∧
      parts? (w ++ rest) = (parts? rest).map fun (later, rest) => (parts ++ later, rest) := by
  cases h with
  | plain hc hplain =>
    -- Every byte is a part of its own.
    refine ⟨c.map .byte, ?_, ?_⟩
    · intro later
      clear hc hplain
      induction c with
      | nil => rfl
      | cons b c ih => rw [List.map_cons, List.cons_append, ofParts, ih, List.cons_append]
    · clear hc
      induction c with
      | nil => simp
      | cons b c ih =>
        have hlater := ih fun d hd => hplain d (List.mem_cons_of_mem _ hd)
        rw [List.cons_append, parts?_cons (hplain b (List.mem_cons_self ..)), hlater,
          Option.map_map]
        rfl
  | @short e b he =>
    refine ⟨[.byte b], fun later => ?_, ?_⟩
    · rw [List.singleton_append, ofParts, List.singleton_append]
    · rw [shortEscape, List.cons_append, List.singleton_append, parts?_short he]
      rfl
  | @unicode n hn =>
    refine ⟨[.unit n], fun later => ?_, ?_⟩
    · rw [List.singleton_append, ofParts_unit hn]
    · rw [parts?_unicode (by omega)]
      rfl

section
variable {escaping : Escaping} {cs : List Text}
  (h : ∀ c ∈ cs, Written (Text.repairedCharacter c) (writtenCharacter escaping c)) (rest : Text)
include h

/-- The characters up to the closing quotation mark. -/
theorem parts?_characters : ∃ parts, ofParts parts = cs.flatMap Text.repairedCharacter ∧
    parts? (cs.flatMap (writtenCharacter escaping) ++ Byte.quote :: rest) = some (parts, rest) := by
  induction cs with
  | nil => exact ⟨[], rfl, by rw [List.flatMap_nil, List.nil_append, parts?.eq_def]; rfl⟩
  | cons c cs ih =>
    obtain ⟨later, hlater, hread⟩ := ih fun d hd => h d (List.mem_cons_of_mem _ hd)
    obtain ⟨parts, hparts, hfirst⟩ := (h c (List.mem_cons_self ..)).parts
      (cs.flatMap (writtenCharacter escaping) ++ Byte.quote :: rest)
    refine ⟨parts ++ later, ?_, ?_⟩
    · rw [hparts, hlater, List.flatMap_cons]
    · rw [List.flatMap_cons, List.append_assoc, hfirst, hread]
      rfl

end

/-! ### Its white space -/

theorem squeezeFrom_plain {w : Text} (h : ∀ b ∈ w, IsPlain b) (rest : Text) :
    squeezeFrom .inside (w ++ rest) = w ++ squeezeFrom .inside rest := by
  induction w with
  | nil => rfl
  | cons b w ih =>
    have hb := h b (List.mem_cons_self ..)
    rw [List.cons_append, squeezeFrom, if_neg hb.quote, if_neg hb.backslash,
      ih fun d hd => h d (List.mem_cons_of_mem _ hd), List.cons_append]

/-- Nothing is taken out of a written character. -/
theorem Written.squeezeFrom {c w : Text} (h : Written c w) (rest : Text) :
    squeezeFrom .inside (w ++ rest) = w ++ squeezeFrom .inside rest := by
  cases h with
  | plain hc hplain => exact squeezeFrom_plain hplain rest
  | short he => rfl
  | @unicode n hn =>
    have hdigits : ∀ b ∈ Text.hexadecimal 4 n, IsPlain b := by
      rw [hexadecimal_four]
      simp [isPlain_hexDigit, Nat.mod_lt]
    -- The backslash takes the letter with it, and the digits are plain.
    show Byte.backslash :: _ :: Json.squeezeFrom .inside (Text.hexadecimal 4 n ++ rest) = _
    rw [squeezeFrom_plain hdigits]
    rfl

theorem squeezeFrom_characters {escaping : Escaping} {cs : List Text}
    (h : ∀ c ∈ cs, Written (Text.repairedCharacter c) (writtenCharacter escaping c)) (rest : Text) :
    squeezeFrom .inside (cs.flatMap (writtenCharacter escaping) ++ rest)
      = cs.flatMap (writtenCharacter escaping) ++ squeezeFrom .inside rest := by
  induction cs with
  | nil => rfl
  | cons c cs ih =>
    rw [List.flatMap_cons, List.append_assoc, (h c (List.mem_cons_self ..)).squeezeFrom,
      ih fun d hd => h d (List.mem_cons_of_mem _ hd), List.append_assoc]

theorem Written.isWellFormed {c w : Text} (h : Written c w) : isWellFormed w = true := by
  cases h with
  | plain hc hplain => exact hc.isWellFormed
  | @short e b he =>
    have hascii : ∀ b : UInt8, (unescaped? b).isSome = true → b < 0x80 :=
      forall_byte (by decide +kernel)
    rw [shortEscape, Text.isWellFormed_cons_of_lt (by decide),
      Text.isWellFormed_cons_of_lt (hascii e (Option.isSome_of_eq_some he))]
    rfl
  | @unicode n hn =>
    have hascii : ∀ d < 16, Byte.hexDigit d < 0x80 := by decide
    refine Text.IsAscii.isWellFormed ?_
    rw [unicodeEscape, hexadecimal_four]
    simp only [Text.IsAscii, List.forall_mem_cons, List.not_mem_nil, false_imp_iff, implies_true,
      and_true]
    refine ⟨by decide, by decide, ?_, ?_, ?_, ?_⟩ <;> exact hascii _ (Nat.mod_lt _ (by decide))

/-! ## Numbers -/

/-- Decimal digits that give a number and start with a zero only if it is zero. -/
structure IsNumeral (w : Text) (n : Nat) : Prop where
  nonempty : w ≠ []
  digits : ∀ b ∈ w, Byte.isDigit b = true
  lead : w.head? = some ('0' : UInt8) → w.length = 1 ∧ n = 0
  value : w.foldl (fun n b => n * 10 + (b.toNat - 48)) 0 = n

theorem digit_spec : ∀ d < 10, Byte.isDigit (48 + d).toUInt8 = true ∧
    (48 + d).toUInt8.toNat - 48 = d ∧ ((48 + d).toUInt8 = ('0' : UInt8) → d = 0) := by
  decide

theorem isNumeral_ofNat (n : Nat) : IsNumeral (Text.ofNat n) n := by
  fun_induction Text.ofNat n with
  | case1 n hlt =>
    obtain ⟨hdigit, hvalue, hzero⟩ := digit_spec n hlt
    refine ⟨List.cons_ne_nil _ _, ?_, ?_, ?_⟩
    · intro b hb
      rw [List.mem_singleton.mp hb]
      exact hdigit
    · intro hhead
      exact ⟨rfl, hzero (Option.some.inj hhead)⟩
    · rw [List.foldl_cons, List.foldl_nil, hvalue, Nat.zero_mul, Nat.zero_add]
  | case2 n hge ih =>
    obtain ⟨hdigit, hvalue, -⟩ := digit_spec (n % 10) (Nat.mod_lt _ (by decide))
    refine ⟨List.append_ne_nil_of_left_ne_nil ih.nonempty _, ?_, ?_, ?_⟩
    · intro b hb
      rcases List.mem_append.mp hb with hb | hb
      · exact ih.digits b hb
      · rw [List.mem_singleton.mp hb]
        exact hdigit
    · -- The first digit is that of `n / 10`, which is not zero.
      intro hhead
      obtain ⟨b, w, hw⟩ := List.exists_cons_of_ne_nil ih.nonempty
      rw [hw] at hhead ih
      have hzero := (ih.lead hhead).2
      omega
    · rw [List.foldl_append, ih.value, List.foldl_cons, List.foldl_nil, hvalue]
      omega

theorem natural?_ofNat (n : Nat) : natural? (Text.ofNat n) = some n := by
  have h := isNumeral_ofNat n
  unfold natural?
  rw [if_neg, if_neg, h.value]
  · intro hlead
    simp only [Bool.and_eq_true, beq_iff_eq, decide_eq_true_eq, ne_eq] at hlead
    exact hlead.2 (h.lead hlead.1).1
  · rw [Bool.or_eq_true, List.isEmpty_iff, Bool.not_eq_true', Bool.eq_false_iff]
    rintro (hnil | hall)
    · exact h.nonempty hnil
    · exact hall (List.all_eq_true.mpr h.digits)

theorem integer?_ofInt (n : Int) : integer? (Text.ofInt n) = some n := by
  unfold integer? Text.ofInt
  cases n with
  | ofNat n =>
    have hminus : (Text.ofNat n).head? ≠ some ('-' : UInt8) := by
      intro hhead
      exact absurd ((isNumeral_ofNat n).digits _ (List.mem_of_head? hhead)) (by decide)
    dsimp only
    rw [if_neg hminus, natural?_ofNat]
    rfl
  | negSucc n =>
    dsimp only
    rw [List.head?_cons, if_pos rfl, List.tail_cons, natural?_ofNat]
    rfl

theorem isWord_of_isDigit {b : UInt8} (h : Byte.isDigit b = true) : isWord b = true := by
  simp [isWord, Byte.isAlphanumeric, h]

theorem isWord_ofInt (n : Int) : ∀ b ∈ Text.ofInt n, isWord b = true := by
  cases n with
  | ofNat n => exact fun b hb => isWord_of_isDigit ((isNumeral_ofNat n).digits b hb)
  | negSucc n =>
    intro b hb
    rcases List.mem_cons.mp hb with rfl | hb
    · decide
    · exact isWord_of_isDigit ((isNumeral_ofNat (n + 1)).digits b hb)

theorem ofInt_ne_nil (n : Int) : Text.ofInt n ≠ [] := by
  cases n with
  | ofNat n => exact (isNumeral_ofNat n).nonempty
  | negSucc n => exact List.cons_ne_nil _ _

end DocBlock.Json
