import DocBlock.Proofs.Json.Written

/-!
# Layout

A value is a list of tokens, and its layouts differ only in the white space between them. `Laid`
says when a text is a layout of tokens, and it has the compact text beside it. Every indentation
gives such a text (`laid_printAt`), and what is wanted of a text is wanted of all layouts:

> `Laid.tokens?`, `Laid.squeeze`: the tokens are found again, and without its white space a layout
> is the compact text;
> `value?_tokens`: the tokens of a value are read as the value;
> `read?_print`, `squeeze_print`: so a printed value is read back whatever the indentation, but for
> its stray bytes (`repaired`), and squeezed to the value on one line.
-/

namespace DocBlock.Json

open Text (isWellFormed)

/-! ## Tokens of a value -/

mutual

/-- The tokens of a value. -/
def tokens : Json → List Token
  | null => [.null]
  | bool b => [.bool b]
  | number n => [.number n]
  | string t => [.string t]
  | array [] => [.leftBracket, .rightBracket]
  | array (item :: items) => .leftBracket :: (tokens item ++ (itemTokens items ++ [.rightBracket]))
  | object [] => [.leftBrace, .rightBrace]
  | object ((name, value) :: fields) =>
    .leftBrace :: .string name :: .colon :: (tokens value ++ (fieldTokens fields ++ [.rightBrace]))

/-- The tokens of the items after the first. -/
def itemTokens : List Json → List Token
  | [] => []
  | item :: items => .comma :: (tokens item ++ itemTokens items)

/-- The tokens of the fields after the first. -/
def fieldTokens : List (Text × Json) → List Token
  | [] => []
  | (name, value) :: fields =>
    .comma :: .string name :: .colon :: (tokens value ++ fieldTokens fields)

end

theorem value?_leftBracket {ts : List Token} (h : ts.head? ≠ some .rightBracket)
    (outer : List Open) : value? outer (.leftBracket :: ts) = value? (.items [] :: outer) ts := by
  rw [value?.eq_def]
  -- The other patterns want another first token, or a bracket that closes at once.
  split
  all_goals simp_all

theorem head?_tokens (v : Json) (ts : List Token) :
    (v.tokens ++ ts).head? ≠ some .rightBracket := by
  match v with
  | null | bool _ | number _ | string _ => simp [tokens]
  | array [] | array (_ :: _) | object [] | object (_ :: _) => simp [tokens]

mutual

/-- A value is read where one comes next. -/
theorem value?_tokens : ∀ (v : Json) (outer : List Open) (ts : List Token),
    value? outer (v.tokens ++ ts) = rest? outer v ts
  | null, outer, ts => by rw [tokens, List.singleton_append, value?]
  | bool b, outer, ts => by rw [tokens, List.singleton_append, value?]
  | number n, outer, ts => by rw [tokens, List.singleton_append, value?]
  | string t, outer, ts => by rw [tokens, List.singleton_append, value?]
  | array [], outer, ts => by
    rw [tokens, List.cons_append, List.singleton_append, value?]
  | array (item :: items), outer, ts => by
    rw [tokens, List.cons_append, List.append_assoc, List.append_assoc, List.singleton_append,
      value?_leftBracket (head?_tokens item _), value?_tokens item, rest?_items items]
    rfl
  | object [], outer, ts => by
    rw [tokens, List.cons_append, List.singleton_append, value?]
  | object ((name, value) :: fields), outer, ts => by
    rw [tokens, List.cons_append, List.cons_append, List.cons_append, List.append_assoc,
      List.append_assoc, List.singleton_append, value?, value?_tokens value, rest?_fields fields]
    rfl

/-- The items after one that has been read. -/
theorem rest?_items : ∀ (items before : List Json) (item : Json) (outer : List Open)
    (ts : List Token), rest? (.items before :: outer) item (itemTokens items ++ .rightBracket :: ts)
      = rest? outer (.array (before ++ item :: items)) ts
  | [], before, item, outer, ts => by
    rw [itemTokens, List.nil_append, rest?]
  | next :: items, before, item, outer, ts => by
    rw [itemTokens, List.cons_append, List.append_assoc, rest?, value?_tokens next,
      rest?_items items, ← List.append_cons]

/-- The fields after one that has been read. -/
theorem rest?_fields : ∀ (fields before : List (Text × Json)) (name : Text) (value : Json)
    (outer : List Open) (ts : List Token),
    rest? (.fields before name :: outer) value (fieldTokens fields ++ .rightBrace :: ts)
      = rest? outer (.object (before ++ (name, value) :: fields)) ts
  | [], before, name, value, outer, ts => by
    rw [fieldTokens, List.nil_append, rest?]
  | (next, value') :: fields, before, name, value, outer, ts => by
    rw [fieldTokens, List.cons_append, List.cons_append, List.cons_append, List.append_assoc, rest?,
      value?_tokens value', rest?_fields fields, ← List.append_cons]

end

/-! ## Laid-out texts -/

/-- A text does not go on with a name or a number. -/
def IsApart (t : Text) : Prop := ∀ b ∈ t.head?, isWord b = false

/-- The layouts of tokens: a text that has the tokens, with white space before any of them and at
the end, and the same text without that white space. -/
inductive Laid (escaping : Escaping) : List Token → Text → Text → Prop
  | nil : Laid escaping [] [] []
  | gap {ts : List Token} {compact t : Text} {b : UInt8} (hb : isGap b = true)
      (rest : Laid escaping ts compact t) : Laid escaping ts compact (b :: t)
  | mark {ts : List Token} {compact t : Text} {token : Token} {b : UInt8}
      (hb : mark? b = some token) (rest : Laid escaping ts compact t) :
      Laid escaping (token :: ts) (b :: compact) (b :: t)
  | word {ts : List Token} {compact t w : Text} {token : Token} (hne : w ≠ [])
      (hbytes : ∀ b ∈ w, isWord b = true) (hw : word? w = some token) (ht : IsApart t)
      (rest : Laid escaping ts compact t) :
      Laid escaping (token :: ts) (w ++ compact) (w ++ t)
  | string {ts : List Token} {compact t : Text} (s : Text) (rest : Laid escaping ts compact t) :
      Laid escaping (.string (Text.repaired s) :: ts) (writtenString escaping s ++ compact)
        (writtenString escaping s ++ t)

section
variable {escaping : Escaping} {ts : List Token} {compact t : Text}

theorem word_spec : ∀ b : UInt8, isWord b = true →
    isGap b = false ∧ b ≠ Byte.quote ∧ mark? b = none ∧ b < 0x80 :=
  forall_byte (by decide +kernel)

theorem mark_spec {b : UInt8} {token : Token} (h : mark? b = some token) :
    isGap b = false ∧ b ≠ Byte.quote ∧ b < 0x80 := by
  have hall : ∀ b : UInt8, (mark? b).isSome = true →
      isGap b = false ∧ b ≠ Byte.quote ∧ b < 0x80 :=
    forall_byte (by decide +kernel)
  exact hall b (Option.isSome_of_eq_some h)

theorem lt_of_isGap : ∀ b : UInt8, isGap b = true → b < 0x80 :=
  forall_byte (by decide +kernel)

theorem Laid.tokens? (h : Laid escaping ts compact t) : tokens? t = some ts := by
  induction h with
  | nil => rw [Json.tokens?]
  | gap hb rest ih => rw [Json.tokens?, if_pos hb, ih]
  | mark hb rest ih =>
    obtain ⟨hgap, hquote, -⟩ := mark_spec hb
    rw [Json.tokens?, if_neg (by rw [hgap]; decide), if_neg hquote]
    simp only [hb, ih, Option.map_some]
  | @word ts compact t w token hne hbytes hw ht rest ih =>
    obtain ⟨b, w, rfl⟩ := List.exists_cons_of_ne_nil hne
    obtain ⟨hgap, hquote, hmark, -⟩ := word_spec _ (hbytes b (List.mem_cons_self ..))
    have htake : t.takeWhile isWord = [] := by
      cases t with
      | nil => rfl
      | cons c t => exact List.takeWhile_cons_of_neg (by rw [ht c rfl]; decide)
    have hdrop : t.dropWhile isWord = t := by
      cases t with
      | nil => rfl
      | cons c t => exact List.dropWhile_cons_of_neg (by rw [ht c rfl]; decide)
    -- The word goes on to the end of `w`, since `t` does not go on with it.
    have hlater : ∀ c ∈ w, isWord c = true := fun c hc => hbytes c (List.mem_cons_of_mem _ hc)
    rw [List.cons_append, Json.tokens?, if_neg (by rw [hgap]; decide), if_neg hquote]
    simp only [hmark, if_pos (hbytes b (List.mem_cons_self ..)),
      List.takeWhile_append_of_pos hlater, List.dropWhile_append_of_pos hlater, htake, hdrop,
      List.append_nil, hw, ih, Option.map_some, Option.bind_some]
  | @string ts compact t s rest ih =>
    obtain ⟨parts, hparts, hread⟩ := parts?_characters
      (fun c (hc : c ∈ Text.characters s) => written_repairedCharacter escaping hc) t
    rw [writtenString, List.append_assoc, List.append_assoc, List.singleton_append,
      List.singleton_append, Json.tokens?, if_neg (by decide), if_pos rfl]
    -- The reader keeps the equation of its match, so the parts cannot be rewritten in place.
    split
    next hnone =>
      rw [hread] at hnone
      cases hnone
    next parts' rest' hsome =>
      obtain ⟨rfl, rfl⟩ := Prod.mk.inj (Option.some.inj (hread.symm.trans hsome))
      rw [ih, hparts, Option.map_some, Text.repaired]

theorem Laid.isWellFormed (h : Laid escaping ts compact t) : isWellFormed t = true := by
  induction h with
  | nil => rfl
  | gap hb rest ih => rw [Text.isWellFormed_cons_of_lt (lt_of_isGap _ hb), ih]
  | mark hb rest ih => rw [Text.isWellFormed_cons_of_lt (mark_spec hb).2.2, ih]
  | word hne hbytes hw ht rest ih =>
    refine Text.isWellFormed_append (Text.IsAscii.isWellFormed fun b hb => ?_) ih
    exact (word_spec _ (hbytes b hb)).2.2.2
  | @string ts compact t s rest ih =>
    refine Text.isWellFormed_append ?_ ih
    refine Text.isWellFormed_append (Text.isWellFormed_append rfl ?_) rfl
    refine Text.isWellFormed_flatten fun w hw => ?_
    obtain ⟨c, hc, rfl⟩ := List.mem_map.mp hw
    exact (written_repairedCharacter escaping hc).isWellFormed

theorem Laid.squeeze (h : Laid escaping ts compact t) : squeeze t = compact := by
  unfold Json.squeeze
  induction h with
  | nil => rfl
  | gap hb rest ih => rw [Json.squeezeFrom, if_pos hb, ih]
  | mark hb rest ih =>
    obtain ⟨hgap, hquote, -⟩ := mark_spec hb
    rw [Json.squeezeFrom, if_neg (by rw [hgap]; decide), if_neg hquote, ih]
  | @word ts compact t w token hne hbytes hw ht rest ih =>
    clear hne hw
    induction w with
    | nil => exact ih
    | cons b w hrest =>
      obtain ⟨hgap, hquote, -⟩ := word_spec _ (hbytes b (List.mem_cons_self ..))
      rw [List.cons_append, Json.squeezeFrom, if_neg (by rw [hgap]; decide), if_neg hquote,
        hrest fun c hc => hbytes c (List.mem_cons_of_mem _ hc), List.cons_append]
  | @string ts compact t s rest ih =>
    have hs : ∀ c ∈ Text.characters s,
        Written (Text.repairedCharacter c) (writtenCharacter escaping c) :=
      fun c hc => written_repairedCharacter escaping hc
    rw [writtenString, List.append_assoc, List.append_assoc, List.singleton_append,
      List.singleton_append, Json.squeezeFrom, if_neg (by decide), if_pos rfl,
      squeezeFrom_characters hs, Json.squeezeFrom, if_pos rfl, ih, List.singleton_append,
      List.append_assoc, List.cons_append]
    rfl

end

/-! ## Printed values -/

mutual

/-- A value as it is read from its text: with the replacement character for every stray byte. -/
def repaired : Json → Json
  | null => null
  | bool b => bool b
  | number n => number n
  | string t => string (Text.repaired t)
  | array items => array (repairedItems items)
  | object fields => object (repairedFields fields)

/-- The items of an array as they are read. -/
def repairedItems : List Json → List Json
  | [] => []
  | item :: items => repaired item :: repairedItems items

/-- The fields of an object as they are read. -/
def repairedFields : List (Text × Json) → List (Text × Json)
  | [] => []
  | (name, value) :: fields => (Text.repaired name, repaired value) :: repairedFields fields

end

section
variable {escaping : Escaping} {ts : List Token} {compact t : Text}

theorem isApart_cons {b : UInt8} (h : isWord b = false) : IsApart (b :: t) := by
  intro c hc
  cases hc
  exact h

theorem isApart_lineBreak (indent depth : Nat) (h : IsApart t) :
    IsApart (lineBreak indent depth ++ t) := by
  unfold lineBreak
  split_ifs
  · exact h
  · intro b hb
    cases hb
    decide

theorem isApart_items (indent depth : Nat) (items : List Json) (h : IsApart t) :
    IsApart (printItems escaping indent depth items ++ t) := by
  cases items with
  | nil => exact h
  | cons item items =>
    rw [printItems]
    intro b hb
    cases hb
    decide

theorem isApart_fields (indent depth : Nat) (fields : List (Text × Json)) (h : IsApart t) :
    IsApart (printFields escaping indent depth fields ++ t) := by
  cases fields with
  | nil => exact h
  | cons field fields =>
    rw [printFields]
    intro b hb
    cases hb
    decide

theorem Laid.lineBreak (h : Laid escaping ts compact t) (indent depth : Nat) :
    Laid escaping ts compact (lineBreak indent depth ++ t) := by
  unfold Json.lineBreak
  split_ifs
  · exact h
  · refine .gap (by decide) ?_
    induction indent * depth with
    | zero => exact h
    | succ n ih => exact .gap (by decide) ih

theorem Laid.colon (h : Laid escaping ts compact t) (indent : Nat) :
    Laid escaping (.colon :: ts) (colon 0 ++ compact) (colon indent ++ t) := by
  unfold Json.colon
  rw [if_pos rfl]
  split_ifs
  · exact .mark (by decide) h
  · exact .mark (by decide) (.gap (by decide) h)

end

/-! A text is laid out from its end: what follows a value is laid out already, and the value is put
before it. -/

mutual

theorem laid_printAt (escaping : Escaping) (indent depth : Nat) : ∀ (v : Json) {ts : List Token}
    {compact t : Text}, IsApart t → Laid escaping ts compact t →
      Laid escaping (v.repaired.tokens ++ ts) (printAt escaping 0 depth v ++ compact)
        (printAt escaping indent depth v ++ t)
  | null, _, _, _, ht, h => by
    rw [printAt, printAt]
    exact .word (by decide) (List.all_eq_true.mp (by decide)) (by decide) ht h
  | bool true, _, _, _, ht, h => by
    rw [printAt, printAt]
    exact .word (by decide) (List.all_eq_true.mp (by decide)) (by decide) ht h
  | bool false, _, _, _, ht, h => by
    rw [printAt, printAt]
    exact .word (by decide) (List.all_eq_true.mp (by decide)) (by decide) ht h
  | number n, _, _, _, ht, h => by
    have hword : word? (Text.ofInt n) = some (.number n) := by rw [word?, integer?_ofInt]
    rw [printAt, printAt]
    exact .word (ofInt_ne_nil n) (isWord_ofInt n) hword ht h
  | string s, _, _, _, _, h => by
    rw [printAt, printAt]
    exact .string s h
  | array [], _, _, _, _, h => .mark (by decide) (.mark (by decide) h)
  | array (item :: items), ts, compact, t, _, h => by
    -- From the closing bracket back to the opening one.
    have hend := h.mark (show mark? ']' = some .rightBracket by decide)
    have hapart := isApart_lineBreak indent depth
      (isApart_cons (t := t) (show isWord ']' = false by decide))
    have hlater := laid_printItems escaping indent (depth + 1) items hapart
      (hend.lineBreak indent depth)
    have hfirst := laid_printAt escaping indent (depth + 1) item (isApart_items _ _ items hapart)
      hlater
    have hstart := (hfirst.lineBreak indent (depth + 1)).mark
      (show mark? '[' = some .leftBracket by decide)
    rw [repaired, repairedItems, tokens, printAt, printAt]
    simp only [List.append_assoc, List.cons_append]
    exact hstart
  | object [], _, _, _, _, h => .mark (by decide) (.mark (by decide) h)
  | object ((name, value) :: fields), ts, compact, t, _, h => by
    have hend := h.mark (show mark? Byte.rightBrace = some .rightBrace by decide)
    have hapart := isApart_lineBreak indent depth
      (isApart_cons (t := t) (show isWord Byte.rightBrace = false by decide))
    have hlater := laid_printFields escaping indent (depth + 1) fields hapart
      (hend.lineBreak indent depth)
    have hfirst := laid_printAt escaping indent (depth + 1) value
      (isApart_fields _ _ fields hapart) hlater
    have hstart := ((Laid.string name (hfirst.colon indent)).lineBreak indent (depth + 1)).mark
      (show mark? Byte.leftBrace = some .leftBrace by decide)
    rw [repaired, repairedFields, tokens, printAt, printAt]
    simp only [List.append_assoc, List.cons_append]
    exact hstart

theorem laid_printItems (escaping : Escaping) (indent depth : Nat) : ∀ (items : List Json)
    {ts : List Token} {compact t : Text}, IsApart t → Laid escaping ts compact t →
      Laid escaping (itemTokens (repairedItems items) ++ ts)
        (printItems escaping 0 depth items ++ compact) (printItems escaping indent depth items ++ t)
  | [], _, _, _, _, h => h
  | item :: items, ts, compact, t, ht, h => by
    have hlater := laid_printItems escaping indent depth items ht h
    have hfirst := laid_printAt escaping indent depth item (isApart_items _ _ items ht) hlater
    have hcomma := (hfirst.lineBreak indent depth).mark (show mark? ',' = some .comma by decide)
    rw [repairedItems, itemTokens, printItems, printItems]
    simp only [List.append_assoc, List.cons_append]
    exact hcomma

theorem laid_printFields (escaping : Escaping) (indent depth : Nat) :
    ∀ (fields : List (Text × Json)) {ts : List Token} {compact t : Text}, IsApart t →
      Laid escaping ts compact t →
      Laid escaping (fieldTokens (repairedFields fields) ++ ts)
        (printFields escaping 0 depth fields ++ compact)
        (printFields escaping indent depth fields ++ t)
  | [], _, _, _, _, h => h
  | (name, value) :: fields, ts, compact, t, ht, h => by
    have hlater := laid_printFields escaping indent depth fields ht h
    have hfirst := laid_printAt escaping indent depth value (isApart_fields _ _ fields ht) hlater
    have hcomma := ((Laid.string name (hfirst.colon indent)).lineBreak indent depth).mark
      (show mark? ',' = some .comma by decide)
    rw [repairedFields, fieldTokens, printFields, printFields]
    simp only [List.append_assoc, List.cons_append]
    exact hcomma

end

/-! ## Whole values -/

section
variable (v : Json) (indent : Nat)

theorem laid_print : Laid .document v.repaired.tokens (print 0 v) (print indent v) := by
  have hlaid := laid_printAt .document indent 0 v (t := []) nofun .nil
  simp only [List.append_nil] at hlaid
  exact hlaid

/-- A printed value is read back, with the replacement character for every stray byte. -/
theorem read?_print : read? (print indent v) = some v.repaired := by
  have hlaid := laid_print v indent
  have hvalue : value? [] (v.repaired.tokens ++ []) = some v.repaired :=
    value?_tokens v.repaired [] []
  rw [List.append_nil] at hvalue
  rw [read?, if_pos hlaid.isWellFormed, hlaid.tokens?, Option.bind_some, hvalue]

theorem squeeze_print : squeeze (print indent v) = print 0 v := (laid_print v indent).squeeze

end

theorem getLast?_print (indent : Nat) (v : Json) : ∀ b ∈ (print indent v).getLast?, b ≠ '\n' := by
  have hword : ∀ (w : Text), (∀ b ∈ w, isWord b = true) → ∀ b ∈ w.getLast?, b ≠ '\n' := by
    intro w hw b hb heq
    have hbyte := hw b (List.mem_of_getLast? hb)
    rw [heq] at hbyte
    exact absurd hbyte (by decide)
  have hend : ∀ (t : Text) (c : UInt8), c ≠ '\n' → ∀ b ∈ (t ++ [c]).getLast?, b ≠ '\n' := by
    intro t c hc b hb
    rw [List.getLast?_concat] at hb
    cases hb
    exact hc
  unfold print
  match v with
  | null =>
    rw [printAt]
    exact hword _ (List.all_eq_true.mp (by decide))
  | bool true =>
    rw [printAt]
    exact hword _ (List.all_eq_true.mp (by decide))
  | bool false =>
    rw [printAt]
    exact hword _ (List.all_eq_true.mp (by decide))
  | number n =>
    rw [printAt]
    exact hword _ (isWord_ofInt n)
  | string s =>
    rw [printAt]
    exact hend _ _ (by decide)
  | array [] =>
    rw [printAt]
    exact hend "[" ']' (by decide)
  | array (item :: items) =>
    rw [printAt]
    exact hend _ ']' (by decide)
  | object [] =>
    rw [printAt]
    exact hend [Byte.leftBrace] Byte.rightBrace (by decide)
  | object ((name, value) :: fields) =>
    rw [printAt]
    exact hend _ _ (by decide)

/-! ## Well-formed values -/

/-- The text of a string is well-formed. -/
def Token.IsWellFormed : Token → Prop
  | .string s => Text.isWellFormed s = true
  | _ => True

/-- The names and strings of a value are well-formed. -/
def IsWellFormed (v : Json) : Prop := ∀ token ∈ v.tokens, token.IsWellFormed

mutual

/-- A well-formed value is read back as it is. -/
theorem repaired_eq_self : ∀ v : Json, v.IsWellFormed → v.repaired = v
  | null, _ | bool _, _ | number _, _ | array [], _ | object [], _ => rfl
  | string s, h =>
    congrArg string (Text.repaired_eq_self (h (.string s) (List.mem_singleton_self _)))
  | array (item :: items), h => by
    rw [IsWellFormed, tokens, List.forall_mem_cons, List.forall_mem_append,
      List.forall_mem_append] at h
    rw [repaired, repairedItems, repaired_eq_self item h.2.1, repairedItems_eq_self items h.2.2.1]
  | object ((name, value) :: fields), h => by
    rw [IsWellFormed, tokens, List.forall_mem_cons, List.forall_mem_cons, List.forall_mem_cons,
      List.forall_mem_append, List.forall_mem_append] at h
    obtain ⟨-, hname, -, hvalue, hfields, -⟩ := h
    rw [repaired, repairedFields, Text.repaired_eq_self hname, repaired_eq_self value hvalue,
      repairedFields_eq_self fields hfields]

theorem repairedItems_eq_self : ∀ items : List Json,
    (∀ token ∈ itemTokens items, token.IsWellFormed) → repairedItems items = items
  | [], _ => rfl
  | item :: items, h => by
    rw [itemTokens, List.forall_mem_cons, List.forall_mem_append] at h
    rw [repairedItems, repaired_eq_self item h.2.1, repairedItems_eq_self items h.2.2]

theorem repairedFields_eq_self : ∀ fields : List (Text × Json),
    (∀ token ∈ fieldTokens fields, token.IsWellFormed) → repairedFields fields = fields
  | [], _ => rfl
  | (name, value) :: fields, h => by
    rw [fieldTokens, List.forall_mem_cons, List.forall_mem_cons, List.forall_mem_cons,
      List.forall_mem_append] at h
    obtain ⟨-, hname, -, hvalue, hfields⟩ := h
    rw [repairedFields, Text.repaired_eq_self hname, repaired_eq_self value hvalue,
      repairedFields_eq_self fields hfields]

end

theorem isWellFormed_string {s : Text} : (string s).IsWellFormed ↔ isWellFormed s = true := by
  simp [IsWellFormed, tokens, Token.IsWellFormed]

theorem isWellFormed_bool (b : Bool) : (bool b).IsWellFormed := by
  simp [IsWellFormed, tokens, Token.IsWellFormed]

theorem isWellFormed_itemTokens {items : List Json} (h : ∀ v ∈ items, v.IsWellFormed) :
    ∀ token ∈ itemTokens items, token.IsWellFormed := by
  induction items with
  | nil => exact fun token htoken => nomatch htoken
  | cons item items ih =>
    rw [List.forall_mem_cons] at h
    rw [itemTokens, List.forall_mem_cons, List.forall_mem_append]
    exact ⟨trivial, h.1, ih h.2⟩

theorem isWellFormed_array {items : List Json} (h : ∀ v ∈ items, v.IsWellFormed) :
    (array items).IsWellFormed := by
  unfold IsWellFormed
  cases items with
  | nil => simp [tokens, Token.IsWellFormed]
  | cons item items =>
    rw [List.forall_mem_cons] at h
    rw [tokens, List.forall_mem_cons, List.forall_mem_append, List.forall_mem_append]
    refine ⟨trivial, h.1, isWellFormed_itemTokens h.2, ?_⟩
    simp [Token.IsWellFormed]

section
variable {fields : List (Text × Json)}
  (h : ∀ f ∈ fields, isWellFormed f.1 = true ∧ f.2.IsWellFormed)
include h

theorem isWellFormed_fieldTokens : ∀ token ∈ fieldTokens fields, token.IsWellFormed := by
  induction fields with
  | nil => exact fun token htoken => nomatch htoken
  | cons field fields ih =>
    rw [List.forall_mem_cons] at h
    rw [fieldTokens, List.forall_mem_cons, List.forall_mem_cons, List.forall_mem_cons,
      List.forall_mem_append]
    exact ⟨trivial, h.1.1, trivial, h.1.2, ih h.2⟩

theorem isWellFormed_object : (object fields).IsWellFormed := by
  unfold IsWellFormed
  cases fields with
  | nil => simp [tokens, Token.IsWellFormed]
  | cons field fields =>
    rw [List.forall_mem_cons] at h
    rw [tokens, List.forall_mem_cons, List.forall_mem_cons, List.forall_mem_cons,
      List.forall_mem_append, List.forall_mem_append]
    refine ⟨trivial, h.1.1, trivial, h.1.2, isWellFormed_fieldTokens h.2, ?_⟩
    simp [Token.IsWellFormed]

end

end DocBlock.Json
