import DocBlock.Proofs.Source.Decoration
import DocBlock.Proofs.Tag
import DocBlock.Proofs.Text.Encoding
import DocBlock.Proofs.Text.Lines

/-!
# Lists of types

The types of a tag stand between curly brackets, with `|`, `,` or `/` between two of them and any
number of spaces around that. `Tag.Listed` relates names to the texts that list them. There are many
texts for the same names, and the names are read back from each of them:

> `typeNames_of_listed`: names are read back, whatever stands between them, and wherever the curly
> brackets are.

A tag sees less than that of its list, because its line is cut at spaces first. Up to its first
space, a list is itself a list of some of its names (`Listed.takeWhile`), and never of all of them
(`IsCutList.ne`).
-/

namespace DocBlock.Tag

/-! ## Names and the texts that list them -/

/-- A name that can stand in a list of types. -/
structure IsTypeName (t : Text) : Prop where
  ne_nil : t ≠ []
  space : ((' ' : Char) : UInt8) ∉ t
  leftBrace : Byte.leftBrace ∉ t
  rightBrace : Byte.rightBrace ∉ t
  separator : ∀ b ∈ t, isTypeSeparator b = false

instance (t : Text) : Decidable (IsTypeName t) :=
  decidable_of_iff (t ≠ [] ∧ ((' ' : Char) : UInt8) ∉ t ∧ Byte.leftBrace ∉ t ∧ Byte.rightBrace ∉ t ∧
      t.any isTypeSeparator = false)
    ⟨fun ⟨hne, hspace, hleft, hright, hseparator⟩ =>
        ⟨hne, hspace, hleft, hright, by simpa using hseparator⟩,
      fun ⟨hne, hspace, hleft, hright, hseparator⟩ =>
        ⟨hne, hspace, hleft, hright, by simpa using hseparator⟩⟩

/-- A name that a list of types keeps as it is. It may be empty, and have spaces inside. -/
structure IsPlainName (t : Text) : Prop where
  start : t.head? ≠ some ((' ' : Char) : UInt8)
  stop : t.getLast? ≠ some ((' ' : Char) : UInt8)
  leftBrace : Byte.leftBrace ∉ t
  rightBrace : Byte.rightBrace ∉ t
  separator : ∀ b ∈ t, isTypeSeparator b = false

instance (t : Text) : Decidable (IsPlainName t) :=
  decidable_of_iff (t.head? ≠ some ((' ' : Char) : UInt8) ∧
      t.getLast? ≠ some ((' ' : Char) : UInt8) ∧ Byte.leftBrace ∉ t ∧ Byte.rightBrace ∉ t ∧
      t.any isTypeSeparator = false)
    ⟨fun ⟨hstart, hstop, hleft, hright, hseparator⟩ =>
        ⟨hstart, hstop, hleft, hright, by simpa using hseparator⟩,
      fun ⟨hstart, hstop, hleft, hright, hseparator⟩ =>
        ⟨hstart, hstop, hleft, hright, by simpa using hseparator⟩⟩

/-- The text lists these names: a separator stands between two of them, with any spaces around. -/
inductive Listed : List Text → Text → Prop
  | last (t : Text) : Listed [t] t
  | before (t : Text) (m : Nat) {separator : UInt8} (hseparator : isTypeSeparator separator = true)
    (n : Nat) {ts : List Text} {r : Text} (h : Listed ts r) :
    Listed (t :: ts) (t ++ Text.spaces m ++ separator :: (Text.spaces n ++ r))

/-- A text between curly brackets. -/
def braced (t : Text) : Text := Byte.leftBrace :: (t ++ [Byte.rightBrace])

/-- A list of types as it is written. -/
def typeList (types : List Text) : Text :=
  Byte.leftBrace :: (Text.join "|" types ++ [Byte.rightBrace])

/-- The text without its curly brackets. -/
def unbraced (t : Text) : Text := t.filter fun b => b != Byte.leftBrace && b != Byte.rightBrace

theorem IsTypeName.isPlainName {t : Text} (h : IsTypeName t) : IsPlainName t where
  start hhead := h.space (List.mem_of_mem_head? hhead)
  stop hlast := h.space (List.mem_of_mem_getLast? hlast)
  leftBrace := h.leftBrace
  rightBrace := h.rightBrace
  separator := h.separator

theorem isPlainName_nil : IsPlainName [] where
  start := nofun
  stop := nofun
  leftBrace := List.not_mem_nil
  rightBrace := List.not_mem_nil
  separator := nofun

theorem unbraced_eq_self {t : Text} (hleft : Byte.leftBrace ∉ t) (hright : Byte.rightBrace ∉ t) :
    unbraced t = t := by
  refine List.filter_eq_self.mpr fun b hb => ?_
  rw [Bool.and_eq_true, bne_iff_ne, bne_iff_ne]
  exact ⟨fun heq => hleft (heq ▸ hb), fun heq => hright (heq ▸ hb)⟩

theorem unbraced_cons (t : Text) : unbraced (Byte.leftBrace :: t) = unbraced t :=
  List.filter_cons_of_neg (by decide)

theorem unbraced_braced (t : Text) : unbraced (braced t) = unbraced t := by
  rw [braced, unbraced_cons, unbraced, List.filter_append]
  exact List.append_nil _

/-- Names may stand next to their separator. -/
theorem Listed.next (t : Text) {separator : UInt8} (hseparator : isTypeSeparator separator = true)
    {ts : List Text} {r : Text} (h : Listed ts r) : Listed (t :: ts) (t ++ separator :: r) := by
  have hbefore := Listed.before t 0 hseparator 0 h
  rw [Text.spaces, List.replicate_zero, List.append_nil] at hbefore
  exact hbefore

/-- Names with one `|` between neighbours are listed. -/
theorem listed_join {types : List Text} (hne : types ≠ []) :
    Listed types (Text.join "|" types) := by
  induction types with
  | nil => exact absurd rfl hne
  | cons t types ih =>
    by_cases hnil : types = []
    · rw [hnil, Text.join_singleton]
      exact .last t
    · rw [Text.join_cons _ _ hnil, List.append_assoc]
      exact Listed.next t (by decide) (ih hnil)

namespace Listed

variable {types : List Text} {r : Text}

theorem ne_nil (h : Listed types r) : types ≠ [] := by
  cases h <;> exact List.cons_ne_nil _ _

/-- Only names, separators and spaces stand in a list. -/
theorem of_mem (h : Listed types r) {b : UInt8} (hb : b ∈ r) :
    (∃ t ∈ types, b ∈ t) ∨ isTypeSeparator b = true ∨ b = ' ' := by
  induction h with
  | last t => exact .inl ⟨t, List.mem_singleton_self t, hb⟩
  | before t m hseparator n h ih =>
    simp only [List.mem_append, List.mem_cons] at hb
    rcases hb with (hb | hb) | rfl | hb | hb
    · exact .inl ⟨t, List.mem_cons_self .., hb⟩
    · exact .inr (.inr (Text.eq_space_of_mem_spaces hb))
    · exact .inr (.inl hseparator)
    · exact .inr (.inr (Text.eq_space_of_mem_spaces hb))
    · rcases ih hb with ⟨u, hu, hb⟩ | hb
      · exact .inl ⟨u, List.mem_cons_of_mem t hu, hb⟩
      · exact .inr hb

theorem unbraced_eq (h : Listed types r) (hplain : ∀ t ∈ types, IsPlainName t) :
    unbraced r = r := by
  refine unbraced_eq_self (fun hb => ?_) fun hb => ?_
  · rcases h.of_mem hb with ⟨t, ht, hb⟩ | hb | hb
    · exact (hplain t ht).leftBrace hb
    · exact absurd hb (by decide)
    · exact absurd hb (by decide)
  · rcases h.of_mem hb with ⟨t, ht, hb⟩ | hb | hb
    · exact (hplain t ht).rightBrace hb
    · exact absurd hb (by decide)
    · exact absurd hb (by decide)

end Listed

/-! ## Reading a list -/

section
variable {t : Text}

theorem dropWhile_spaces_append (n : Nat) (h : t.head? ≠ some ((' ' : Char) : UInt8)) :
    (Text.spaces n ++ t).dropWhile (· == ((' ' : Char) : UInt8)) = t :=
  Source.skipSpaces_spaces_append n h

theorem dropWhileRight_append_spaces (n : Nat) (h : t.getLast? ≠ some ((' ' : Char) : UInt8)) :
    Text.dropWhileRight (· == ((' ' : Char) : UInt8)) (t ++ Text.spaces n) = t := by
  have hreverse : (t ++ Text.spaces n).reverse = Text.spaces n ++ t.reverse := by
    rw [List.reverse_append, Text.spaces, List.reverse_replicate]
  rw [Text.dropWhileRight, hreverse, dropWhile_spaces_append n (by rwa [List.head?_reverse]),
    List.reverse_reverse]

theorem isTypeSeparator_of_mem_spaces {n : Nat} {b : UInt8} (hb : b ∈ Text.spaces n) :
    isTypeSeparator b = false := by
  rw [Text.eq_space_of_mem_spaces hb]
  rfl

/-- A piece between two separators is trimmed to its name. -/
theorem trimWhere_spaces (m n : Nat) (h : IsPlainName t) :
    Text.trimWhere (· == ((' ' : Char) : UInt8)) (Text.spaces n ++ (t ++ Text.spaces m)) = t := by
  by_cases hnil : t = []
  · have hspaces : (Text.spaces n ++ (t ++ Text.spaces m)).dropWhile (· == ((' ' : Char) : UInt8))
        = [] := by
      rw [List.dropWhile_eq_nil_iff, hnil, List.nil_append]
      intro b hb
      rcases List.mem_append.mp hb with hb | hb <;>
        exact beq_iff_eq.mpr (Text.eq_space_of_mem_spaces hb)
    rw [Text.trimWhere, hspaces, hnil]
    rfl
  · have hhead : (t ++ Text.spaces m).head? ≠ some ((' ' : Char) : UInt8) := by
      rw [List.head?_append_of_ne_nil _ hnil]
      exact h.start
    rw [Text.trimWhere, dropWhile_spaces_append n hhead, dropWhileRight_append_spaces m h.stop]

/-- A list is cut at the separator after its first name. -/
theorem splitWhere_before (m n : Nat) {separator : UInt8}
    (hseparator : isTypeSeparator separator = true) (h : ∀ b ∈ t, isTypeSeparator b = false)
    (r : Text) :
    Text.splitWhere isTypeSeparator (Text.spaces n ++ (t ++ Text.spaces m ++ separator :: r))
      = (Text.spaces n ++ (t ++ Text.spaces m)) :: Text.splitWhere isTypeSeparator r := by
  have hpiece : ∀ b ∈ Text.spaces n ++ (t ++ Text.spaces m), isTypeSeparator b = false := by
    intro b hb
    simp only [List.mem_append] at hb
    rcases hb with hb | hb | hb
    · exact isTypeSeparator_of_mem_spaces hb
    · exact h b hb
    · exact isTypeSeparator_of_mem_spaces hb
  rw [← List.append_assoc, Text.splitWhere_append_cons hseparator,
    Text.splitWhere_eq_singleton hpiece]
  rfl

end

section
variable {types : List Text} {r : Text}

theorem laterTypes_cons (piece : Text) {pieces : List Text} (h : pieces ≠ []) :
    laterTypes (piece :: pieces)
      = Text.trimWhere (· == ((' ' : Char) : UInt8)) piece :: laterTypes pieces := by
  obtain ⟨next, later, rfl⟩ := List.exists_cons_of_ne_nil h
  rfl

/-- After a separator, a list is cut into its names. -/
theorem Listed.laterTypes_eq (h : Listed types r) (hplain : ∀ t ∈ types, IsPlainName t) (n : Nat) :
    laterTypes (Text.splitWhere isTypeSeparator (Text.spaces n ++ r)) = types := by
  induction h generalizing n with
  | last t =>
    have ht := hplain t (List.mem_singleton_self t)
    have hpiece : ∀ b ∈ Text.spaces n ++ t, isTypeSeparator b = false := by
      intro b hb
      rcases List.mem_append.mp hb with hb | hb
      · exact isTypeSeparator_of_mem_spaces hb
      · exact ht.separator b hb
    rw [Text.splitWhere_eq_singleton hpiece, laterTypes,
      Source.skipSpaces_spaces_append n ht.start]
  | before t m hseparator k h ih =>
    have ht := hplain t (List.mem_cons_self ..)
    rw [splitWhere_before m n hseparator ht.separator, laterTypes_cons _ (Text.splitWhere_ne_nil _ _),
      trimWhere_spaces m n ht, ih (fun u hu => hplain u (List.mem_cons_of_mem t hu)) k]

/-- Without a separator there is one name, whatever it is. -/
theorem typeNames_of_plain {s : Text} (hs : unbraced s ≠ [])
    (hplain : ∀ b ∈ unbraced s, isTypeSeparator b = false) : typeNames s = [unbraced s] := by
  have hbare : ¬ (unbraced s).isEmpty = true := by rwa [List.isEmpty_iff]
  rw [typeNames, ← unbraced]
  simp only [if_neg hbare]
  rw [Text.splitWhere_eq_singleton hplain]

/-- The first name stands before the first separator, and the other names behind it. -/
theorem typeNames_of_cut {s piece rest : Text} {separator : UInt8}
    (hs : unbraced s = piece ++ separator :: rest) (hseparator : isTypeSeparator separator = true)
    (hpiece : ∀ b ∈ piece, isTypeSeparator b = false) :
    typeNames s = Text.dropWhileRight (· == ((' ' : Char) : UInt8)) piece ::
      laterTypes (Text.splitWhere isTypeSeparator rest) := by
  have hbare : ¬ (unbraced s).isEmpty = true := by rw [hs, List.isEmpty_iff]; simp
  rw [typeNames, ← unbraced]
  simp only [if_neg hbare]
  obtain ⟨next, pieces, hpieces⟩ :=
    List.exists_cons_of_ne_nil (Text.splitWhere_ne_nil isTypeSeparator rest)
  rw [hs, Text.splitWhere_append_cons hseparator, Text.splitWhere_eq_singleton hpiece, hpieces]
  rfl

/-- The names of a list are read back, whatever stands between them. -/
theorem typeNames_of_listed (h : Listed types r) (hplain : ∀ t ∈ types, IsPlainName t)
    (hne : r ≠ []) {s : Text} (hs : unbraced s = r) : typeNames s = types := by
  cases h with
  | last t =>
    have ht := hplain r (List.mem_singleton_self r)
    rw [typeNames_of_plain (by rwa [hs]) (by rw [hs]; exact ht.separator), hs]
  | before t m hseparator n h =>
    have ht := hplain t (List.mem_cons_self ..)
    have hpiece : ∀ b ∈ t ++ Text.spaces m, isTypeSeparator b = false := by
      intro b hb
      rcases List.mem_append.mp hb with hb | hb
      · exact ht.separator b hb
      · exact isTypeSeparator_of_mem_spaces hb
    rw [typeNames_of_cut hs hseparator hpiece, dropWhileRight_append_spaces m ht.stop,
      h.laterTypes_eq (fun u hu => hplain u (List.mem_cons_of_mem t hu)) n]

theorem Listed.text_ne_nil (h : Listed types r) (hfirst : types.head? ≠ some []) : r ≠ [] := by
  cases h with
  | last t => exact fun hnil => hfirst (congrArg some hnil)
  | before t => simp

theorem head?_ne_nil (htypes : ∀ t ∈ types, IsTypeName t) : types.head? ≠ some [] :=
  fun hhead => (htypes [] (List.mem_of_mem_head? hhead)).ne_nil rfl

theorem typeNames_braced (h : Listed types r) (htypes : ∀ t ∈ types, IsTypeName t) :
    typeNames (braced r) = types := by
  have hplain : ∀ t ∈ types, IsPlainName t := fun t ht => (htypes t ht).isPlainName
  refine typeNames_of_listed h hplain (h.text_ne_nil (head?_ne_nil htypes)) ?_
  rw [unbraced_braced, h.unbraced_eq hplain]

/-- The names of a list of types are read back. -/
theorem typeNames_typeList (hne : types ≠ []) (h : ∀ t ∈ types, IsTypeName t) :
    typeNames (typeList types) = types :=
  typeNames_braced (listed_join hne) h

/-! ## A list that is cut -/

/-- Some of the names, but not all, and maybe an empty one after them. -/
def IsCutList (names types : List Text) : Prop :=
  ∃ k, 0 < k ∧ k < types.length ∧ (names = types.take k ∨ names = types.take k ++ [[]])

section
variable {names : List Text}

/-- A list of types that is cut is another list of types. -/
theorem IsCutList.ne (h : IsCutList names types) (htypes : ∀ t ∈ types, IsTypeName t) :
    names ≠ types := by
  obtain ⟨k, -, hk, rfl | rfl⟩ := h
  · intro heq
    have hlength := congrArg List.length heq
    rw [List.length_take] at hlength
    omega
  · intro heq
    have hempty : ([] : Text) ∈ types := by
      rw [← heq]
      exact List.mem_append_right _ (List.mem_singleton_self _)
    exact (htypes [] hempty).ne_nil rfl

theorem IsCutList.head? (h : IsCutList names types) : names.head? = types.head? := by
  obtain ⟨k, hpos, hk, hnames⟩ := h
  obtain ⟨t, ts, rfl⟩ := List.exists_cons_of_length_pos (hpos.trans hk)
  obtain ⟨k, rfl⟩ := Nat.exists_eq_add_of_lt hpos
  rcases hnames with rfl | rfl <;> simp

theorem IsCutList.isPlainName (h : IsCutList names types) (htypes : ∀ t ∈ types, IsTypeName t) :
    ∀ t ∈ names, IsPlainName t := by
  intro t ht
  obtain ⟨k, -, -, rfl | rfl⟩ := h
  · exact (htypes t (List.mem_of_mem_take ht)).isPlainName
  · rcases List.mem_append.mp ht with ht | ht
    · exact (htypes t (List.mem_of_mem_take ht)).isPlainName
    · rw [List.mem_singleton.mp ht]
      exact isPlainName_nil

theorem IsCutList.cons (h : IsCutList names types) (t : Text) :
    IsCutList (t :: names) (t :: types) := by
  obtain ⟨k, hpos, hk, rfl | rfl⟩ := h
  · exact ⟨k + 1, k.succ_pos, Nat.succ_lt_succ hk, .inl rfl⟩
  · exact ⟨k + 1, k.succ_pos, Nat.succ_lt_succ hk, .inr rfl⟩

end

/-- Up to its first space, a list is a list of the names before the space. -/
theorem Listed.takeWhile (h : Listed types r) (htypes : ∀ t ∈ types, IsTypeName t)
    (hspace : ((' ' : Char) : UInt8) ∈ r) :
    ∃ names, IsCutList names types ∧ Listed names (r.takeWhile (· != ((' ' : Char) : UInt8))) := by
  induction h with
  | last t => exact absurd hspace (htypes t (List.mem_singleton_self t)).space
  | @before t m separator hseparator n ts r h ih =>
    have hfirst := Text.bne_of_not_mem (htypes t (List.mem_cons_self ..)).space
    have hsolid : (separator != ((' ' : Char) : UInt8)) = true := by
      rw [bne_iff_ne]
      rintro rfl
      exact absurd hseparator (by decide)
    have hone : 1 < (t :: ts).length := Nat.succ_lt_succ (List.length_pos_iff.mpr h.ne_nil)
    have hstop (k : Nat) (s : Text) :
        (Text.spaces (k + 1) ++ s).takeWhile (· != ((' ' : Char) : UInt8)) = [] :=
      List.takeWhile_cons_of_neg (by decide)
    rw [List.append_assoc, List.takeWhile_append_of_pos hfirst]
    match m, n with
    | m + 1, n =>
      -- the space stands before the separator
      rw [hstop, List.append_nil]
      exact ⟨[t], ⟨1, Nat.one_pos, hone, .inl rfl⟩, .last t⟩
    | 0, n + 1 =>
      -- it stands after the separator, and an empty name between them
      rw [Text.spaces, List.replicate_zero, List.nil_append,
        List.takeWhile_cons_of_pos (p := (· != ((' ' : Char) : UInt8))) hsolid, hstop]
      exact ⟨[t, []], ⟨1, Nat.one_pos, hone, .inr rfl⟩, .next t hseparator (.last [])⟩
    | 0, 0 =>
      -- it stands further on
      simp only [Text.spaces, List.replicate_zero, List.append_nil, List.nil_append] at hspace ⊢
      have hlater : ((' ' : Char) : UInt8) ∈ r := by
        rcases List.mem_append.mp hspace with hspace | hspace
        · exact absurd hspace (htypes t (List.mem_cons_self ..)).space
        · exact (List.mem_cons.mp hspace).resolve_left (Ne.symm (bne_iff_ne.mp hsolid))
      obtain ⟨names, hcut, hlist⟩ :=
        ih (fun u hu => htypes u (List.mem_cons_of_mem t hu)) hlater
      rw [List.takeWhile_cons_of_pos (p := (· != ((' ' : Char) : UInt8))) hsolid]
      exact ⟨t :: names, hcut.cons t, .next t hseparator hlist⟩

/-- Up to its first space, a list in brackets is read as some of its types. -/
theorem isCutList_typeNames (h : Listed types r) (htypes : ∀ t ∈ types, IsTypeName t)
    (hspace : ((' ' : Char) : UInt8) ∈ r) :
    IsCutList (typeNames ((braced r).takeWhile (· != ((' ' : Char) : UInt8)))) types := by
  obtain ⟨names, hcut, hlist⟩ := h.takeWhile htypes hspace
  have hplain := hcut.isPlainName htypes
  have hfirst : names.head? ≠ some [] := by
    rw [hcut.head?]
    exact head?_ne_nil htypes
  have hstart : (braced r).takeWhile (· != ((' ' : Char) : UInt8))
      = Byte.leftBrace :: r.takeWhile (· != ((' ' : Char) : UInt8)) := by
    have hshort : (r.takeWhile (· != ((' ' : Char) : UInt8))).length ≠ r.length := by
      intro hlength
      have hall := (List.takeWhile_prefix (· != ((' ' : Char) : UInt8))).eq_of_length hlength
      exact absurd (List.takeWhile_eq_self_iff.mp hall _ hspace) (by decide)
    rw [braced, List.takeWhile_cons_of_pos (by decide), List.takeWhile_append, if_neg hshort]
  rw [hstart, typeNames_of_listed hlist hplain (hlist.text_ne_nil hfirst)
    (by rw [unbraced_cons, hlist.unbraced_eq hplain])]
  exact hcut

end

end DocBlock.Tag
