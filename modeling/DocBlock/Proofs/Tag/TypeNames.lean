import DocBlock.Proofs.Tag.TypeList
import DocBlock.Proofs.Text.Trim

/-!
# What a list of types is read as

Curly brackets may stand anywhere in a list of types, inside its names and between the spaces around
its separators too (`Bracketed`). `typeNames_of_listed` reads the names back from a text that lists
them. This file adds the other half, that every text lists the names it is read as
(`listed_typeNames`): a piece between two separators is a name with spaces around it, the first
piece is one with spaces behind it, and the last one with spaces before it. Together:

> `typeNames_eq_iff_listed`: a text is read as some names exactly if it lists them, with curly
> brackets put in, and as no name exactly if it has curly brackets only.
-/

namespace DocBlock.Tag

/-- Whether the byte is a curly bracket. -/
def IsBracket (b : UInt8) : Prop := b = Byte.leftBrace ∨ b = Byte.rightBrace

/-- The second text is the first with any number of curly brackets put in, wherever they stand. -/
inductive Bracketed : Text → Text → Prop
  | nil : Bracketed [] []
  | keep (b : UInt8) {r s : Text} (h : Bracketed r s) : Bracketed (b :: r) (b :: s)
  | put {b : UInt8} (hb : IsBracket b) {r s : Text} (h : Bracketed r s) : Bracketed r (b :: s)

/-! ## Curly brackets -/

section
variable {b : UInt8} {r s : Text}

theorem unbraced_cons_of_isBracket (hb : IsBracket b) (s : Text) :
    unbraced (b :: s) = unbraced s := by
  refine List.filter_cons_of_neg ?_
  rcases hb with rfl | rfl <;> decide

theorem unbraced_cons_of_not_isBracket (hb : ¬ IsBracket b) (s : Text) :
    unbraced (b :: s) = b :: unbraced s := by
  refine List.filter_cons_of_pos ?_
  rw [Bool.and_eq_true, bne_iff_ne, bne_iff_ne]
  exact not_or.mp hb

/-- Curly brackets that are put in do not count. -/
theorem Bracketed.unbraced_eq (h : Bracketed r s) : unbraced s = unbraced r := by
  induction h with
  | nil => rfl
  | keep b h ih =>
    by_cases hb : IsBracket b
    · rw [unbraced_cons_of_isBracket hb, unbraced_cons_of_isBracket hb, ih]
    · rw [unbraced_cons_of_not_isBracket hb, unbraced_cons_of_not_isBracket hb, ih]
  | put hb h ih => rw [unbraced_cons_of_isBracket hb, ih]

/-- A text is what is left of it without its curly brackets, and these put in. -/
theorem bracketed_unbraced (s : Text) : Bracketed (unbraced s) s := by
  induction s with
  | nil => exact .nil
  | cons b s ih =>
    by_cases hb : IsBracket b
    · rw [unbraced_cons_of_isBracket hb]
      exact .put hb ih
    · rw [unbraced_cons_of_not_isBracket hb]
      exact .keep b ih

theorem unbraced_eq_nil_iff : unbraced s = [] ↔ ∀ b ∈ s, IsBracket b := by
  rw [unbraced, List.filter_eq_nil_iff]
  refine forall₂_congr fun b _ => ?_
  rw [Bool.and_eq_true, bne_iff_ne, bne_iff_ne, ← not_or, not_not]
  rfl

end

/-! ## Every text is a list -/

/-- A text is its part before the spaces at its end, and these spaces. -/
theorem exists_dropWhileRight_append_spaces (t : Text) :
    ∃ m, t = Text.dropWhileRight (· == ((' ' : Char) : UInt8)) t ++ Text.spaces m := by
  obtain ⟨m, hm⟩ := Source.eq_spaces_append_skipSpaces t.reverse
  refine ⟨m, ?_⟩
  have hreverse := congrArg List.reverse hm
  rw [List.reverse_reverse, List.reverse_append, Text.spaces, List.reverse_replicate] at hreverse
  exact hreverse

/-- A text is its part between the spaces at both ends, and these spaces. -/
theorem exists_spaces_append_trimWhere (t : Text) :
    ∃ n m, t = Text.spaces n ++
      (Text.trimWhere (· == ((' ' : Char) : UInt8)) t ++ Text.spaces m) := by
  obtain ⟨n, hn⟩ := Source.eq_spaces_append_skipSpaces t
  obtain ⟨m, hm⟩ := exists_dropWhileRight_append_spaces (Text.skipSpaces t)
  refine ⟨n, m, ?_⟩
  rw [Text.trimWhere, ← Text.skipSpaces, ← hm]
  exact hn

/-- A text has no separator, or a first one. -/
theorem separator_cases (u : Text) : (∀ b ∈ u, isTypeSeparator b = false) ∨
    ∃ piece separator rest, u = piece ++ separator :: rest ∧ isTypeSeparator separator = true ∧
      ∀ b ∈ piece, isTypeSeparator b = false := by
  induction u with
  | nil => exact .inl nofun
  | cons b u ih =>
    cases hb : isTypeSeparator b with
    | true => exact .inr ⟨[], b, u, rfl, hb, nofun⟩
    | false =>
      refine ih.imp (fun h => List.forall_mem_cons.mpr ⟨hb, h⟩) ?_
      rintro ⟨piece, separator, rest, rfl, hseparator, hpiece⟩
      exact ⟨b :: piece, separator, rest, rfl, hseparator, List.forall_mem_cons.mpr ⟨hb, hpiece⟩⟩

/-- What stands after a separator lists the names it is read as, behind the spaces of the
separator. -/
theorem exists_listed_laterTypes (u : Text) : ∃ n r, u = Text.spaces n ++ r ∧
    Listed (laterTypes (Text.splitWhere isTypeSeparator u)) r := by
  rcases separator_cases u with hplain | ⟨piece, separator, rest, hcut, hseparator, hpiece⟩
  · obtain ⟨n, hn⟩ := Source.eq_spaces_append_skipSpaces u
    refine ⟨n, Text.skipSpaces u, hn, ?_⟩
    rw [Text.splitWhere_eq_singleton hplain]
    exact .last _
  · obtain ⟨k, r, hrest, hlist⟩ := exists_listed_laterTypes rest
    obtain ⟨n, m, hname⟩ := exists_spaces_append_trimWhere piece
    rw [hcut]
    refine ⟨n, Text.trimWhere (· == ((' ' : Char) : UInt8)) piece ++ Text.spaces m
      ++ separator :: (Text.spaces k ++ r), ?_, ?_⟩
    · rw [← hrest, ← List.append_assoc, ← hname]
    · rw [Text.splitWhere_append_cons hseparator, Text.splitWhere_eq_singleton hpiece,
        List.singleton_append, laterTypes_cons _ (Text.splitWhere_ne_nil _ rest)]
      exact .before _ m hseparator k hlist
termination_by u.length
decreasing_by
  rw [hcut, List.length_append, List.length_cons]
  omega

section
variable {s : Text}

/-- A text lists the names it is read as. -/
theorem listed_typeNames (hs : unbraced s ≠ []) : Listed (typeNames s) (unbraced s) := by
  rcases separator_cases (unbraced s) with
    hplain | ⟨piece, separator, rest, hcut, hseparator, hpiece⟩
  · rw [typeNames_of_plain hs hplain]
    exact .last _
  · obtain ⟨k, r, hrest, hlist⟩ := exists_listed_laterTypes rest
    obtain ⟨m, hname⟩ := exists_dropWhileRight_append_spaces piece
    have hlisted := Listed.before (Text.dropWhileRight (· == ((' ' : Char) : UInt8)) piece) m
      hseparator k hlist
    rw [← hname, ← hrest] at hlisted
    rw [typeNames_of_cut hcut hseparator hpiece, hcut]
    exact hlisted

theorem typeNames_eq_nil_iff : typeNames s = [] ↔ unbraced s = [] := by
  constructor
  · intro hnil
    by_contra hs
    exact (listed_typeNames hs).ne_nil hnil
  · intro hs
    rw [typeNames, ← unbraced, hs]
    rfl

end

/-! ## Exactly the texts with given names -/

/-- Two names or more, or one that is not empty, are not listed by the empty text. -/
theorem Listed.text_ne_nil_of_size {types : List Text} {r : Text} (h : Listed types r)
    (hsize : 1 < types.length ∨ ∃ t, t ≠ [] ∧ types = [t]) : r ≠ [] := by
  cases h with
  | last t =>
    rcases hsize with hsize | ⟨u, hu, heq⟩
    · exact absurd hsize (Nat.lt_irrefl 1)
    · rwa [(List.cons.inj heq).1]
  | before t => simp

/-- A text is read as given names exactly if it lists them, with curly brackets put in anywhere; and
it is read as no names exactly if there is nothing but curly brackets. -/
theorem typeNames_eq_iff_listed (s : Text) :
    (typeNames s = [] ↔ ∀ b ∈ s, IsBracket b) ∧
      ∀ types : List Text, (∀ t ∈ types, IsPlainName t) →
        (1 < types.length ∨ ∃ t, t ≠ [] ∧ types = [t]) →
        (typeNames s = types ↔ ∃ r, Listed types r ∧ Bracketed r s) := by
  refine ⟨typeNames_eq_nil_iff.trans unbraced_eq_nil_iff, fun types hplain hsize => ⟨?_, ?_⟩⟩
  · rintro rfl
    have hs : unbraced s ≠ [] := by
      rw [ne_eq, ← typeNames_eq_nil_iff]
      intro hnil
      rw [hnil] at hsize
      simp at hsize
    exact ⟨unbraced s, listed_typeNames hs, bracketed_unbraced s⟩
  · rintro ⟨r, hlist, hbrackets⟩
    refine typeNames_of_listed hlist hplain (hlist.text_ne_nil_of_size hsize) ?_
    rw [hbrackets.unbraced_eq, hlist.unbraced_eq hplain]

/-- Brackets inside names and separators, an empty name and a repeated one. -/
theorem typeNames_eq_iff_listed_scattered :
    typeNames "\x7da  \x7b\x7bb |\x7d , /C\x7b/  a  b\x7d" = ["a  b", "", "", "C", "a  b"] := by
  have hseparator : isTypeSeparator '|' = true ∧ isTypeSeparator ',' = true ∧
      isTypeSeparator '/' = true := by decide
  have hlist : Listed ["a  b", "", "", "C", "a  b"] "a  b | , /C/  a  b" :=
    .before "a  b" 1 hseparator.1 1 (.before "" 0 hseparator.2.1 1 (.before "" 0 hseparator.2.2 0
      (.before "C" 0 hseparator.2.2 2 (.last "a  b"))))
  refine ((typeNames_eq_iff_listed _).2 _ (by decide) (.inl (by decide))).mpr ⟨_, hlist, ?_⟩
  exact bracketed_unbraced "\x7da  \x7b\x7bb |\x7d , /C\x7b/  a  b\x7d"

end DocBlock.Tag
