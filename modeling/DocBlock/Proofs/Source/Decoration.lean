import Mathlib.Data.List.Forall2
import Mathlib.Data.List.TakeWhile
import DocBlock.Proofs.Text.Lines
import DocBlock.Source

/-!
# The stars at the start of comment lines

`Source.undecorate` takes the decoration off a line: the spaces at its start, one star and one space
after it. `Undecorated` gives the three cases as rules, and `undecorated_iff` says that the function
decides between them. `Source.bodyText` does this once for every line of a body
(`bodyText_undecorated`).
-/

namespace DocBlock.Source

/-- The second line is the first without at most one decoration at its start. -/
inductive Undecorated : Text → Text → Prop where
  /-- A star with a space after it. -/
  | spaced (n : Nat) (rest : Text) : Undecorated (Text.spaces n ++ "* " ++ rest) rest
  /-- A star without a space after it. -/
  | bare (n : Nat) (rest : Text) (h : rest.head? ≠ some ((' ' : Char) : UInt8)) :
    Undecorated (Text.spaces n ++ "*" ++ rest) rest
  /-- A line without a star at its start. -/
  | plain (line : Text) (h : ∀ n rest, line ≠ Text.spaces n ++ "*" ++ rest) : Undecorated line line

theorem skipSpaces_spaces_append (n : Nat) {t : Text} (h : t.head? ≠ some ((' ' : Char) : UInt8)) :
    Text.skipSpaces (Text.spaces n ++ t) = t := by
  unfold Text.skipSpaces Text.spaces
  rw [List.dropWhile_append_of_pos (fun b hb => by simp [(List.mem_replicate.mp hb).2])]
  cases t with
  | nil => rfl
  | cons b t => exact List.dropWhile_cons_of_neg (by simpa using h)

theorem eq_spaces_append_skipSpaces (t : Text) : ∃ n, t = Text.spaces n ++ Text.skipSpaces t := by
  refine ⟨(t.takeWhile (· == ((' ' : Char) : UInt8))).length, ?_⟩
  have hspaces : Text.spaces (t.takeWhile (· == ((' ' : Char) : UInt8))).length
      = t.takeWhile (· == ((' ' : Char) : UInt8)) := by
    refine (List.eq_replicate_of_mem fun b hb => ?_).symm
    simpa using List.mem_takeWhile_imp hb
  rw [hspaces]
  exact List.takeWhile_append_dropWhile.symm

/-- A line that starts with a star loses it, and the space after it. -/
theorem undecorate_star (n : Nat) (rest : Text) :
    undecorate (Text.spaces n ++ "*" ++ rest)
      = if rest.head? = some ((' ' : Char) : UInt8) then rest.tail else rest := by
  have hskip : Text.skipSpaces (Text.spaces n ++ "*" ++ rest) = (('*' : Char) : UInt8) :: rest := by
    rw [List.append_assoc]
    refine skipSpaces_spaces_append n ?_
    show some (('*' : Char) : UInt8) ≠ some ((' ' : Char) : UInt8)
    decide
  rw [undecorate, hskip]
  show (if (rest.head? == some ((' ' : Char) : UInt8)) = true then rest.tail else rest) = _
  simp only [beq_iff_eq]

theorem spaced_eq (n : Nat) (rest : Text) :
    Text.spaces n ++ "* " ++ rest = Text.spaces n ++ "*" ++ (((' ' : Char) : UInt8) :: rest) := by
  rw [List.append_assoc, List.append_assoc]
  rfl

/-- A line that does not start with a star stays as it is. -/
theorem undecorate_of_ne {line : Text} (h : ∀ n rest, line ≠ Text.spaces n ++ "*" ++ rest) :
    undecorate line = line := by
  obtain ⟨n, hn⟩ := eq_spaces_append_skipSpaces line
  rw [undecorate]
  split
  next b rest hskip =>
    rw [if_neg]
    intro hb
    rw [hskip, hb] at hn
    exact h n rest (by rw [List.append_assoc]; exact hn)
  next => rfl

/-- `undecorate` decides between the three cases. -/
theorem undecorated_iff {line rest : Text} : Undecorated line rest ↔ undecorate line = rest := by
  constructor
  · intro h
    cases h with
    | spaced n =>
      rw [spaced_eq, undecorate_star]
      exact if_pos rfl
    | bare n _ h => rw [undecorate_star, if_neg h]
    | plain _ h => exact undecorate_of_ne h
  · intro h
    subst h
    by_cases hstar : ∃ n rest, line = Text.spaces n ++ "*" ++ rest
    · obtain ⟨n, rest, rfl⟩ := hstar
      rw [undecorate_star]
      -- whether the star has a space after it decides between the two rules
      split
      next hspace =>
        obtain ⟨rest, rfl⟩ := List.head?_eq_some_iff.mp hspace
        rw [← spaced_eq]
        exact .spaced n rest
      next hspace => exact .bare n rest hspace
    · have hne : ∀ n rest, line ≠ Text.spaces n ++ "*" ++ rest := fun n rest h => hstar ⟨n, rest, h⟩
      rw [undecorate_of_ne hne]
      exact .plain line hne

/-- Every line of a body loses at most one decoration. -/
theorem bodyText_undecorated (body : Text) :
    ∃ ls, List.Forall₂ Undecorated (Text.lines body) ls ∧ bodyText body = Text.join "\n" ls := by
  refine ⟨(Text.lines body).map undecorate, ?_, rfl⟩
  rw [List.forall₂_map_right_iff]
  exact List.forall₂_same.mpr fun line _ => undecorated_iff.mpr rfl

end DocBlock.Source
