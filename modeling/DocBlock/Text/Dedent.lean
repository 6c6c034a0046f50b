import DocBlock.Text.Character

/-!
# Shared indentation

`Text.dedent` removes from every line the longest run of spaces and tabs that all lines with
something in them start with. A line feed at the very start and a last line that holds only spaces
and tabs are dropped first, so that a text can be laid out with the code around it.

What the lines share is found by taking bytes off the indentation of the first of them, one at a
time, until each of the others starts with it (`shrink?`). That could fail, by running out of bytes,
and never does (`isSome_dedent?`).
-/

namespace DocBlock.Text

/-- The text without a line feed at its start. -/
def withoutFirstFeed (t : Text) : Text := if t.head? == some '\n' then t.tail else t

/-- The lines without the last of several, if that holds only spaces and tabs. -/
def withoutBlankEnd (all : List Text) : List Text :=
  if 1 < all.length && all.getLast?.any (·.all Byte.isBlank) then all.dropLast else all

/-- The lines of a text, without an empty first line and without a last line of spaces and tabs. -/
def innerLines (t : Text) : List Text := withoutBlankEnd (lines (withoutFirstFeed t))

/-- The spaces and tabs at the start of a line. -/
def indentation (line : Text) : Text := line.takeWhile Byte.isBlank

/-- Take bytes off the end of `shared` until `indent` starts with what is left. There is no result
if a byte has to be taken off the empty text. -/
def shrink? (indent shared : Text) : Option Text :=
  if shared.isPrefixOf indent then some shared
  else if shared = [] then none
  else shrink? indent shared.dropLast
termination_by shared.length
decreasing_by
  have hpos : 0 < shared.length := List.length_pos_iff.mpr ‹shared ≠ []›
  rw [List.length_dropLast]
  omega

/-- The indentation that all the lines share: that of the first, shrunk for each of the others. -/
def sharedIndentation? : List Text → Option Text
  | [] => some []
  | line :: others =>
    others.foldlM (fun shared other => shrink? (indentation other) shared) (indentation line)

/-- A line without the shared indentation, and nothing of a line that is blank. -/
def unindented (shared line : Text) : Text :=
  if isBlank line then [] else (shared.isPrefixOf? line).getD line

/-- A text without the indentation that its lines share, if that is found. -/
def dedent? (t : Text) : Option Text :=
  (sharedIndentation? ((innerLines t).filter (!isBlank ·))).map fun shared =>
    join "\n" ((innerLines t).map (unindented shared))

/-- Shrinking ends with the empty text at the latest, and no byte is taken off that. -/
theorem isSome_shrink? (indent shared : Text) : (shrink? indent shared).isSome = true := by
  fun_induction shrink? indent shared with
  | case1 => rfl
  | case2 h => exact absurd List.isPrefixOf_nil_left h
  | case3 _ _ _ ih => exact ih

theorem isSome_sharedIndentation? (ls : List Text) : (sharedIndentation? ls).isSome = true := by
  cases ls with
  | nil => rfl
  | cons line others =>
    rw [sharedIndentation?]
    generalize indentation line = shared
    induction others generalizing shared with
    | nil => rfl
    | cons other others ih =>
      obtain ⟨smaller, hsmaller⟩ :=
        Option.isSome_iff_exists.mp (isSome_shrink? (indentation other) shared)
      rw [List.foldlM_cons, hsmaller]
      exact ih smaller

theorem isSome_dedent? (t : Text) : (dedent? t).isSome = true := by
  rw [dedent?, Option.isSome_map]
  exact isSome_sharedIndentation? _

/-- A text without the indentation that its lines share. Blank lines become empty. -/
def dedent (t : Text) : Text := (dedent? t).get (isSome_dedent? t)

end DocBlock.Text
