import DocBlock.Proofs.Declaration.Grammar

/-!
# Where the words of a declaration end

The words that a declaration is made of should be whole words of its line: its name, what a member
is assigned on, and the word `function` of an assigned function (`RespectsWords`). Every rule reads
a word to its end, so no word is cut off behind. But two keywords are looked for by their letters
alone. No space is needed after `var` where a function follows (`CutsName`), and anything may follow
the letters `function` (`CutsKeyword`).

> `infer?_respectsWords`: the words of a declaration are whole words, those two cases apart; and in
> those two cases a function or a method is declared all the same.

So `varx = function` declares a function `x`, and `a.b = functional` a method
(`infer?_cuts_words`).
-/

namespace DocBlock.Declaration

/-! ## Whole words -/

instance (t : Text) : Decidable (EndsWord t) := Option.decidableForallMem t.head?

/-- The word occurs in the line with no letter, digit or underscore right before or after it. -/
def OccursWhole (word line : Text) : Prop :=
  ∃ before after, line = before ++ word ++ after ∧
    (∀ b ∈ before.getLast?, Byte.isWord b = false) ∧ EndsWord after

/-- The text starts with the word, and the word ends there. -/
def StartsWhole (word t : Text) : Prop := word <+: t ∧ EndsWord (t.drop word.length)

/-- The text starts with a longer word that begins with this one. -/
def RunsOn (word t : Text) : Prop := word <+: t ∧ ¬ EndsWord (t.drop word.length)

/-- What is assigned in a line: the text after its first equals sign and the spaces there. -/
def assignedPart (line : Text) : Text := Text.skipSpaces (Text.after "=" line)

/-- Whether a declaration is that of an assigned function. -/
def IsAssignedFunction (line : Text) : Declaration → Prop
  | .method _ _ => True
  | .function _ => ("var" : Text) <+: line
  | .property _ _ _ | .binding _ _ => False

/-- The words of a declaration are whole words of its line. -/
structure RespectsWords (line : Text) (d : Declaration) : Prop where
  name : OccursWhole d.name line
  owner : ∀ word ∈ [d.constructor, d.receiver], word ≠ [] → OccursWhole word line
  keyword : IsAssignedFunction line d → StartsWhole "function" (assignedPart line)

/-- The name of a function is what follows the letters `var` in a longer word. -/
def CutsName (line : Text) (d : Declaration) : Prop :=
  RunsOn "var" line ∧ ∃ name, d = .function name

/-- The assigned part starts with a word that only begins with the letters `function`. -/
def CutsKeyword (line : Text) (d : Declaration) : Prop :=
  IsAssignedFunction line d ∧ RunsOn "function" (assignedPart line)

section
variable {word line lead name t right rest : Text}

/-- An occurrence that is whole can be found by its place. -/
theorem occursWhole_iff : OccursWhole word line ↔
    ∃ k ∈ List.range (line.length + 1), line = line.take k ++ word ++ line.drop (k + word.length) ∧
      EndsWord (line.take k).reverse ∧ EndsWord (line.drop (k + word.length)) := by
  simp only [OccursWhole, EndsWord, List.head?_reverse]
  constructor
  · rintro ⟨before, after, rfl, hbefore, hafter⟩
    have htake : (before ++ word ++ after).take before.length = before := by
      rw [List.append_assoc, List.take_left]
    have hdrop : (before ++ word ++ after).drop (before.length + word.length) = after := by
      rw [← List.length_append, List.drop_left]
    refine ⟨before.length, ?_, ?_⟩
    · simp only [List.mem_range, List.length_append]
      omega
    · rw [htake, hdrop]
      exact ⟨rfl, hbefore, hafter⟩
  · rintro ⟨k, -, hline, hbefore, hafter⟩
    exact ⟨_, _, hline, hbefore, hafter⟩

instance (word line : Text) : Decidable (OccursWhole word line) :=
  decidable_of_iff _ occursWhole_iff.symm

instance (word t : Text) : Decidable (StartsWhole word t) := inferInstanceAs (Decidable (_ ∧ _))

instance (word t : Text) : Decidable (RunsOn word t) := inferInstanceAs (Decidable (_ ∧ ¬ _))

theorem startsWhole_append : StartsWhole word (word ++ rest) ↔ EndsWord rest := by
  rw [StartsWhole, List.drop_left]
  exact and_iff_right (List.prefix_append word rest)

theorem runsOn_append : RunsOn word (word ++ rest) ↔ ¬ EndsWord rest := by
  rw [RunsOn, List.drop_left]
  exact and_iff_right (List.prefix_append word rest)

/-! ## The assigned part -/

theorem ne_sign_of_isWord {b : UInt8} (h : Byte.isWord b = true) : b ≠ '=' := by
  rintro rfl
  exact absurd h (by decide)

theorem sign_not_mem_word (h : IsIdentifier word) : (('=' : Char) : UInt8) ∉ word :=
  fun hb => ne_sign_of_isWord (h.2 _ hb) rfl

theorem sign_not_mem_spaces (n : Nat) : (('=' : Char) : UInt8) ∉ Text.spaces n :=
  fun hb => absurd (Text.eq_space_of_mem_spaces hb) (by decide)

theorem after_sign (hlead : (('=' : Char) : UInt8) ∉ lead) (rest : Text) :
    Text.after "=" (lead ++ "=" ++ rest) = rest := by
  have hcut : Text.cut "=" (lead ++ "=" ++ rest) = some (lead, rest) := by
    refine Text.cut_append rest (by decide) fun hin => hlead ?_
    have hmem := hin.subset (List.mem_cons_self ..)
    rcases List.mem_append.mp hmem with hmem | hmem
    · exact hmem
    · cases hmem
  rw [Text.after, hcut]
  rfl

/-- What is assigned in a line stands after its first equals sign. -/
theorem assignedPart_append (hlead : (('=' : Char) : UInt8) ∉ lead) (ht : Assigns t right)
    (hright : right.head? ≠ some ((' ' : Char) : UInt8)) : assignedPart (lead ++ t) = right := by
  obtain ⟨before, after, rfl⟩ := ht
  have hline : lead ++ (Text.spaces before ++ "=" ++ Text.spaces after ++ right)
      = (lead ++ Text.spaces before) ++ "=" ++ (Text.spaces after ++ right) := by
    simp only [List.append_assoc]
  have hsign : (('=' : Char) : UInt8) ∉ lead ++ Text.spaces before := by
    rw [List.mem_append, not_or]
    exact ⟨hlead, sign_not_mem_spaces before⟩
  rw [assignedPart, hline, after_sign hsign, Source.skipSpaces_spaces_append after hright]

theorem sign_not_mem_variable (n : Nat) (hname : IsIdentifier name) :
    (('=' : Char) : UInt8) ∉ ("var" : Text) ++ Text.spaces n ++ name := by
  simp only [List.mem_append, not_or]
  exact ⟨⟨by decide, sign_not_mem_spaces n⟩, sign_not_mem_word hname⟩

theorem sign_not_mem_member {owner : Owner} (howner : IsIdentifier owner.word)
    (hname : IsIdentifier name) : (('=' : Char) : UInt8) ∉ owner.path ++ name := by
  rw [List.mem_append, not_or]
  refine ⟨?_, sign_not_mem_word hname⟩
  cases owner with
  | prototype k =>
    rw [Owner.path, List.mem_append, not_or]
    exact ⟨sign_not_mem_word howner, by decide⟩
  | object r =>
    rw [Owner.path, List.mem_append, not_or]
    exact ⟨sign_not_mem_word howner, by decide⟩

/-! ## The words of a declaration -/

variable {d : Declaration}

/-- Unless it runs on, the word of an assigned function is a whole word. -/
theorem startsWhole_function (hassigned : IsAssignedFunction line d)
    (hpart : assignedPart line = "function" ++ rest) (hcut : ¬ CutsKeyword line d) :
    StartsWhole "function" (assignedPart line) := by
  rw [hpart, startsWhole_append]
  by_contra hrest
  refine hcut ⟨hassigned, ?_⟩
  rw [hpart, runsOn_append]
  exact hrest

theorem getLast?_spaces (lead : Text) (n : Nat) :
    (lead ++ Text.spaces (n + 1)).getLast? = some ((' ' : Char) : UInt8) := by
  rw [← Text.spaces_append_space, ← List.append_assoc]
  exact List.getLast?_concat

/-- The name after `var` is a whole word if a space comes before it. -/
theorem occursWhole_variable (n : Nat) (ht : EndsWord t) :
    OccursWhole name ("var" ++ Text.spaces (n + 1) ++ name ++ t) := by
  refine ⟨_, t, rfl, fun b hb => ?_, ht⟩
  rw [getLast?_spaces] at hb
  cases hb
  decide

theorem getLast?_path (owner : Owner) : owner.path.getLast? = some (('.' : Char) : UInt8) := by
  cases owner with
  | prototype k =>
    have hdot : k ++ ".prototype." = k ++ ".prototype" ++ "." := by
      rw [List.append_assoc]
      rfl
    rw [Owner.path, hdot]
    exact List.getLast?_concat
  | object r => exact List.getLast?_concat

/-- The words of a member are whole words. -/
theorem occursWhole_member {owner : Owner} (hd : d.owner? = some owner) (ht : EndsWord t) :
    OccursWhole name (owner.path ++ name ++ t) ∧
      ∀ word ∈ [d.constructor, d.receiver], word ≠ [] →
        OccursWhole word (owner.path ++ name ++ t) := by
  refine ⟨⟨owner.path, t, rfl, fun b hb => ?_, ht⟩, ?_⟩
  · rw [getLast?_path] at hb
    cases hb
    decide
  · intro word hword hne
    cases owner with
    | prototype k =>
      obtain ⟨hconstructor, hreceiver⟩ := words_of_prototype hd
      obtain rfl : word = k := by simpa [hconstructor, hreceiver, hne] using hword
      exact ⟨[], ".prototype." ++ name ++ t, by simp [Owner.path], by simp, endsWord_of_dot rfl⟩
    | object r =>
      obtain ⟨hconstructor, hreceiver⟩ := words_of_object hd
      obtain rfl : word = r := by simpa [hconstructor, hreceiver, hne] using hword
      exact ⟨[], "." ++ name ++ t, by simp [Owner.path], by simp, endsWord_of_dot rfl⟩

/-- The words of a line that parses are whole words, but for the two keywords that run on. -/
theorem respectsWords_of_parses (h : Parses line d) (hcutsName : ¬ CutsName line d)
    (hcutsKeyword : ¬ CutsKeyword line d) : RespectsWords line d := by
  cases h with
  | @functionStatement name hname n rest =>
    have hafter : EndsWord (Text.spaces n ++ ("(" ++ rest)) := by
      refine endsWord_spaces_append n ?_
      rintro b ⟨⟩
      decide
    have hline : "function " ++ name ++ Text.spaces n ++ "(" ++ rest
        = "function " ++ name ++ (Text.spaces n ++ ("(" ++ rest)) := by
      simp only [List.append_assoc]
    refine ⟨⟨"function ", _, hline, ?_, hafter⟩, by simp [constructor, receiver], ?_⟩
    · rintro b ⟨⟩
      decide
    · rintro ⟨later, hlater⟩
      exact absurd (List.cons.inj hlater).1 (by decide)
  | @functionVariable name t rest n hname ht =>
    have hpart : assignedPart ("var" ++ Text.spaces n ++ name ++ t) = "function" ++ rest :=
      assignedPart_append (sign_not_mem_variable n hname) ht (head?_function_append rest)
    refine ⟨?_, by simp [constructor, receiver], fun hassigned =>
      startsWhole_function hassigned hpart hcutsKeyword⟩
    cases n with
    | succ n => exact occursWhole_variable n ht.endsWord
    | zero =>
      -- Without a space the name goes on from `var`.
      refine absurd ⟨?_, name, rfl⟩ hcutsName
      show RunsOn "var" ("var" ++ (name ++ t))
      rw [runsOn_append]
      obtain ⟨b, name, rfl⟩ := List.exists_cons_of_ne_nil hname.1
      intro hends
      have hb := hname.2 b (List.mem_cons_self ..)
      rw [hends b rfl] at hb
      cases hb
  | @method owner name t rest howner hname ht =>
    have hpart : assignedPart (owner.path ++ name ++ t) = "function" ++ rest :=
      assignedPart_append (sign_not_mem_member howner hname) ht (head?_function_append rest)
    obtain ⟨hwhole, howners⟩ := occursWhole_member (d := .method owner name) rfl ht.endsWord
    exact ⟨hwhole, howners, fun hassigned => startsWhole_function hassigned hpart hcutsKeyword⟩
  | @property owner name t v howner hname ht hv =>
    obtain ⟨hwhole, howners⟩ :=
      occursWhole_member (d := .property owner name (Text.trimRight v)) rfl ht.endsWord
    exact ⟨hwhole, howners, False.elim⟩
  | binding n hname ht hv =>
    exact ⟨occursWhole_variable n ht.endsWord, by simp [constructor, receiver], False.elim⟩

end

/-- The words of a declaration are whole words of its line, unless `var` runs on into the name or
`function` into a longer word. Both are accepted: whatever number of spaces follow `var`, and
whatever follows `function`, a function or a method is declared. -/
theorem infer?_respectsWords (code : Text) :
    (∀ d, infer? code = some d → ¬ CutsName (Text.firstLine code) d →
      ¬ CutsKeyword (Text.firstLine code) d → RespectsWords (Text.firstLine code) d) ∧
    (∀ n name t rest, IsIdentifier name → Assigns t ("function" ++ rest) →
      Text.firstLine code = "var" ++ Text.spaces n ++ name ++ t →
        infer? code = some (.function name)) ∧
    ∀ owner name t rest, IsIdentifier owner.word → IsIdentifier name →
      Assigns t ("function" ++ rest) → Text.firstLine code = owner.path ++ name ++ t →
        infer? code = some (.method owner name) := by
  rw [infer?_eq_ofLine?]
  simp only [ofLine?_eq_some_iff]
  refine ⟨fun d hd => respectsWords_of_parses hd, ?_, ?_⟩
  · intro n name t rest hname ht hline
    rw [hline]
    exact .functionVariable n hname ht
  · intro owner name t rest howner hname ht hline
    rw [hline]
    exact .method owner howner hname ht

/-- Whole words, and the two keywords run on. -/
theorem infer?_respectsWords_lines :
    RespectsWords "Foo.prototype.bar = function (x)" (.method (.prototype "Foo") "bar") ∧
      infer? "varx = function ()" = some (.function "x") ∧
      infer? "a.b = functional;" = some (.method (.object "a") "b") := by
  refine ⟨?_, ?_, ?_⟩
  · refine (infer?_respectsWords "Foo.prototype.bar = function (x)").1 _ (by decide +kernel) ?_ ?_
    · rintro ⟨-, name, hname⟩
      cases hname
    · rintro ⟨-, hruns⟩
      exact absurd hruns (by decide +kernel)
  · exact (infer?_respectsWords "varx = function ()").2.1 0 "x" " = function ()" " ()"
      (by decide) ⟨1, 1, rfl⟩ (by decide +kernel)
  · exact (infer?_respectsWords "a.b = functional;").2.2 (.object "a") "b" " = functional;" "al;"
      (by decide) (by decide) ⟨1, 1, rfl⟩ (by decide +kernel)

/-- A name is cut off from a longer word, and a value that is no function makes a method. -/
theorem infer?_cuts_words :
    infer? "varx = function ()" = some (.function "x") ∧
      ¬ RespectsWords (Text.firstLine "varx = function ()") (.function "x") ∧
      infer? "a.b = functional;" = some (.method (.object "a") "b") ∧
      ¬ RespectsWords (Text.firstLine "a.b = functional;") (.method (.object "a") "b") := by
  refine ⟨by decide +kernel, fun h => ?_, by decide +kernel, fun h => ?_⟩
  · exact absurd h.name (by decide +kernel)
  · exact absurd (h.keyword trivial) (by decide +kernel)

end DocBlock.Declaration
