import Mathlib.Data.List.TakeWhile
import DocBlock.Proofs.Declaration

/-!
# What each rule for declarations accepts

A rule reads its line from the left, and every step of it is a reader that leaves a rest. This file
says for each reader exactly when it succeeds and with what: an identifier is read as far as its
word goes (`identifier?_eq_some_iff`), an equals sign with any spaces around it
(`assigned?_eq_some_iff`), and a member as two words with a separator between them
(`memberAfter?_eq_some_iff`). So a text has one first word (`word_unique`) and one assigned part
(`Assigns.unique`), and no rule has a choice in how it reads.

For the rules themselves that gives the lines they accept, written out from left to right:

> `functionStatement?_eq_some_iff`, `functionVariable?_eq_some_iff`, `method?_eq_some_iff`,
> `property?_eq_some_iff`, `binding?_eq_some_iff`.
-/

namespace DocBlock

instance (t : Text) : Decidable (IsIdentifier t) :=
  haveI : Decidable (∀ b ∈ t, Byte.isWord b = true) := List.decidableBAll _ t
  inferInstanceAs (Decidable (_ ∧ _))

theorem IsIdentifier.append {s t : Text} (hs : IsIdentifier s) (ht : IsIdentifier t) :
    IsIdentifier (s ++ t) := by
  refine ⟨List.append_ne_nil_of_left_ne_nil hs.1 t, fun b hb => ?_⟩
  rcases List.mem_append.mp hb with hb | hb
  · exact hs.2 b hb
  · exact ht.2 b hb

theorem IsIdentifier.head?_ne {name : Text} (h : IsIdentifier name) (rest : Text) :
    (name ++ rest).head? ≠ some ((' ' : Char) : UInt8) := by
  obtain ⟨b, name, rfl⟩ := List.exists_cons_of_ne_nil h.1
  intro hhead
  have hb := h.2 b (List.mem_cons_self ..)
  rw [Option.some.inj hhead] at hb
  exact absurd hb (by decide)

namespace Declaration

/-! ## Reading a word and an equals sign -/

/-- A text at whose start no word goes on. -/
def EndsWord (t : Text) : Prop := ∀ b ∈ t.head?, Byte.isWord b = false

/-- An equals sign, with any number of spaces around it, and what is assigned. -/
def Assigns (t right : Text) : Prop :=
  ∃ before after, t = Text.spaces before ++ "=" ++ Text.spaces after ++ right

section
variable {t rest name right : Text}

/-- An identifier is read as far as its word goes. -/
theorem identifier?_eq_some_iff :
    identifier? t = some (name, rest) ↔ t = name ++ rest ∧ IsIdentifier name ∧ EndsWord rest := by
  constructor
  · intro h
    rw [identifier?] at h
    split at h
    next => cases h
    next word hne =>
      obtain ⟨rfl, rfl⟩ := Prod.mk.inj (Option.some.inj h)
      refine ⟨List.takeWhile_append_dropWhile.symm,
        ⟨hne, fun b hb => List.mem_takeWhile_imp hb⟩, fun b hb => ?_⟩
      have hstop := List.head?_dropWhile_not Byte.isWord t
      rw [hb] at hstop
      simpa using hstop
  · rintro ⟨rfl, ⟨hne, hword⟩, hrest⟩
    have htake : (name ++ rest).takeWhile Byte.isWord = name := by
      rw [List.takeWhile_append_of_pos hword]
      cases rest with
      | nil => exact List.append_nil name
      | cons b rest =>
        rw [List.takeWhile_cons_of_neg (by simp [hrest b rfl]), List.append_nil]
    have hdrop : (name ++ rest).dropWhile Byte.isWord = rest := by
      rw [List.dropWhile_append_of_pos hword]
      cases rest with
      | nil => rfl
      | cons b rest => exact List.dropWhile_cons_of_neg (by simp [hrest b rfl])
    obtain ⟨b, name, rfl⟩ := List.exists_cons_of_ne_nil hne
    rw [identifier?, htake, hdrop]

/-- A text has one first word. -/
theorem word_unique {word word' rest' : Text} (hword : IsIdentifier word) (hrest : EndsWord rest)
    (hword' : IsIdentifier word') (hrest' : EndsWord rest') (h : word ++ rest = word' ++ rest') :
    word = word' ∧ rest = rest' := by
  have hread := identifier?_eq_some_iff.mpr ⟨rfl, hword, hrest⟩
  have hread' := identifier?_eq_some_iff.mpr ⟨h, hword', hrest'⟩
  exact Prod.mk.inj (Option.some.inj (hread.symm.trans hread'))

theorem head?_skipSpaces_ne (t : Text) :
    (Text.skipSpaces t).head? ≠ some ((' ' : Char) : UInt8) := by
  intro hhead
  have hstop := List.head?_dropWhile_not (· == ((' ' : Char) : UInt8)) t
  rw [Text.skipSpaces] at hhead
  rw [hhead] at hstop
  exact absurd hstop (by decide)

theorem assigned?_eq_some_iff :
    assigned? t = some right ↔ Assigns t right ∧ right.head? ≠ some ((' ' : Char) : UInt8) := by
  constructor
  · intro h
    obtain ⟨r, hr, rfl⟩ := Option.map_eq_some_iff.mp h
    refine ⟨?_, head?_skipSpaces_ne r⟩
    obtain ⟨before, hbefore⟩ := Source.eq_spaces_append_skipSpaces t
    obtain ⟨after, hafter⟩ := Source.eq_spaces_append_skipSpaces r
    refine ⟨before, after, ?_⟩
    rw [List.append_assoc _ (Text.spaces after), ← hafter, List.append_assoc,
      ← Text.isPrefixOf?_eq_some_iff.mp hr]
    exact hbefore
  · rintro ⟨⟨before, after, rfl⟩, hright⟩
    have hsign : Text.skipSpaces (Text.spaces before ++ "=" ++ Text.spaces after ++ right)
        = "=" ++ (Text.spaces after ++ right) := by
      rw [List.append_assoc, List.append_assoc]
      refine Source.skipSpaces_spaces_append before ?_
      show some (('=' : Char) : UInt8) ≠ some ((' ' : Char) : UInt8)
      decide
    rw [assigned?, hsign, Text.isPrefixOf?_eq_some_iff.mpr rfl, Option.map_some,
      Source.skipSpaces_spaces_append after hright]

theorem Assigns.unique {right' : Text} (h : Assigns t right)
    (hright : right.head? ≠ some ((' ' : Char) : UInt8)) (h' : Assigns t right')
    (hright' : right'.head? ≠ some ((' ' : Char) : UInt8)) : right = right' :=
  Option.some.inj ((assigned?_eq_some_iff.mpr ⟨h, hright⟩).symm.trans
    (assigned?_eq_some_iff.mpr ⟨h', hright'⟩))

/-- What stands before an assigned part starts with a space or the equals sign. -/
theorem Assigns.head? (h : Assigns t right) :
    t.head? = some ((' ' : Char) : UInt8) ∨ t.head? = some (('=' : Char) : UInt8) := by
  obtain ⟨before, after, rfl⟩ := h
  cases before with
  | zero => exact Or.inr rfl
  | succ before => exact Or.inl rfl

theorem Assigns.head?_ne_dot (h : Assigns t right) : t.head? ≠ some (('.' : Char) : UInt8) := by
  rcases h.head? with hhead | hhead
  · rw [hhead]
    decide
  · rw [hhead]
    decide

theorem Assigns.endsWord (h : Assigns t right) : EndsWord t := by
  intro b hb
  rcases h.head? with hhead | hhead
  · rw [hhead] at hb
    cases hb
    decide
  · rw [hhead] at hb
    cases hb
    decide

end

/-! ## Reading a member -/

section
variable {line name rest : Text} {owner : Owner}

theorem endsWord_of_dot {t : Text} (h : t.head? = some (('.' : Char) : UInt8)) : EndsWord t := by
  intro b hb
  rw [h] at hb
  cases hb
  decide

/-- A word, a separator and a name at the start of a line. Both readers of members do this. -/
def memberAfter? (make : Text → Owner) (dot line : Text) : Option (Owner × Text × Text) := do
  let (word, rest) ← identifier? line
  let rest ← dot.isPrefixOf? rest
  let (name, rest) ← identifier? rest
  return (make word, name, rest)

theorem prototypeMember?_eq : prototypeMember? = memberAfter? .prototype ".prototype." := rfl

theorem objectMember?_eq : objectMember? = memberAfter? .object "." := rfl

variable {make : Text → Owner} {dot : Text}

theorem memberAfter?_eq_some_iff (hdot : ∀ t, (dot ++ t).head? = some (('.' : Char) : UInt8)) :
    memberAfter? make dot line = some (owner, name, rest) ↔
      ∃ word, owner = make word ∧ IsIdentifier word ∧ IsIdentifier name ∧ EndsWord rest ∧
        line = word ++ (dot ++ (name ++ rest)) := by
  constructor
  · intro h
    obtain ⟨⟨word, r⟩, hword, h⟩ := Option.bind_eq_some_iff.mp h
    obtain ⟨s, hs, h⟩ := Option.bind_eq_some_iff.mp h
    obtain ⟨⟨name, u⟩, hname, h⟩ := Option.bind_eq_some_iff.mp h
    cases h
    obtain ⟨hline, hword, -⟩ := identifier?_eq_some_iff.mp hword
    obtain ⟨hs', hname, hrest⟩ := identifier?_eq_some_iff.mp hname
    refine ⟨word, rfl, hword, hname, hrest, ?_⟩
    rw [← hs', ← Text.isPrefixOf?_eq_some_iff.mp hs]
    exact hline
  · rintro ⟨word, rfl, hword, hname, hrest, hline⟩
    have hread := identifier?_eq_some_iff.mpr ⟨hline, hword, endsWord_of_dot (hdot _)⟩
    refine Option.bind_eq_some_iff.mpr ⟨_, hread, ?_⟩
    refine Option.bind_eq_some_iff.mpr ⟨_, Text.isPrefixOf?_eq_some_iff.mpr rfl, ?_⟩
    exact Option.bind_eq_some_iff.mpr ⟨_, identifier?_eq_some_iff.mpr ⟨rfl, hname, hrest⟩, rfl⟩

/-- A line with no dot after its first word has no member. -/
theorem memberAfter?_eq_none (hdot : ∀ t, (dot ++ t).head? = some (('.' : Char) : UInt8))
    {word : Text} (hword : IsIdentifier word) (hrest : EndsWord rest)
    (hne : rest.head? ≠ some (('.' : Char) : UInt8)) :
    memberAfter? make dot (word ++ rest) = none := by
  rw [Option.eq_none_iff_forall_ne_some]
  rintro ⟨owner, name, t⟩ h
  obtain ⟨first, -, hfirst, -, -, hline⟩ := (memberAfter?_eq_some_iff hdot).mp h
  obtain ⟨-, rfl⟩ := word_unique hword hrest hfirst (endsWord_of_dot (hdot _)) hline
  exact hne (hdot _)

/-- The reader for the kind of member that an owner has. -/
def readerOf : Owner → Text → Option (Owner × Text × Text)
  | .prototype _ => prototypeMember?
  | .object _ => objectMember?

theorem readerOf_path (howner : IsIdentifier owner.word) (hname : IsIdentifier name)
    (hrest : EndsWord rest) :
    readerOf owner (owner.path ++ name ++ rest) = some (owner, name, rest) := by
  cases owner with
  | prototype constructor =>
    rw [readerOf, prototypeMember?_eq, memberAfter?_eq_some_iff fun _ => rfl]
    exact ⟨constructor, rfl, howner, hname, hrest, by simp only [Owner.path, List.append_assoc]⟩
  | object receiver =>
    rw [readerOf, objectMember?_eq, memberAfter?_eq_some_iff fun _ => rfl]
    exact ⟨receiver, rfl, howner, hname, hrest, by simp only [Owner.path, List.append_assoc]⟩

/-- What either reader reads is the path of a member and its name. -/
theorem eq_path_of_member (h : prototypeMember? line = some (owner, name, rest) ∨
    objectMember? line = some (owner, name, rest)) :
    IsIdentifier owner.word ∧ IsIdentifier name ∧ line = owner.path ++ name ++ rest := by
  rcases h with h | h
  · rw [prototypeMember?_eq, memberAfter?_eq_some_iff fun _ => rfl] at h
    obtain ⟨word, rfl, hword, hname, -, rfl⟩ := h
    exact ⟨hword, hname, by simp only [Owner.path, List.append_assoc]⟩
  · rw [objectMember?_eq, memberAfter?_eq_some_iff fun _ => rfl] at h
    obtain ⟨word, rfl, hword, hname, -, rfl⟩ := h
    exact ⟨hword, hname, by simp only [Owner.path, List.append_assoc]⟩

/-- A member of an object is none of a prototype, unless a dot follows its name. -/
theorem prototypeMember?_object {receiver : Text} (hreceiver : IsIdentifier receiver)
    (hname : IsIdentifier name) (hrest : EndsWord rest)
    (hne : rest.head? ≠ some (('.' : Char) : UInt8)) :
    prototypeMember? ((Owner.object receiver).path ++ name ++ rest) = none := by
  rw [Option.eq_none_iff_forall_ne_some]
  rintro ⟨owner, name', rest'⟩ h
  rw [prototypeMember?_eq, memberAfter?_eq_some_iff fun _ => rfl] at h
  obtain ⟨word, -, hword, -, -, hline⟩ := h
  simp only [Owner.path, List.append_assoc] at hline
  obtain ⟨-, hdot⟩ := word_unique hreceiver (endsWord_of_dot rfl) hword (endsWord_of_dot rfl) hline
  -- The name would be `prototype`, and the dot after it would follow.
  have hword' : IsIdentifier "prototype" := by decide
  have hafter : name ++ rest = "prototype" ++ ("." ++ (name' ++ rest')) :=
    (List.cons.inj hdot).2
  obtain ⟨-, rfl⟩ := word_unique hname hrest hword' (endsWord_of_dot rfl) hafter
  exact hne rfl

end

/-! ## What each rule accepts -/

/-- A text that can be a value: it starts neither with white space nor with a semicolon. -/
def StartsValue (v : Text) : Prop :=
  ∃ b ∈ v.head?, b ∉ ([' ', '\t', '\n', 0x0C, '\r', ';'] : Text)

section
variable {line : Text} {d : Declaration}

theorem startsValue_cons {b : UInt8} {t : Text} : StartsValue (b :: t) ↔ endsValue b = false := by
  simp [StartsValue, endsValue, and_assoc]

theorem value?_eq_some_iff {t value : Text} :
    value? t = some value ↔ StartsValue t ∧ value = Text.trimRight t := by
  cases t with
  | nil => simp [value?, StartsValue]
  | cons b t =>
    rw [value?, startsValue_cons]
    cases endsValue b with
    | true => simp
    | false => simp [eq_comm]

theorem StartsValue.head?_ne {v : Text} (h : StartsValue v) :
    v.head? ≠ some ((' ' : Char) : UInt8) := by
  obtain ⟨b, hb, hnot⟩ := h
  intro hspace
  rw [hb] at hspace
  cases hspace
  exact hnot (List.mem_cons_self ..)

theorem head?_function_append (rest : Text) :
    (("function" : Text) ++ rest).head? ≠ some ((' ' : Char) : UInt8) := by
  show some (('f' : Char) : UInt8) ≠ some ((' ' : Char) : UInt8)
  decide

theorem endsWord_spaces_append (n : Nat) {t : Text} (h : EndsWord t) :
    EndsWord (Text.spaces n ++ t) := by
  cases n with
  | zero => exact h
  | succ n =>
    rintro b ⟨⟩
    decide

theorem guard_isFunction (rest : Text) :
    (guard (isFunction ("function" ++ rest)) : Option Unit) = some () := by
  have hstart : isFunction ("function" ++ rest) = true :=
    List.isPrefixOf_iff_prefix.mpr (List.prefix_append _ _)
  rw [hstart]
  rfl

theorem exists_of_guard_isFunction {right : Text} {u : Unit}
    (h : (guard (isFunction right) : Option Unit) = some u) :
    ∃ rest, right = "function" ++ rest := by
  by_cases hright : isFunction right = true
  · obtain ⟨rest, hrest⟩ := List.isPrefixOf_iff_prefix.mp hright
    exact ⟨rest, hrest.symm⟩
  · rw [guard, if_neg hright] at h
    cases h

theorem functionStatement?_eq_some_iff :
    functionStatement? line = some d ↔ ∃ name n rest, IsIdentifier name ∧
      line = "function " ++ name ++ Text.spaces n ++ "(" ++ rest ∧ d = .function name := by
  constructor
  · intro h
    obtain ⟨r, hr, h⟩ := Option.bind_eq_some_iff.mp h
    obtain ⟨⟨name, s⟩, hname, h⟩ := Option.bind_eq_some_iff.mp h
    obtain ⟨_, hopen, h⟩ := Option.bind_eq_some_iff.mp h
    cases h
    obtain ⟨rfl, hname, -⟩ := identifier?_eq_some_iff.mp hname
    obtain ⟨n, hn⟩ := Source.eq_spaces_append_skipSpaces s
    obtain ⟨rest, hrest⟩ : ∃ rest, Text.skipSpaces s = "(" ++ rest := by
      have hhead : (Text.skipSpaces s).head? = some (('(' : Char) : UInt8) := by
        by_contra hne
        rw [guard, if_neg (by simpa using hne)] at hopen
        cases hopen
      exact List.head?_eq_some_iff.mp hhead
    refine ⟨name, n, rest, hname, ?_, rfl⟩
    rw [hrest] at hn
    rw [Text.isPrefixOf?_eq_some_iff.mp hr, hn]
    simp only [List.append_assoc]
  · rintro ⟨name, n, rest, hname, rfl, rfl⟩
    have hskip : Text.skipSpaces (Text.spaces n ++ ("(" ++ rest)) = "(" ++ rest := by
      refine Source.skipSpaces_spaces_append n ?_
      show some (('(' : Char) : UInt8) ≠ some ((' ' : Char) : UInt8)
      decide
    have hstart : ("function " : Text).isPrefixOf?
        ("function " ++ name ++ Text.spaces n ++ "(" ++ rest)
          = some (name ++ (Text.spaces n ++ ("(" ++ rest))) := by
      rw [Text.isPrefixOf?_eq_some_iff]
      simp only [List.append_assoc]
    have hread : identifier? (name ++ (Text.spaces n ++ ("(" ++ rest)))
        = some (name, Text.spaces n ++ ("(" ++ rest)) := by
      refine identifier?_eq_some_iff.mpr ⟨rfl, hname, endsWord_spaces_append n ?_⟩
      rintro b ⟨⟩
      decide
    rw [functionStatement?, hstart]
    refine Option.bind_eq_some_iff.mpr ⟨_, rfl, Option.bind_eq_some_iff.mpr ⟨_, hread, ?_⟩⟩
    refine Option.bind_eq_some_iff.mpr ⟨(), ?_, rfl⟩
    rw [hskip]
    rfl

/-- The name after `var`, with the spaces before it, and what follows it. -/
theorem identifier?_skipSpaces {r name t : Text} :
    identifier? (Text.skipSpaces r) = some (name, t) ↔
      ∃ n, r = Text.spaces n ++ (name ++ t) ∧ IsIdentifier name ∧ EndsWord t := by
  constructor
  · intro h
    obtain ⟨hskip, hname, ht⟩ := identifier?_eq_some_iff.mp h
    obtain ⟨n, hn⟩ := Source.eq_spaces_append_skipSpaces r
    exact ⟨n, by rw [← hskip]; exact hn, hname, ht⟩
  · rintro ⟨n, rfl, hname, ht⟩
    rw [Source.skipSpaces_spaces_append n (hname.head?_ne t)]
    exact identifier?_eq_some_iff.mpr ⟨rfl, hname, ht⟩

/-- A line has one name after `var`. -/
theorem variable_unique {n n' : Nat} {name name' t t' : Text} (hname : IsIdentifier name)
    (ht : EndsWord t) (hname' : IsIdentifier name') (ht' : EndsWord t')
    (h : ("var" : Text) ++ Text.spaces n ++ name ++ t = "var" ++ Text.spaces n' ++ name' ++ t') :
    name = name' ∧ t = t' := by
  simp only [List.append_assoc] at h
  have hread := identifier?_skipSpaces.mpr ⟨n, rfl, hname, ht⟩
  have hread' := identifier?_skipSpaces.mpr ⟨n', List.append_cancel_left h, hname', ht'⟩
  exact Prod.mk.inj (Option.some.inj (hread.symm.trans hread'))

/-- A variable is declared by the same name, whatever number of spaces stand before it. -/
theorem functionVariable?_eq_some_iff :
    functionVariable? line = some d ↔ ∃ n name t rest, IsIdentifier name ∧
      Assigns t ("function" ++ rest) ∧ line = "var" ++ Text.spaces n ++ name ++ t ∧
      d = .function name := by
  constructor
  · intro h
    obtain ⟨r, hr, h⟩ := Option.bind_eq_some_iff.mp h
    obtain ⟨⟨name, t⟩, hname, h⟩ := Option.bind_eq_some_iff.mp h
    obtain ⟨right, hright, h⟩ := Option.bind_eq_some_iff.mp h
    obtain ⟨_, hfunction, h⟩ := Option.bind_eq_some_iff.mp h
    cases h
    obtain ⟨n, rfl, hname, -⟩ := identifier?_skipSpaces.mp hname
    obtain ⟨rest, rfl⟩ := exists_of_guard_isFunction hfunction
    refine ⟨n, name, t, rest, hname, (assigned?_eq_some_iff.mp hright).1, ?_, rfl⟩
    rw [Text.isPrefixOf?_eq_some_iff.mp hr]
    simp only [List.append_assoc]
  · rintro ⟨n, name, t, rest, hname, ht, rfl, rfl⟩
    have hstart : ("var" : Text).isPrefixOf? ("var" ++ Text.spaces n ++ name ++ t)
        = some (Text.spaces n ++ (name ++ t)) := by
      rw [Text.isPrefixOf?_eq_some_iff]
      simp only [List.append_assoc]
    have hread := identifier?_skipSpaces.mpr ⟨n, rfl, hname, ht.endsWord⟩
    have hright := assigned?_eq_some_iff.mpr ⟨ht, head?_function_append rest⟩
    rw [functionVariable?, hstart]
    refine Option.bind_eq_some_iff.mpr ⟨_, rfl, Option.bind_eq_some_iff.mpr ⟨_, hread, ?_⟩⟩
    refine Option.bind_eq_some_iff.mpr ⟨_, hright, ?_⟩
    exact Option.bind_eq_some_iff.mpr ⟨(), guard_isFunction rest, rfl⟩

theorem method?_eq_some_iff {member? : Text → Option (Owner × Text × Text)} :
    method? member? line = some d ↔ ∃ owner name t rest, member? line = some (owner, name, t) ∧
      Assigns t ("function" ++ rest) ∧ d = .method owner name := by
  constructor
  · intro h
    obtain ⟨⟨owner, name, t⟩, hmember, h⟩ := Option.bind_eq_some_iff.mp h
    obtain ⟨right, hright, h⟩ := Option.bind_eq_some_iff.mp h
    obtain ⟨_, hfunction, h⟩ := Option.bind_eq_some_iff.mp h
    cases h
    obtain ⟨rest, rfl⟩ := exists_of_guard_isFunction hfunction
    exact ⟨owner, name, t, rest, hmember, (assigned?_eq_some_iff.mp hright).1, rfl⟩
  · rintro ⟨owner, name, t, rest, hmember, ht, rfl⟩
    have hright := assigned?_eq_some_iff.mpr ⟨ht, head?_function_append rest⟩
    refine Option.bind_eq_some_iff.mpr ⟨_, hmember, Option.bind_eq_some_iff.mpr ⟨_, hright, ?_⟩⟩
    exact Option.bind_eq_some_iff.mpr ⟨(), guard_isFunction rest, rfl⟩

theorem property?_eq_some_iff {member? : Text → Option (Owner × Text × Text)} :
    property? member? line = some d ↔ ∃ owner name t v, member? line = some (owner, name, t) ∧
      Assigns t v ∧ StartsValue v ∧ d = .property owner name (Text.trimRight v) := by
  constructor
  · intro h
    obtain ⟨⟨owner, name, t⟩, hmember, h⟩ := Option.bind_eq_some_iff.mp h
    obtain ⟨right, hright, h⟩ := Option.bind_eq_some_iff.mp h
    obtain ⟨value, hvalue, h⟩ := Option.bind_eq_some_iff.mp h
    cases h
    obtain ⟨hstarts, rfl⟩ := value?_eq_some_iff.mp hvalue
    exact ⟨owner, name, t, right, hmember, (assigned?_eq_some_iff.mp hright).1, hstarts, rfl⟩
  · rintro ⟨owner, name, t, v, hmember, ht, hv, rfl⟩
    have hright := assigned?_eq_some_iff.mpr ⟨ht, hv.head?_ne⟩
    have hvalue := value?_eq_some_iff.mpr ⟨hv, rfl⟩
    simp only [property?, hmember, hright, hvalue, Option.bind_eq_bind, Option.bind_some]
    rfl

theorem member_eq_none {member? : Text → Option (Owner × Text × Text)} (h : member? line = none) :
    method? member? line = none ∧ property? member? line = none := by
  constructor
  · rw [method?, h]
    rfl
  · rw [property?, h]
    rfl

theorem binding?_eq_some_iff :
    binding? line = some d ↔ ∃ n name t v, IsIdentifier name ∧ Assigns t v ∧ StartsValue v ∧
      line = "var" ++ Text.spaces (n + 1) ++ name ++ t ∧ d = .binding name (Text.trimRight v) := by
  have hspaces : ∀ (n : Nat) (t : Text),
      ("var" : Text) ++ Text.spaces (n + 1) ++ t = "var " ++ (Text.spaces n ++ t) :=
    fun n t => rfl
  constructor
  · intro h
    obtain ⟨r, hr, h⟩ := Option.bind_eq_some_iff.mp h
    obtain ⟨⟨name, t⟩, hname, h⟩ := Option.bind_eq_some_iff.mp h
    obtain ⟨right, hright, h⟩ := Option.bind_eq_some_iff.mp h
    obtain ⟨value, hvalue, h⟩ := Option.bind_eq_some_iff.mp h
    cases h
    obtain ⟨n, rfl, hname, -⟩ := identifier?_skipSpaces.mp hname
    obtain ⟨hstarts, rfl⟩ := value?_eq_some_iff.mp hvalue
    refine ⟨n, name, t, right, hname, (assigned?_eq_some_iff.mp hright).1, hstarts, ?_, rfl⟩
    rw [List.append_assoc, hspaces]
    exact Text.isPrefixOf?_eq_some_iff.mp hr
  · rintro ⟨n, name, t, v, hname, ht, hv, rfl, rfl⟩
    have hstart : ("var " : Text).isPrefixOf? ("var" ++ Text.spaces (n + 1) ++ name ++ t)
        = some (Text.spaces n ++ (name ++ t)) := by
      rw [Text.isPrefixOf?_eq_some_iff, List.append_assoc, hspaces]
    have hread := identifier?_skipSpaces.mpr ⟨n, rfl, hname, ht.endsWord⟩
    have hright := assigned?_eq_some_iff.mpr ⟨ht, hv.head?_ne⟩
    have hvalue := value?_eq_some_iff.mpr ⟨hv, rfl⟩
    simp only [binding?, hstart, hread, hright, hvalue, Option.bind_eq_bind, Option.bind_some]
    rfl

end

end Declaration

end DocBlock
