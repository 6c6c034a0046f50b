import DocBlock.Declaration
import DocBlock.Proofs.Source.Decoration
import DocBlock.Proofs.Text.Encoding

/-!
# What a declaration is inferred from

Every rule reads its line from the left: identifiers, fixed words and spaces, and at the end a
value. All it reads before the value is ASCII (`ReadsTo`). So whichever rule accepts a line, the
names in the declaration are identifiers, and its value is the end of the line after ASCII, without
white space at its own end:

> `declares_of_infer?`: every declaration that is inferred is one of its line (`Declares`).
-/

namespace DocBlock

/-- A word that can be a name: letters, digits and underscores, at least one. -/
def IsIdentifier (t : Text) : Prop := t ≠ [] ∧ ∀ b ∈ t, Byte.isWord b = true

/-- What is left of a text after some ASCII bytes of it are read. -/
def ReadsTo (t rest : Text) : Prop := ∃ read, t = read ++ rest ∧ Text.IsAscii read

/-- The identifier that a member is assigned on. -/
def Owner.word : Owner → Text
  | .prototype constructor => constructor
  | .object receiver => receiver

theorem lt_of_isWord {b : UInt8} (h : Byte.isWord b = true) : b < 0x80 := by
  simp only [Byte.isWord, Byte.isAlphanumeric, Byte.isLetter, Byte.isDigit, Bool.or_eq_true,
    Bool.and_eq_true, decide_eq_true_eq, beq_iff_eq] at h
  rcases h with ((⟨-, hle⟩ | ⟨-, hle⟩) | ⟨-, hle⟩) | rfl
  · exact UInt8.lt_of_le_of_lt hle (by decide)
  · exact UInt8.lt_of_le_of_lt hle (by decide)
  · exact UInt8.lt_of_le_of_lt hle (by decide)
  · decide

theorem IsIdentifier.isAscii {t : Text} (h : IsIdentifier t) : Text.IsAscii t :=
  fun b hb => lt_of_isWord (h.2 b hb)

namespace ReadsTo

variable {s t u : Text}

theorem trans (hst : ReadsTo s t) (htu : ReadsTo t u) : ReadsTo s u := by
  obtain ⟨first, rfl, hfirst⟩ := hst
  obtain ⟨second, rfl, hsecond⟩ := htu
  refine ⟨first ++ second, (List.append_assoc ..).symm, fun b hb => ?_⟩
  rcases List.mem_append.mp hb with hb | hb
  · exact hfirst b hb
  · exact hsecond b hb

theorem skipSpaces (t : Text) : ReadsTo t (Text.skipSpaces t) := by
  obtain ⟨n, hn⟩ := Source.eq_spaces_append_skipSpaces t
  refine ⟨Text.spaces n, hn, fun b hb => ?_⟩
  rw [Text.eq_space_of_mem_spaces hb]
  decide

theorem of_isPrefixOf? {word : Text} (hword : Text.IsAscii word)
    (h : word.isPrefixOf? t = some u) : ReadsTo t u :=
  ⟨word, Text.isPrefixOf?_eq_some_iff.mp h, hword⟩

theorem isWellFormed (h : ReadsTo t u) (ht : Text.isWellFormed t = true) :
    Text.isWellFormed u = true := by
  obtain ⟨read, rfl, hread⟩ := h
  exact Text.isWellFormed_of_ascii_append hread ht

end ReadsTo

namespace Declaration

/-- What a member is assigned on, if a member is declared. -/
def owner? : Declaration → Option Owner
  | method owner _ | property owner _ _ => some owner
  | function _ | binding _ _ => none

section
variable {d : Declaration}

theorem words_of_prototype {k : Text} (h : d.owner? = some (.prototype k)) :
    d.constructor = k ∧ d.receiver = [] := by
  cases d <;> cases h <;> exact ⟨rfl, rfl⟩

theorem words_of_object {r : Text} (h : d.owner? = some (.object r)) :
    d.constructor = [] ∧ d.receiver = r := by
  cases d <;> cases h <;> exact ⟨rfl, rfl⟩

theorem words_of_none (h : d.owner? = none) : d.constructor = [] ∧ d.receiver = [] := by
  cases d <;> cases h <;> exact ⟨rfl, rfl⟩

end

/-- What the rules have in common: the parts of a declaration are parts of its line. -/
structure Declares (line : Text) (d : Declaration) : Prop where
  name : IsIdentifier d.name
  owner : ∀ owner ∈ d.owner?, IsIdentifier owner.word
  value : d.value = [] ∨ ∃ right, ReadsTo line right ∧ d.value = Text.trimRight right

section
variable {t line rest : Text}

theorem identifier?_spec {name : Text} (h : identifier? t = some (name, rest)) :
    IsIdentifier name ∧ ReadsTo t rest := by
  rw [identifier?] at h
  split at h
  next => exact nomatch h
  next word hne =>
    obtain ⟨rfl, rfl⟩ := Prod.mk.inj (Option.some.inj h)
    have hword : IsIdentifier (t.takeWhile Byte.isWord) :=
      ⟨hne, fun b hb => List.mem_takeWhile_imp hb⟩
    exact ⟨hword, _, List.takeWhile_append_dropWhile.symm, hword.isAscii⟩

theorem readsTo_of_assigned? (h : assigned? t = some rest) : ReadsTo t rest := by
  obtain ⟨right, hright, rfl⟩ := Option.map_eq_some_iff.mp h
  exact ((ReadsTo.skipSpaces t).trans (ReadsTo.of_isPrefixOf? (by decide) hright)).trans
    (ReadsTo.skipSpaces right)

theorem eq_trimRight_of_value? {value : Text} (h : value? t = some value) :
    value = Text.trimRight t := by
  cases t with
  | nil => exact nomatch h
  | cons b t =>
    rw [value?] at h
    split at h
    next => cases h
    next => exact (Option.some.inj h).symm

/-! ## Members -/

/-- A reader of members reads two identifiers and leaves the rest of the line. -/
def ReadsMember (member? : Text → Option (Owner × Text × Text)) : Prop :=
  ∀ line owner name rest, member? line = some (owner, name, rest) →
    IsIdentifier owner.word ∧ IsIdentifier name ∧ ReadsTo line rest

theorem prototypeMember?_readsMember : ReadsMember prototypeMember? := by
  intro line owner name rest h
  obtain ⟨⟨constructor, r⟩, hconstructor, h⟩ := Option.bind_eq_some_iff.mp h
  obtain ⟨s, hdot, h⟩ := Option.bind_eq_some_iff.mp h
  obtain ⟨⟨word, u⟩, hname, h⟩ := Option.bind_eq_some_iff.mp h
  cases h
  obtain ⟨hconstructor, hr⟩ := identifier?_spec hconstructor
  obtain ⟨hname, hu⟩ := identifier?_spec hname
  exact ⟨hconstructor, hname, (hr.trans (.of_isPrefixOf? (by decide) hdot)).trans hu⟩

theorem objectMember?_readsMember : ReadsMember objectMember? := by
  intro line owner name rest h
  obtain ⟨⟨receiver, r⟩, hreceiver, h⟩ := Option.bind_eq_some_iff.mp h
  obtain ⟨s, hdot, h⟩ := Option.bind_eq_some_iff.mp h
  obtain ⟨⟨word, u⟩, hname, h⟩ := Option.bind_eq_some_iff.mp h
  cases h
  obtain ⟨hreceiver, hr⟩ := identifier?_spec hreceiver
  obtain ⟨hname, hu⟩ := identifier?_spec hname
  exact ⟨hreceiver, hname, (hr.trans (.of_isPrefixOf? (by decide) hdot)).trans hu⟩

/-! ## Rules -/

variable {d : Declaration}

theorem declares_of_functionStatement? (h : functionStatement? line = some d) :
    Declares line d := by
  obtain ⟨r, -, h⟩ := Option.bind_eq_some_iff.mp h
  obtain ⟨⟨name, s⟩, hname, h⟩ := Option.bind_eq_some_iff.mp h
  obtain ⟨-, -, h⟩ := Option.bind_eq_some_iff.mp h
  cases h
  refine ⟨(identifier?_spec hname).1, fun owner ho => ?_, Or.inl rfl⟩
  cases ho

theorem declares_of_functionVariable? (h : functionVariable? line = some d) :
    Declares line d := by
  obtain ⟨r, -, h⟩ := Option.bind_eq_some_iff.mp h
  obtain ⟨⟨name, s⟩, hname, h⟩ := Option.bind_eq_some_iff.mp h
  obtain ⟨right, -, h⟩ := Option.bind_eq_some_iff.mp h
  obtain ⟨-, -, h⟩ := Option.bind_eq_some_iff.mp h
  cases h
  refine ⟨(identifier?_spec hname).1, fun owner ho => ?_, Or.inl rfl⟩
  cases ho

theorem declares_of_method? {member? : Text → Option (Owner × Text × Text)}
    (hmember : ReadsMember member?) (h : method? member? line = some d) : Declares line d := by
  obtain ⟨⟨owner, name, r⟩, hread, h⟩ := Option.bind_eq_some_iff.mp h
  obtain ⟨right, -, h⟩ := Option.bind_eq_some_iff.mp h
  obtain ⟨-, -, h⟩ := Option.bind_eq_some_iff.mp h
  cases h
  obtain ⟨howner, hname, -⟩ := hmember _ _ _ _ hread
  refine ⟨hname, fun o ho => ?_, Or.inl rfl⟩
  cases ho
  exact howner

theorem declares_of_property? {member? : Text → Option (Owner × Text × Text)}
    (hmember : ReadsMember member?) (h : property? member? line = some d) : Declares line d := by
  obtain ⟨⟨owner, name, r⟩, hread, h⟩ := Option.bind_eq_some_iff.mp h
  obtain ⟨right, hright, h⟩ := Option.bind_eq_some_iff.mp h
  obtain ⟨value, hvalue, h⟩ := Option.bind_eq_some_iff.mp h
  cases h
  obtain ⟨howner, hname, hr⟩ := hmember _ _ _ _ hread
  refine ⟨hname, fun o ho => ?_, Or.inr ⟨right, ?_, eq_trimRight_of_value? hvalue⟩⟩
  · cases ho
    exact howner
  · exact hr.trans (readsTo_of_assigned? hright)

theorem declares_of_binding? (h : binding? line = some d) : Declares line d := by
  obtain ⟨r, hvar, h⟩ := Option.bind_eq_some_iff.mp h
  obtain ⟨⟨name, s⟩, hname, h⟩ := Option.bind_eq_some_iff.mp h
  obtain ⟨right, hright, h⟩ := Option.bind_eq_some_iff.mp h
  obtain ⟨value, hvalue, h⟩ := Option.bind_eq_some_iff.mp h
  cases h
  obtain ⟨hname, hs⟩ := identifier?_spec hname
  refine ⟨hname, fun owner ho => ?_, Or.inr ⟨right, ?_, eq_trimRight_of_value? hvalue⟩⟩
  · cases ho
  · have hr : ReadsTo line r := ReadsTo.of_isPrefixOf? (by decide) hvar
    exact ((hr.trans (ReadsTo.skipSpaces r)).trans hs).trans (readsTo_of_assigned? hright)

end

/-- Every declaration that is inferred is one of its line. -/
theorem declares_of_infer? {code : Text} {d : Declaration} (h : infer? code = some d) :
    Declares (Text.before "\n" code) d := by
  obtain ⟨rule, hrule, h⟩ := List.exists_of_findSome?_eq_some h
  simp only [rules, List.mem_cons, List.not_mem_nil, or_false] at hrule
  rcases hrule with rfl | rfl | rfl | rfl | rfl | rfl | rfl
  · exact declares_of_functionStatement? h
  · exact declares_of_functionVariable? h
  · exact declares_of_method? prototypeMember?_readsMember h
  · exact declares_of_property? prototypeMember?_readsMember h
  · exact declares_of_method? objectMember?_readsMember h
  · exact declares_of_property? objectMember?_readsMember h
  · exact declares_of_binding? h

end Declaration

end DocBlock
