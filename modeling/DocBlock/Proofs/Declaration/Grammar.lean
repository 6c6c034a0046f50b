import DocBlock.Proofs.Declaration.Reading

/-!
# The grammar of declarations

A line declares something in one of seven forms (`Form`), each with its report. The rules look for
these forms in order, and two of them can accept the same line, since a value can start with the
word `function`. With such values left out a line has at most one form, and the first rule that
accepts the line finds it.

What keeps the forms apart is how a line starts. Its first word has a dot after it where a member is
declared, and nowhere else (`function_eq_none`, `memberAfter?_eq_none`); and the name of an object's
member has no dot after it (`prototypeMember?_object`).

> `infer?_iff_form`: what is inferred from a code text is what the form of its first line says.
-/

namespace DocBlock

/-- The first line of a text. -/
def Text.firstLine (t : Text) : Text := t.takeWhile (· != '\n')

theorem Text.firstLine_append (t later : Text) :
    Text.firstLine (Text.firstLine t ++ "\n" ++ later) = Text.firstLine t := by
  have hline : ∀ b ∈ Text.firstLine t, (b != (('\n' : Char) : UInt8)) = true :=
    fun b hb => List.mem_takeWhile_imp (p := (· != (('\n' : Char) : UInt8))) hb
  rw [List.append_assoc, Text.firstLine, List.takeWhile_append_of_pos hline]
  exact List.append_nil _

theorem Text.before_lineFeed (t : Text) : Text.before "\n" t = Text.firstLine t := by
  unfold Text.before Text.firstLine
  induction t with
  | nil => rfl
  | cons b t ih =>
    rw [Text.cut]
    by_cases hb : b = '\n'
    · subst hb
      rfl
    · have hnot : ("\n" : Text).isPrefixOf? (b :: t) = none := by
        show (if (('\n' : Char) : UInt8) == b then some t else none) = none
        rw [if_neg (by simpa using Ne.symm hb)]
      rw [hnot, List.takeWhile_cons_of_pos (by simpa using hb), ← ih]
      cases Text.cut "\n" t with
      | none => rfl
      | some parts => rfl

namespace Declaration

/-! ## The grammar -/

/-- A value other than a function. -/
structure IsValue (v : Text) : Prop where
  starts : StartsValue v
  noFunction : ¬ ("function" : Text) <+: v

theorem IsValue.not_assigns {t v rest : Text} (hv : IsValue v) (ht : Assigns t v) :
    ¬ Assigns t ("function" ++ rest) := by
  intro hfunction
  have heq := ht.unique hv.starts.head?_ne hfunction (head?_function_append rest)
  exact hv.noFunction ⟨rest, heq.symm⟩

/-- How a line parses as a declaration, with members of prototypes and of objects taken together. -/
inductive Parses : Text → Declaration → Prop where
  /-- `function N (`. -/
  | functionStatement {name : Text} (hname : IsIdentifier name) (n : Nat) (rest : Text) :
    Parses ("function " ++ name ++ Text.spaces n ++ "(" ++ rest) (.function name)
  /-- `var N = function`, where no space is needed before the name. -/
  | functionVariable {name t rest : Text} (n : Nat) (hname : IsIdentifier name)
    (ht : Assigns t ("function" ++ rest)) :
    Parses ("var" ++ Text.spaces n ++ name ++ t) (.function name)
  /-- `… = function` for a member. -/
  | method (owner : Owner) {name t rest : Text} (howner : IsIdentifier owner.word)
    (hname : IsIdentifier name) (ht : Assigns t ("function" ++ rest)) :
    Parses (owner.path ++ name ++ t) (.method owner name)
  /-- `… = V` for a member. -/
  | property (owner : Owner) {name t v : Text} (howner : IsIdentifier owner.word)
    (hname : IsIdentifier name) (ht : Assigns t v) (hv : IsValue v) :
    Parses (owner.path ++ name ++ t) (.property owner name (Text.trimRight v))
  /-- `var N = V`, where a space is needed before the name. -/
  | binding {name t v : Text} (n : Nat) (hname : IsIdentifier name) (ht : Assigns t v)
    (hv : IsValue v) :
    Parses ("var" ++ Text.spaces (n + 1) ++ name ++ t) (.binding name (Text.trimRight v))

/-- What a line declares: the rules in order. -/
def ofLine? (line : Text) : Option Declaration := rules.findSome? fun rule => rule line

theorem infer?_eq_ofLine? (code : Text) : infer? code = ofLine? (Text.firstLine code) := by
  rw [infer?, Text.before_lineFeed]
  rfl

section
variable {line name t rest v : Text} {owner : Owner} {d : Declaration}

/-! ### What a rule accepts parses -/

/-- What the two rules of a reader of members accept, one after the other, parses. -/
theorem parses_of_member {member? : Text → Option (Owner × Text × Text)}
    (hmember : ∀ owner name t, member? line = some (owner, name, t) →
      IsIdentifier owner.word ∧ IsIdentifier name ∧ line = owner.path ++ name ++ t)
    (h : method? member? line = some d ∨
      method? member? line = none ∧ property? member? line = some d) : Parses line d := by
  rcases h with h | ⟨hnone, h⟩
  · obtain ⟨owner, name, t, rest, hread, ht, rfl⟩ := method?_eq_some_iff.mp h
    obtain ⟨howner, hname, rfl⟩ := hmember _ _ _ hread
    exact .method owner howner hname ht
  · obtain ⟨owner, name, t, v, hread, ht, hv, rfl⟩ := property?_eq_some_iff.mp h
    obtain ⟨howner, hname, rfl⟩ := hmember _ _ _ hread
    refine .property owner howner hname ht ⟨hv, ?_⟩
    -- A function would have been found by the rule before.
    rintro ⟨rest, rfl⟩
    rw [method?_eq_some_iff.mpr ⟨owner, name, t, rest, hread, ht, rfl⟩] at hnone
    cases hnone

theorem findSome?_cons_eq_some_iff {α β : Type} {f : α → Option β} {a : α} {as : List α} {b : β} :
    (a :: as).findSome? f = some b ↔ f a = some b ∨ f a = none ∧ as.findSome? f = some b := by
  rw [List.findSome?_cons]
  cases f a with
  | none => simp
  | some c => simp

theorem parses_of_ofLine? (h : ofLine? line = some d) : Parses line d := by
  simp only [ofLine?, rules, findSome?_cons_eq_some_iff, List.findSome?_nil] at h
  obtain h | ⟨-, h | ⟨hvariable, h⟩⟩ := h
  · obtain ⟨name, n, rest, hname, rfl, rfl⟩ := functionStatement?_eq_some_iff.mp h
    exact .functionStatement hname n rest
  · obtain ⟨n, name, t, rest, hname, ht, rfl, rfl⟩ := functionVariable?_eq_some_iff.mp h
    exact .functionVariable n hname ht
  · have hprototype := fun owner name t (hread : prototypeMember? line = some (owner, name, t)) =>
      eq_path_of_member (.inl hread)
    have hobject := fun owner name t (hread : objectMember? line = some (owner, name, t)) =>
      eq_path_of_member (.inr hread)
    obtain h | ⟨hmethod, h | ⟨-, h | ⟨hmethod', h | ⟨-, h | h⟩⟩⟩⟩ := h
    · exact parses_of_member hprototype (.inl h)
    · exact parses_of_member hprototype (.inr ⟨hmethod, h⟩)
    · exact parses_of_member hobject (.inl h)
    · exact parses_of_member hobject (.inr ⟨hmethod', h⟩)
    · obtain ⟨n, name, t, v, hname, ht, hv, rfl, rfl⟩ := binding?_eq_some_iff.mp h
      refine .binding n hname ht ⟨hv, ?_⟩
      rintro ⟨rest, rfl⟩
      rw [functionVariable?_eq_some_iff.mpr ⟨n + 1, name, t, rest, hname, ht, rfl, rfl⟩]
        at hvariable
      cases hvariable
    · cases h.2

/-! ### What parses is accepted by its rule, and by none before it -/

/-- The first word of a line that declares a variable, which no dot follows. It is `var` itself or,
without a space in between, `var` and the name. -/
theorem exists_word_variable (n : Nat) (hname : IsIdentifier name) (ht : Assigns t v) :
    ∃ word rest, "var" ++ Text.spaces n ++ name ++ t = word ++ rest ∧ IsIdentifier word ∧
      EndsWord rest ∧ rest.head? ≠ some (('.' : Char) : UInt8) := by
  have hvar : IsIdentifier "var" := by decide
  cases n with
  | zero =>
    exact ⟨"var" ++ name, t, rfl, hvar.append hname, ht.endsWord, ht.head?_ne_dot⟩
  | succ n =>
    refine ⟨"var", Text.spaces (n + 1) ++ (name ++ t), by simp only [List.append_assoc], hvar,
      ?_, ?_⟩
    · rintro b ⟨⟩
      decide
    · show some ((' ' : Char) : UInt8) ≠ some (('.' : Char) : UInt8)
      decide

/-- A line with a dot after its first word is no function statement and no variable. -/
theorem function_eq_none {word : Text} (hword : IsIdentifier word)
    (hdot : rest.head? = some (('.' : Char) : UInt8)) :
    functionStatement? (word ++ rest) = none ∧ functionVariable? (word ++ rest) = none := by
  constructor
  · rw [Option.eq_none_iff_forall_ne_some]
    intro d h
    obtain ⟨name, n, after, -, hline, -⟩ := functionStatement?_eq_some_iff.mp h
    have hspace : EndsWord (" " ++ (name ++ (Text.spaces n ++ ("(" ++ after)))) := by
      rintro b ⟨⟩
      decide
    have hfunction : IsIdentifier "function" := by decide
    simp only [List.append_assoc] at hline
    obtain ⟨-, rfl⟩ := word_unique hword (endsWord_of_dot hdot) hfunction hspace hline
    have hne : some ((' ' : Char) : UInt8) ≠ some (('.' : Char) : UInt8) := by decide
    exact hne hdot
  · rw [Option.eq_none_iff_forall_ne_some]
    intro d h
    obtain ⟨n, name, t, after, hname, ht, hline, -⟩ := functionVariable?_eq_some_iff.mp h
    obtain ⟨first, later, hsplit, hfirst, hlater, hne⟩ := exists_word_variable n hname ht
    obtain ⟨-, rfl⟩ :=
      word_unique hword (endsWord_of_dot hdot) hfirst hlater (hline.trans hsplit)
    exact hne hdot

/-- On the line of a member the two rules for its kind of member are the first to find anything. -/
theorem ofLine?_of_readerOf (howner : IsIdentifier owner.word) (hname : IsIdentifier name)
    (ht : Assigns t v) {line : Text} (hline : line = owner.path ++ name ++ t)
    (h : method? (readerOf owner) line = some d ∨
      method? (readerOf owner) line = none ∧ property? (readerOf owner) line = some d) :
    ofLine? line = some d := by
  obtain ⟨hstatement, hvariable⟩ :
      functionStatement? line = none ∧ functionVariable? line = none := by
    rw [hline]
    cases owner with
    | prototype k =>
      simp only [Owner.path, List.append_assoc]
      exact function_eq_none howner rfl
    | object r =>
      simp only [Owner.path, List.append_assoc]
      exact function_eq_none howner rfl
  cases owner with
  | prototype k =>
    simp only [readerOf] at h
    rcases h with h | ⟨hmethod, h⟩
    · simp only [ofLine?, rules, List.findSome?_cons, hstatement, hvariable, h]
    · simp only [ofLine?, rules, List.findSome?_cons, hstatement, hvariable, hmethod, h]
  | object r =>
    have hprototype : prototypeMember? line = none := by
      rw [hline]
      exact prototypeMember?_object howner hname ht.endsWord ht.head?_ne_dot
    obtain ⟨hmethod, hproperty⟩ := member_eq_none hprototype
    simp only [readerOf] at h
    rcases h with h | ⟨hmethod', h⟩
    · simp only [ofLine?, rules, List.findSome?_cons, hstatement, hvariable, hmethod, hproperty, h]
    · simp only [ofLine?, rules, List.findSome?_cons, hstatement, hvariable, hmethod, hproperty,
        hmethod', h]

/-- A member to which a function is assigned is declared as a method. -/
theorem ofLine?_method (howner : IsIdentifier owner.word)
    (hname : IsIdentifier name) (ht : Assigns t ("function" ++ rest)) :
    ofLine? (owner.path ++ name ++ t) = some (.method owner name) := by
  have hread := readerOf_path howner hname ht.endsWord
  refine ofLine?_of_readerOf howner hname ht rfl (.inl ?_)
  exact method?_eq_some_iff.mpr ⟨owner, name, t, rest, hread, ht, rfl⟩

/-- A member to which another value is assigned is declared as a property. -/
theorem ofLine?_property (howner : IsIdentifier owner.word)
    (hname : IsIdentifier name) (ht : Assigns t v) (hv : IsValue v) :
    ofLine? (owner.path ++ name ++ t) = some (.property owner name (Text.trimRight v)) := by
  have hread := readerOf_path howner hname ht.endsWord
  refine ofLine?_of_readerOf howner hname ht rfl (.inr ⟨?_, ?_⟩)
  · rw [Option.eq_none_iff_forall_ne_some]
    intro d h
    obtain ⟨owner', name', t', rest, hread', ht', -⟩ := method?_eq_some_iff.mp h
    obtain ⟨rfl, rfl, rfl⟩ : owner = owner' ∧ name = name' ∧ t = t' := by
      simpa using hread.symm.trans hread'
    exact hv.not_assigns ht ht'
  · exact property?_eq_some_iff.mpr ⟨owner, name, t, v, hread, ht, hv.starts, rfl⟩

/-- A variable to which a function is assigned is declared as a function. -/
theorem ofLine?_functionVariable (n : Nat) (hname : IsIdentifier name)
    (ht : Assigns t ("function" ++ rest)) :
    ofLine? ("var" ++ Text.spaces n ++ name ++ t) = some (.function name) := by
  have hstatement : functionStatement? ("var" ++ Text.spaces n ++ name ++ t) = none := rfl
  have hvariable := functionVariable?_eq_some_iff.mpr ⟨n, name, t, rest, hname, ht, rfl, rfl⟩
  simp only [ofLine?, rules, List.findSome?_cons, hstatement, hvariable]

/-- A variable to which another value is assigned is declared as one, if a space comes before its
name. -/
theorem ofLine?_binding (n : Nat) (hname : IsIdentifier name) (ht : Assigns t v) (hv : IsValue v) :
    ofLine? ("var" ++ Text.spaces (n + 1) ++ name ++ t)
      = some (.binding name (Text.trimRight v)) := by
  obtain ⟨line, hline⟩ : ∃ line, line = "var" ++ Text.spaces (n + 1) ++ name ++ t := ⟨_, rfl⟩
  have hstatement : functionStatement? line = none := by
    rw [hline]
    rfl
  have hvariable : functionVariable? line = none := by
    rw [Option.eq_none_iff_forall_ne_some]
    intro d h
    obtain ⟨n', name', t', rest, hname', ht', hline', -⟩ := functionVariable?_eq_some_iff.mp h
    obtain ⟨-, rfl⟩ := variable_unique hname ht.endsWord hname' ht'.endsWord (hline ▸ hline')
    exact hv.not_assigns ht ht'
  obtain ⟨word, later, hsplit, hword, hlater, hne⟩ := exists_word_variable (n + 1) hname ht
  have hprototype : prototypeMember? line = none := by
    rw [hline, hsplit, prototypeMember?_eq]
    exact memberAfter?_eq_none (fun _ => rfl) hword hlater hne
  have hobject : objectMember? line = none := by
    rw [hline, hsplit, objectMember?_eq]
    exact memberAfter?_eq_none (fun _ => rfl) hword hlater hne
  obtain ⟨hmethod, hproperty⟩ := member_eq_none hprototype
  obtain ⟨hmethod', hproperty'⟩ := member_eq_none hobject
  have hbinding := binding?_eq_some_iff.mpr ⟨n, name, t, v, hname, ht, hv.starts, hline, rfl⟩
  rw [← hline]
  simp only [ofLine?, rules, List.findSome?_cons, hstatement, hvariable, hmethod, hproperty,
    hmethod', hproperty', hbinding]

/-- The rules find what a line parses as. -/
theorem ofLine?_eq_some_iff : ofLine? line = some d ↔ Parses line d := by
  refine ⟨parses_of_ofLine?, fun h => ?_⟩
  cases h with
  | functionStatement hname n rest =>
    have hstatement := functionStatement?_eq_some_iff.mpr ⟨_, n, rest, hname, rfl, rfl⟩
    simp only [ofLine?, rules, List.findSome?_cons, hstatement]
  | functionVariable n hname ht => exact ofLine?_functionVariable n hname ht
  | method owner howner hname ht => exact ofLine?_method howner hname ht
  | property owner howner hname ht hv => exact ofLine?_property howner hname ht hv
  | binding n hname ht hv => exact ofLine?_binding n hname ht hv

end

/-! ## The forms of a line, with what is reported of each -/

/-- What is reported of a declaration. What a declaration does not have is empty. -/
structure Report where
  kind : Text
  constructor : Text := []
  receiver : Text := []
  name : Text
  value : Text := []
  display : Text
  deriving DecidableEq, Repr

/-- The report of a declaration. -/
def report (d : Declaration) : Report :=
  { kind := d.kind, constructor := d.constructor, receiver := d.receiver, name := d.name,
    value := d.value, display := d.display }

/-- The forms of a line that declares something, and what is reported of each. -/
inductive Form : Text → Report → Prop where
  /-- `function N (`. -/
  | functionStatement {name : Text} (hname : IsIdentifier name) (n : Nat) (rest : Text) :
    Form ("function " ++ name ++ Text.spaces n ++ "(" ++ rest)
      { kind := "function", name, display := name ++ "()" }
  /-- `var N = function`, where no space is needed before the name. -/
  | functionVariable {name t rest : Text} (n : Nat) (hname : IsIdentifier name)
    (ht : Assigns t ("function" ++ rest)) :
    Form ("var" ++ Text.spaces n ++ name ++ t)
      { kind := "function", name, display := name ++ "()" }
  /-- `K.prototype.N = function`. -/
  | prototypeMethod {k name t rest : Text} (hk : IsIdentifier k) (hname : IsIdentifier name)
    (ht : Assigns t ("function" ++ rest)) :
    Form (k ++ ".prototype." ++ name ++ t)
      { kind := "method", constructor := k, name, display := k ++ ".prototype." ++ name ++ "()" }
  /-- `K.prototype.N = V`. -/
  | prototypeProperty {k name t v : Text} (hk : IsIdentifier k) (hname : IsIdentifier name)
    (ht : Assigns t v) (hv : IsValue v) :
    Form (k ++ ".prototype." ++ name ++ t)
      { kind := "property", constructor := k, name, value := Text.trimRight v,
        display := k ++ ".prototype." ++ name }
  /-- `R.N = function`. -/
  | objectMethod {r name t rest : Text} (hr : IsIdentifier r) (hname : IsIdentifier name)
    (ht : Assigns t ("function" ++ rest)) :
    Form (r ++ "." ++ name ++ t)
      { kind := "method", receiver := r, name, display := r ++ "." ++ name ++ "()" }
  /-- `R.N = V`. -/
  | objectProperty {r name t v : Text} (hr : IsIdentifier r) (hname : IsIdentifier name)
    (ht : Assigns t v) (hv : IsValue v) :
    Form (r ++ "." ++ name ++ t)
      { kind := "property", receiver := r, name, value := Text.trimRight v,
        display := r ++ "." ++ name }
  /-- `var N = V`, where a space is needed before the name. -/
  | binding {name t v : Text} (n : Nat) (hname : IsIdentifier name) (ht : Assigns t v)
    (hv : IsValue v) :
    Form ("var" ++ Text.spaces (n + 1) ++ name ++ t)
      { kind := "declaration", name, value := Text.trimRight v, display := name }

/-- A form is how a line parses, written out with the fields of the report. -/
theorem form_iff {line : Text} {r : Report} : Form line r ↔ ∃ d, Parses line d ∧ d.report = r := by
  constructor
  · intro h
    cases h with
    | functionStatement hname n rest => exact ⟨_, .functionStatement hname n rest, rfl⟩
    | functionVariable n hname ht => exact ⟨_, .functionVariable n hname ht, rfl⟩
    | prototypeMethod hk hname ht => exact ⟨_, .method (.prototype _) hk hname ht, rfl⟩
    | prototypeProperty hk hname ht hv => exact ⟨_, .property (.prototype _) hk hname ht hv, rfl⟩
    | objectMethod hr hname ht => exact ⟨_, .method (.object _) hr hname ht, rfl⟩
    | objectProperty hr hname ht hv => exact ⟨_, .property (.object _) hr hname ht hv, rfl⟩
    | binding n hname ht hv => exact ⟨_, .binding n hname ht hv, rfl⟩
  · rintro ⟨d, h, rfl⟩
    cases h with
    | functionStatement hname n rest => exact .functionStatement hname n rest
    | functionVariable n hname ht => exact .functionVariable n hname ht
    | method owner howner hname ht =>
      cases owner with
      | prototype k => exact .prototypeMethod howner hname ht
      | object r => exact .objectMethod howner hname ht
    | property owner howner hname ht hv =>
      cases owner with
      | prototype k => exact .prototypeProperty howner hname ht hv
      | object r => exact .objectProperty howner hname ht hv
    | binding n hname ht hv => exact .binding n hname ht hv

theorem report_infer?_iff {code : Text} {r : Report} :
    (infer? code).map report = some r ↔ Form (Text.firstLine code) r := by
  rw [infer?_eq_ofLine?, Option.map_eq_some_iff, form_iff]
  simp only [ofLine?_eq_some_iff]

/-- What is inferred from a code text is what the form of its first line says, and nothing where the
line has no form. A line has one form at most, and the lines after it do not count. -/
theorem infer?_iff_form (code : Text) :
    (∀ r, (infer? code).map report = some r ↔ Form (Text.firstLine code) r) ∧
      (infer? code = none ↔ ∀ r, ¬ Form (Text.firstLine code) r) ∧
      (∀ r r', Form (Text.firstLine code) r → Form (Text.firstLine code) r' → r = r') ∧
      ∀ later, infer? (Text.firstLine code ++ "\n" ++ later) = infer? code := by
  refine ⟨fun r => report_infer?_iff, ?_, ?_, ?_⟩
  · simp only [← report_infer?_iff]
    cases infer? code with
    | none => simp
    | some d => simp
  · intro r r' hr hr'
    rw [← report_infer?_iff] at hr hr'
    exact Option.some.inj (hr.symm.trans hr')
  · intro later
    rw [infer?_eq_ofLine?, Text.firstLine_append, infer?_eq_ofLine?]

end Declaration

end DocBlock
