import DocBlock.Proofs.Declaration.Grammar

/-!
# The order of the rules

Two rules that accept the same line are a function form and the value form next to it: what is
assigned can be read as a value even if it starts with the word `function`. Lines of different
groups start in different ways (`Starts.unique`), so no other two rules accept the same line. So
the rules can be tried in any order that keeps each function form before its value form:

> `inferBy?_eq_iff_keeps`: an order of the rules infers the same from every code text exactly if it
> keeps the three pairs, and no line is accepted by two rules of different pairs.
-/

namespace DocBlock.Declaration

/-- The rules by their names. -/
inductive Rule where
  /-- `function N (`. -/
  | functionStatement
  /-- `var N = function`. -/
  | functionVariable
  /-- `K.prototype.N = function`. -/
  | prototypeMethod
  /-- `K.prototype.N = V`. -/
  | prototypeProperty
  /-- `R.N = function`. -/
  | objectMethod
  /-- `R.N = V`. -/
  | objectProperty
  /-- `var N = V`. -/
  | binding
  deriving DecidableEq, Repr

namespace Rule

/-- What a rule reads in a line. -/
def read? : Rule → Text → Option Declaration
  | functionStatement => functionStatement?
  | functionVariable => functionVariable?
  | prototypeMethod => method? prototypeMember?
  | prototypeProperty => property? prototypeMember?
  | objectMethod => method? objectMember?
  | objectProperty => property? objectMember?
  | binding => binding?

/-- The rules in the order in which they are tried. -/
def inOrder : List Rule :=
  [functionStatement, functionVariable, prototypeMethod, prototypeProperty, objectMethod,
    objectProperty, binding]

/-- The function forms, each with the value form of what is assigned. -/
def pairs : List (Rule × Rule) :=
  [(functionVariable, binding), (prototypeMethod, prototypeProperty),
    (objectMethod, objectProperty)]

theorem rules_eq : rules = inOrder.map read? := rfl

theorem mem_inOrder (rule : Rule) : rule ∈ inOrder := by
  cases rule <;> decide

/-- Whether a rule accepts a line. -/
def accepts (line : Text) (rule : Rule) : Bool := (rule.read? line).isSome

/-- The first rule of an order that accepts a line. -/
def first? (order : List Rule) (line : Text) : Option Rule := order.find? (accepts line)

/-- What a code text declares when the rules are tried in another order. -/
def inferBy? (order : List Rule) (code : Text) : Option Declaration :=
  (order.map read?).findSome? fun rule => rule (Text.before "\n" code)

/-- Every function form comes before the value form next to it. -/
def Keeps (order : List Rule) : Prop :=
  ∀ pair ∈ pairs, order.idxOf pair.1 < order.idxOf pair.2

instance (order : List Rule) : Decidable (Keeps order) := List.decidableBAll _ _

/-! ## Lines of different groups -/

/-- The rules by how their lines start. -/
inductive Group where
  /-- The word `function`. -/
  | statement
  /-- The word `var`. -/
  | variable
  /-- A member of a prototype. -/
  | prototype
  /-- A member of an object. -/
  | object
  deriving DecidableEq, Repr

/-- The group of a rule. -/
def group : Rule → Group
  | functionStatement => .statement
  | functionVariable | binding => .variable
  | prototypeMethod | prototypeProperty => .prototype
  | objectMethod | objectProperty => .object

/-- The group whose rules can accept a line. -/
def groupOf (line : Text) : Group :=
  if ("function " : Text).isPrefixOf line then .statement
  else if (prototypeMember? line).isSome then .prototype
  else if (objectMember? line).isSome then .object
  else .variable

section
variable {line : Text} {d : Declaration}

/-- A line with no dot after its first word declares no member. -/
theorem members_eq_none {word rest : Text} (hword : IsIdentifier word) (hrest : EndsWord rest)
    (hdot : rest.head? ≠ some (('.' : Char) : UInt8)) :
    prototypeMember? (word ++ rest) = none ∧ objectMember? (word ++ rest) = none := by
  rw [prototypeMember?_eq, objectMember?_eq]
  exact ⟨memberAfter?_eq_none (fun _ => rfl) hword hrest hdot,
    memberAfter?_eq_none (fun _ => rfl) hword hrest hdot⟩

/-- A line that starts with the word `function` declares no member. -/
theorem not_statement_of_member {member : Owner × Text × Text}
    (h : prototypeMember? line = some member ∨ objectMember? line = some member) :
    ("function " : Text).isPrefixOf line = false := by
  rw [Bool.eq_false_iff]
  intro hstart
  obtain ⟨rest, rfl⟩ := List.isPrefixOf_iff_prefix.mp hstart
  have hspace : EndsWord (" " ++ rest) := by
    rintro b ⟨⟩
    decide
  have hdot : (" " ++ rest).head? ≠ some (('.' : Char) : UInt8) := by
    show some ((' ' : Char) : UInt8) ≠ some (('.' : Char) : UInt8)
    decide
  have hword : IsIdentifier "function" := by decide
  obtain ⟨hprototype, hobject⟩ := members_eq_none hword hspace hdot
  rcases h with h | h
  · cases hprototype.symm.trans h
  · cases hobject.symm.trans h

theorem groupOf_statement (h : functionStatement? line = some d) : groupOf line = .statement := by
  obtain ⟨name, n, rest, -, hline, -⟩ := functionStatement?_eq_some_iff.mp h
  refine if_pos (List.isPrefixOf_iff_prefix.mpr ?_)
  rw [hline]
  simp only [List.append_assoc]
  exact List.prefix_append _ _

theorem groupOf_variable {n : Nat} {name t v : Text} (hname : IsIdentifier name)
    (ht : Assigns t v) : groupOf ("var" ++ Text.spaces n ++ name ++ t) = .variable := by
  obtain ⟨word, rest, hsplit, hword, hrest, hdot⟩ := exists_word_variable n hname ht
  obtain ⟨hprototype, hobject⟩ := members_eq_none hword hrest hdot
  have hstart : ("function " : Text).isPrefixOf ("var" ++ Text.spaces n ++ name ++ t) = false := rfl
  rw [groupOf, hstart, hsplit, hprototype, hobject]
  rfl

theorem groupOf_prototype {member : Owner × Text × Text} (h : prototypeMember? line = some member) :
    groupOf line = .prototype := by
  rw [groupOf, not_statement_of_member (.inl h), h]
  rfl

theorem groupOf_object {owner : Owner} {name t v : Text}
    (h : objectMember? line = some (owner, name, t)) (ht : Assigns t v) :
    groupOf line = .object := by
  have hprototype : prototypeMember? line = none := by
    have hread := h
    rw [objectMember?_eq, memberAfter?_eq_some_iff fun _ => rfl] at hread
    obtain ⟨receiver, -, hreceiver, hname, hrest, rfl⟩ := hread
    have hnone := prototypeMember?_object hreceiver hname hrest ht.head?_ne_dot
    simpa only [Owner.path, List.append_assoc] using hnone
  rw [groupOf, not_statement_of_member (.inr h), hprototype, h]
  rfl

/-- A rule accepts lines of its own group only. -/
theorem groupOf_of_accepts {rule : Rule} (h : accepts line rule = true) :
    groupOf line = rule.group := by
  obtain ⟨d, h⟩ := Option.isSome_iff_exists.mp h
  cases rule with
  | functionStatement => exact groupOf_statement h
  | functionVariable =>
    obtain ⟨n, name, t, rest, hname, ht, rfl, -⟩ := functionVariable?_eq_some_iff.mp h
    exact groupOf_variable hname ht
  | prototypeMethod =>
    obtain ⟨owner, name, t, rest, hread, -⟩ := method?_eq_some_iff.mp h
    exact groupOf_prototype hread
  | prototypeProperty =>
    obtain ⟨owner, name, t, v, hread, -⟩ := property?_eq_some_iff.mp h
    exact groupOf_prototype hread
  | objectMethod =>
    obtain ⟨owner, name, t, rest, hread, ht, -⟩ := method?_eq_some_iff.mp h
    exact groupOf_object hread ht
  | objectProperty =>
    obtain ⟨owner, name, t, v, hread, ht, -⟩ := property?_eq_some_iff.mp h
    exact groupOf_object hread ht
  | binding =>
    obtain ⟨n, name, t, v, hname, ht, -, rfl, -⟩ := binding?_eq_some_iff.mp h
    exact groupOf_variable hname ht

end

/-- A group is one rule, or the two of a pair. -/
theorem pair_of_group {a b : Rule} (hne : a ≠ b) (h : a.group = b.group) :
    (a, b) ∈ pairs ∨ (b, a) ∈ pairs := by
  have hall : ∀ a ∈ inOrder, ∀ b ∈ inOrder, a ≠ b → a.group = b.group →
      (a, b) ∈ pairs ∨ (b, a) ∈ pairs := by decide
  exact hall a (mem_inOrder a) b (mem_inOrder b) hne h

theorem group_of_pair {pair : Rule × Rule} (h : pair ∈ pairs) (rule : Rule) :
    rule.group = pair.1.group ↔ rule = pair.1 ∨ rule = pair.2 := by
  have hall : ∀ pair ∈ pairs, ∀ rule ∈ inOrder,
      rule.group = pair.1.group ↔ rule = pair.1 ∨ rule = pair.2 := by decide
  exact hall pair h rule (mem_inOrder rule)

/-- Two rules that accept the same line are a pair, and no third rule accepts it. -/
theorem exists_pair_of_accepts {line : Text} {a b : Rule} (hne : a ≠ b)
    (ha : accepts line a = true) (hb : accepts line b = true) :
    ∃ pair ∈ pairs, ∀ rule, accepts line rule = true ↔ rule = pair.1 ∨ rule = pair.2 := by
  have hgroup : a.group = b.group := (groupOf_of_accepts ha).symm.trans (groupOf_of_accepts hb)
  obtain ⟨pair, hpair, hfirst, hsecond⟩ : ∃ pair ∈ pairs,
      accepts line pair.1 = true ∧ accepts line pair.2 = true := by
    rcases pair_of_group hne hgroup with h | h
    · exact ⟨_, h, ha, hb⟩
    · exact ⟨_, h, hb, ha⟩
  refine ⟨pair, hpair, fun rule => ⟨fun h => ?_, ?_⟩⟩
  · rw [← group_of_pair hpair]
    exact (groupOf_of_accepts h).symm.trans (groupOf_of_accepts hfirst)
  · rintro (rfl | rfl)
    · exact hfirst
    · exact hsecond

/-- A member that is assigned a function is assigned a value. -/
theorem property?_isSome_of_method? {member? : Text → Option (Owner × Text × Text)} {line : Text}
    (h : (method? member? line).isSome = true) : (property? member? line).isSome = true := by
  obtain ⟨d, hd⟩ := Option.isSome_iff_exists.mp h
  obtain ⟨owner, name, t, rest, hread, ht, -⟩ := method?_eq_some_iff.mp hd
  have hvalue : StartsValue ("function" ++ rest) := ⟨_, rfl, by decide⟩
  rw [property?_eq_some_iff.mpr ⟨owner, name, t, _, hread, ht, hvalue, rfl⟩]
  rfl

/-! ## The first rule that accepts a line -/

section
variable {order : List Rule} {line : Text} {rule : Rule}

theorem first?_eq_some_iff : first? order line = some rule ↔ rule ∈ order ∧
    accepts line rule = true ∧
      ∀ other ∈ order, accepts line other = true → order.idxOf rule ≤ order.idxOf other := by
  rw [first?]
  induction order with
  | nil => simp
  | cons a order ih =>
    by_cases ha : accepts line a = true
    · rw [List.find?_cons_of_pos ha]
      constructor
      · intro h
        obtain rfl := Option.some.inj h
        refine ⟨List.mem_cons_self .., ha, fun other _ _ => ?_⟩
        rw [List.idxOf_cons_self]
        exact Nat.zero_le _
      · rintro ⟨-, -, hfirst⟩
        have hzero := hfirst a (List.mem_cons_self ..) ha
        rw [List.idxOf_cons_self] at hzero
        by_contra hne
        rw [List.idxOf_cons_ne _ fun h => hne (congrArg some h)] at hzero
        omega
    · have hother (other : Rule) (h : accepts line other = true) : a ≠ other := by
        rintro rfl
        exact ha h
      rw [List.find?_cons_of_neg ha, ih]
      constructor
      · rintro ⟨hmem, haccepts, hfirst⟩
        refine ⟨List.mem_cons_of_mem _ hmem, haccepts, fun other hmem' h => ?_⟩
        rw [List.idxOf_cons_ne _ (hother rule haccepts), List.idxOf_cons_ne _ (hother other h)]
        exact Nat.succ_le_succ
          (hfirst other (List.mem_of_ne_of_mem (hother other h).symm hmem') h)
      · rintro ⟨hmem, haccepts, hfirst⟩
        refine ⟨List.mem_of_ne_of_mem (hother rule haccepts).symm hmem, haccepts,
          fun other hmem' h => ?_⟩
        have hle := hfirst other (List.mem_cons_of_mem _ hmem') h
        rw [List.idxOf_cons_ne _ (hother rule haccepts), List.idxOf_cons_ne _ (hother other h)]
          at hle
        exact Nat.le_of_succ_le_succ hle

/-- What a line declares is what the first rule that accepts it reads. -/
theorem inferBy?_eq (order : List Rule) (code : Text) : inferBy? order code
    = (first? order (Text.before "\n" code)).bind fun rule => rule.read? (Text.before "\n" code) := by
  rw [inferBy?, first?]
  induction order with
  | nil => rfl
  | cons rule order ih =>
    rw [List.map_cons, List.findSome?_cons, ih]
    cases hread : rule.read? (Text.before "\n" code) with
    | none =>
      rw [List.find?_cons_of_neg (by rw [accepts, hread]; exact Bool.false_ne_true)]
    | some d =>
      rw [List.find?_cons_of_pos (by rw [accepts, hread]; rfl), Option.bind_some, hread]

/-- Orders that keep the pairs find the same rule first. -/
theorem first?_eq_of_keeps (hperm : order.Perm inOrder) (hkeeps : Keeps order) (line : Text) :
    first? order line = first? inOrder line := by
  have hmem (rule : Rule) : rule ∈ order := hperm.mem_iff.mpr (mem_inOrder rule)
  cases hfirst : first? inOrder line with
  | none =>
    rw [first?, List.find?_eq_none] at hfirst ⊢
    exact fun rule _ => hfirst rule (mem_inOrder rule)
  | some rule =>
    obtain ⟨-, haccepts, hleast⟩ := first?_eq_some_iff.mp hfirst
    refine first?_eq_some_iff.mpr ⟨hmem rule, haccepts, fun other _ hother => ?_⟩
    by_cases heq : rule = other
    · rw [heq]
    · have hgroup := (groupOf_of_accepts haccepts).symm.trans (groupOf_of_accepts hother)
      rcases pair_of_group heq hgroup with hpair | hpair
      · exact Nat.le_of_lt (hkeeps _ hpair)
      · -- the other rule would have been found before
        have hbefore : ∀ pair ∈ pairs, inOrder.idxOf pair.1 < inOrder.idxOf pair.2 := by decide
        exact absurd (hleast other (mem_inOrder other) hother)
          (Nat.not_le.mpr (hbefore _ hpair))

/-- Both rules of a pair accept some line, and read it differently. -/
theorem exists_code_of_pair {pair : Rule × Rule} (h : pair ∈ pairs) :
    ∃ code, accepts (Text.before "\n" code) pair.2 = true ∧
      infer? code = pair.1.read? (Text.before "\n" code) ∧
      pair.2.read? (Text.before "\n" code) ≠ pair.1.read? (Text.before "\n" code) := by
  simp only [pairs, List.mem_cons, List.not_mem_nil, or_false] at h
  rcases h with rfl | rfl | rfl
  · exact ⟨"var a = function", by decide +kernel⟩
  · exact ⟨"a.prototype.b = function", by decide +kernel⟩
  · exact ⟨"a.b = function", by decide +kernel⟩

/-- An order that infers the same from every code text keeps the pairs. -/
theorem keeps_of_inferBy?_eq (hperm : order.Perm inOrder)
    (h : ∀ code, inferBy? order code = infer? code) : Keeps order := by
  have hmem (rule : Rule) : rule ∈ order := hperm.mem_iff.mpr (mem_inOrder rule)
  intro pair hpair
  obtain ⟨code, hsecond, hinfer, hdiffer⟩ := exists_code_of_pair hpair
  obtain ⟨rule, hfirst⟩ : ∃ rule, first? order (Text.before "\n" code) = some rule :=
    Option.isSome_iff_exists.mp (List.find?_isSome.mpr ⟨_, hmem pair.2, hsecond⟩)
  obtain ⟨-, haccepts, hleast⟩ := first?_eq_some_iff.mp hfirst
  have hread := h code
  rw [inferBy?_eq, hfirst, hinfer, Option.bind_some] at hread
  have hgroup : rule.group = pair.1.group := by
    rw [← groupOf_of_accepts haccepts, groupOf_of_accepts hsecond, group_of_pair hpair]
    exact Or.inr rfl
  rcases (group_of_pair hpair rule).mp hgroup with rfl | rfl
  · refine Nat.lt_of_le_of_ne (hleast _ (hmem pair.2) hsecond) fun heq => hdiffer ?_
    rw [(List.idxOf_inj (hmem pair.1)).mp heq]
  · exact absurd hread hdiffer

end

end Rule

/-- An order of the rules infers the same from every code text exactly if it keeps each function
form before its value form, and then the same rule is the first to accept. A line that a function
form of a member accepts is accepted by its value form, and two rules that accept the same line are
one of the three pairs, and the only ones to accept it. -/
theorem inferBy?_eq_iff_keeps {order : List Rule} (hperm : order.Perm Rule.inOrder) :
    ((∀ code, Rule.inferBy? order code = infer? code) ↔ Rule.Keeps order) ∧
      (Rule.Keeps order → ∀ line, Rule.first? order line = Rule.first? Rule.inOrder line) ∧
      (∀ line, (Rule.accepts line .prototypeMethod = true →
          Rule.accepts line .prototypeProperty = true) ∧
        (Rule.accepts line .objectMethod = true → Rule.accepts line .objectProperty = true)) ∧
      ∀ line a b, a ≠ b → Rule.accepts line a = true → Rule.accepts line b = true →
        ∃ pair ∈ Rule.pairs, ∀ rule, Rule.accepts line rule = true ↔
          rule = pair.1 ∨ rule = pair.2 := by
  refine ⟨⟨Rule.keeps_of_inferBy?_eq hperm, fun hkeeps code => ?_⟩,
    Rule.first?_eq_of_keeps hperm, fun line => ?_, fun line a b => Rule.exists_pair_of_accepts⟩
  · rw [Rule.inferBy?_eq, Rule.first?_eq_of_keeps hperm hkeeps, ← Rule.inferBy?_eq, Rule.inferBy?,
      ← Rule.rules_eq]
    rfl
  · exact ⟨Rule.property?_isSome_of_method?, Rule.property?_isSome_of_method?⟩

/-- The pairs from the last to the first, and the function statement at the end. -/
theorem inferBy?_eq_iff_keeps_backwards :
    Rule.inferBy? [.objectMethod, .objectProperty, .prototypeMethod, .prototypeProperty,
        .functionVariable, .binding, .functionStatement] "Foo.prototype.bar = function () \x7b"
      = infer? "Foo.prototype.bar = function () \x7b" ∧
    ¬ ∀ code, Rule.inferBy? [.functionStatement, .binding, .functionVariable, .prototypeMethod,
        .prototypeProperty, .objectMethod, .objectProperty] code = infer? code := by
  constructor
  · exact (inferBy?_eq_iff_keeps (by decide)).1.mpr (by decide) _
  · exact fun h => absurd ((inferBy?_eq_iff_keeps (by decide)).1.mp h) (by decide)

end DocBlock.Declaration
