import DocBlock.Proofs.Text.Occurrence
import DocBlock.Source

/-!
# Where a block comment opens

A block comment opens at a byte of a source text when `/*` stands there and no line comment is
going on. A line comment goes on at a byte when `//` stands before it on the same line. Both are
said here of a position in a text (`OpensAt`, `InLineComment`), without a scan.

`splitCode` reads from the left and only remembers whether it is inside a line comment. The main
statement is that it stops at the first opening, or else at the end of the text
(`splitCode_isCode`), and that nothing else can be said of the code before a comment
(`IsCode.splitCode_eq`).
-/

namespace DocBlock

/-- Whether byte `k` of a text is inside a line comment: `//` stands before it on its line. -/
def InLineComment (t : Text) (k : Nat) : Prop :=
  ∃ j, j < k ∧ ("//" : Text) <+: t.drop j ∧ (('\n' : Char) : UInt8) ∉ (t.drop j).take (k - j)

/-- Whether a block comment opens at byte `k` of a text that starts outside comments. -/
def OpensAt (t : Text) (k : Nat) : Prop := ("/*" : Text) <+: t.drop k ∧ ¬ InLineComment t k

instance (t : Text) (k : Nat) : Decidable (InLineComment t k) :=
  inferInstanceAs (Decidable (∃ j, j < k ∧ _))

instance (t : Text) (k : Nat) : Decidable (OpensAt t k) :=
  inferInstanceAs (Decidable (_ ∧ _))

theorem OpensAt.lt_length {t : Text} {k : Nat} (h : OpensAt t k) : k < t.length := by
  have hlen := h.1.length_le
  rw [List.length_drop] at hlen
  have hpair : ("/*" : Text).length = 2 := rfl
  omega

/-- `code` is the code at the start of `code ++ rest`: no comment opens in it, and one opens right
after it unless the text ends there. -/
structure IsCode (code rest : Text) : Prop where
  not_opens : ∀ k < code.length, ¬ OpensAt (code ++ rest) k
  stops : rest = [] ∨ OpensAt (code ++ rest) code.length

/-! ## The scan, byte by byte -/

/-- Whether a line comment goes on after byte `b`, given whether it did before and what follows. -/
def inLineAfter (inLine : Bool) (b : UInt8) (t : Text) : Bool :=
  if inLine then b != '\n' else b == '/' && t.head? == some (('/' : Char) : UInt8)

theorem splitCode_cons (inLine : Bool) (b : UInt8) (t : Text) :
    splitCode inLine (b :: t) =
      if inLine = false ∧ ("/*" : Text) <+: b :: t then ([], b :: t)
      else (b :: (splitCode (inLineAfter inLine b t) t).1,
        (splitCode (inLineAfter inLine b t) t).2) := by
  match inLine, t with
  | true, t => simp [splitCode, inLineAfter]
  | false, [] =>
    have hshort : ¬ ("/*" : Text) <+: [b] := fun hp => absurd hp.length_le (show ¬ 2 ≤ 1 by omega)
    simp [splitCode, hshort]
  | false, c :: t =>
    have hopen : ("/*" : Text) <+: b :: c :: t ↔ b = '/' ∧ c = '*' := by
      refine (Text.pair_prefix_cons (x := '/') (y := '*')).trans ?_
      simp
    simp [splitCode, inLineAfter, hopen]

theorem not_inLineComment_zero (t : Text) : ¬ InLineComment t 0 := by
  intro h
  obtain ⟨j, hj, -⟩ := h
  exact absurd hj (by omega)

/-- A line comment that goes on at a later byte was opened by the first byte or after it. -/
theorem inLineComment_cons_succ {b : UInt8} {t : Text} {k : Nat} :
    InLineComment (b :: t) (k + 1) ↔
      (("//" : Text) <+: b :: t ∧ (('\n' : Char) : UInt8) ∉ t.take k) ∨ InLineComment t k := by
  constructor
  · intro h
    obtain ⟨j, hj, hslashes, hline⟩ := h
    cases j with
    | zero =>
      refine Or.inl ⟨hslashes, fun hmem => hline ?_⟩
      exact List.mem_cons_of_mem _ hmem
    | succ j =>
      rw [Nat.add_sub_add_right] at hline
      exact Or.inr ⟨j, by omega, hslashes, hline⟩
  · intro h
    rcases h with ⟨hslashes, hline⟩ | ⟨j, hj, hslashes, hline⟩
    · refine ⟨0, by omega, hslashes, fun hmem => ?_⟩
      rcases List.mem_cons.mp hmem with hb | hmem
      · have hslash : b = '/' := (List.cons_prefix_cons.mp hslashes).1.symm
        exact absurd (hslash.symm.trans hb.symm) (by decide)
      · exact hline hmem
    · refine ⟨j + 1, by omega, hslashes, ?_⟩
      rw [Nat.add_sub_add_right]
      exact hline

/-- Whether a block comment opens at byte `k` of a text that starts inside a line comment or
not. -/
def OpensFrom (inLine : Bool) (t : Text) (k : Nat) : Prop :=
  ("/*" : Text) <+: t.drop k ∧ ¬ InLineComment t k
    ∧ (inLine = true → (('\n' : Char) : UInt8) ∈ t.take k)

theorem opensFrom_false_iff {t : Text} {k : Nat} : OpensFrom false t k ↔ OpensAt t k := by
  simp [OpensFrom, OpensAt]

theorem opensFrom_zero_iff {inLine : Bool} {t : Text} :
    OpensFrom inLine t 0 ↔ inLine = false ∧ ("/*" : Text) <+: t := by
  simp [OpensFrom, not_inLineComment_zero, and_comm]

/-- One byte further, the scan asks the same of the rest of the text. -/
theorem opensFrom_cons_succ {inLine : Bool} {b : UInt8} {t : Text} {k : Nat} :
    OpensFrom inLine (b :: t) (k + 1) ↔ OpensFrom (inLineAfter inLine b t) t k := by
  have hslashes : ("//" : Text) <+: b :: t ↔ inLineAfter false b t = true := by
    refine (Text.pair_prefix_cons (x := '/') (y := '/')).trans ?_
    simp [inLineAfter]
  unfold OpensFrom
  rw [inLineComment_cons_succ, hslashes, List.drop_succ_cons, List.take_succ_cons, List.mem_cons,
    not_or, not_and, Classical.not_not]
  cases inLine with
  | false =>
    simp only [Bool.false_eq_true, false_implies, and_true]
    rw [and_comm (a := ¬ InLineComment t k)]
  | true =>
    by_cases hb : b = '\n'
    · -- The line comment ends here, and a line feed is no slash.
      subst hb
      have hne : (('\n' : Char) : UInt8) ≠ '/' := by decide
      simp [inLineAfter, hne]
    · have hafter : inLineAfter true b t = true := by simpa [inLineAfter] using hb
      rw [hafter]
      constructor
      · intro h
        obtain ⟨hopen, ⟨-, hline⟩, hfeed⟩ := h
        exact ⟨hopen, hline, fun h => (hfeed h).resolve_left (Ne.symm hb)⟩
      · intro h
        obtain ⟨hopen, hline, hfeed⟩ := h
        exact ⟨hopen, ⟨fun _ => hfeed rfl, hline⟩, fun h => Or.inr (hfeed h)⟩

/-- The scan takes nothing away, opens nothing before it stops, and stops at an opening. -/
theorem splitCode_spec (inLine : Bool) (t : Text) :
    (splitCode inLine t).1 ++ (splitCode inLine t).2 = t ∧
      (∀ k < (splitCode inLine t).1.length, ¬ OpensFrom inLine t k) ∧
      ((splitCode inLine t).2 = [] ∨ OpensFrom inLine t (splitCode inLine t).1.length) := by
  induction t generalizing inLine with
  | nil => simp [splitCode]
  | cons b t ih =>
    rw [splitCode_cons]
    obtain ⟨happ, hopens, hstops⟩ := ih (inLineAfter inLine b t)
    split
    next hopen =>
      exact ⟨rfl, fun k hk => absurd hk (Nat.not_lt_zero k), Or.inr (opensFrom_zero_iff.mpr hopen)⟩
    next hopen =>
      refine ⟨by simp [happ], fun k hk => ?_, ?_⟩
      · cases k with
        | zero => exact fun h => hopen (opensFrom_zero_iff.mp h)
        | succ k =>
          rw [opensFrom_cons_succ]
          exact hopens k (Nat.lt_of_succ_lt_succ hk)
      · rw [List.length_cons, opensFrom_cons_succ]
        exact hstops

/-! ## The code before a comment -/

theorem splitCode_append_eq (t : Text) : (splitCode false t).1 ++ (splitCode false t).2 = t :=
  (splitCode_spec false t).1

/-- `splitCode` stops at the first opening, or else at the end of the text. -/
theorem splitCode_isCode (t : Text) : IsCode (splitCode false t).1 (splitCode false t).2 := by
  obtain ⟨happ, hopens, hstops⟩ := splitCode_spec false t
  refine ⟨fun k hk => ?_, ?_⟩
  · rw [happ, ← opensFrom_false_iff]
    exact hopens k hk
  · rw [happ, ← opensFrom_false_iff]
    exact hstops

/-- What follows the code is empty or opens a comment. -/
theorem splitCode_snd_cases (t : Text) :
    (splitCode false t).2 = [] ∨ ∃ inner, (splitCode false t).2 = "/*" ++ inner := by
  rcases (splitCode_isCode t).stops with hnil | ⟨⟨inner, hinner⟩, -⟩
  · exact Or.inl hnil
  · rw [List.drop_left] at hinner
    exact Or.inr ⟨inner, hinner.symm⟩

theorem IsCode.length_le {code rest code' rest' : Text} (h : IsCode code rest)
    (h' : IsCode code' rest') (happ : code ++ rest = code' ++ rest') :
    code'.length ≤ code.length := by
  rcases h.stops with hnil | hopens
  · have hlen := congrArg List.length happ
    rw [hnil] at hlen
    simp only [List.length_append, List.length_nil] at hlen
    omega
  · rcases Nat.lt_or_ge code.length code'.length with hlt | hge
    · rw [happ] at hopens
      exact absurd hopens (h'.not_opens _ hlt)
    · exact hge

/-- The code at the start of a text is unique, so `splitCode` finds it. -/
theorem IsCode.splitCode_eq {code rest : Text} (h : IsCode code rest) :
    splitCode false (code ++ rest) = (code, rest) := by
  have happ := splitCode_append_eq (code ++ rest)
  have hcode := splitCode_isCode (code ++ rest)
  have hlen := Nat.le_antisymm (h.length_le hcode happ.symm) (hcode.length_le h happ)
  obtain ⟨hfst, hsnd⟩ := List.append_inj happ hlen
  exact Prod.ext hfst hsnd

/-! ## Code put together -/

/-- Code that ends with a line feed is passed over, and the scan goes on outside line comments. -/
theorem splitCode_append {inLine : Bool} {code : Text} (hopens : ∀ k, ¬ OpensFrom inLine code k)
    (hend : code.getLast? = some (('\n' : Char) : UInt8)) (rest : Text) :
    splitCode inLine (code ++ rest)
      = (code ++ (splitCode false rest).1, (splitCode false rest).2) := by
  induction code generalizing inLine with
  | nil => nomatch hend
  | cons b code ih =>
    cases code with
    | nil =>
      -- The last byte is the line feed, and it ends the line comment if there is one.
      obtain rfl : b = '\n' := Option.some.inj hend
      have hopen : ¬ (inLine = false ∧ ("/*" : Text) <+: (('\n' : Char) : UInt8) :: rest) := by
        intro h
        exact absurd (List.cons_prefix_cons.mp h.2).1 (by decide)
      have hafter : inLineAfter inLine '\n' rest = false := by cases inLine <;> rfl
      rw [List.singleton_append, splitCode_cons, if_neg hopen, hafter]
      rfl
    | cons c code =>
      have hopen : ¬ (inLine = false ∧ ("/*" : Text) <+: b :: (c :: code ++ rest)) := by
        intro h
        obtain ⟨hline, hopen⟩ := h
        refine hopens 0 (opensFrom_zero_iff.mpr ⟨hline, ?_⟩)
        have hbytes : b = '/' ∧ (c :: code ++ rest).head? = some (('*' : Char) : UInt8) :=
          Text.pair_prefix_cons.mp hopen
        exact Text.pair_prefix_cons.mpr hbytes
      have hlater : ∀ k, ¬ OpensFrom (inLineAfter inLine b (c :: code)) (c :: code) k := by
        intro k
        rw [← opensFrom_cons_succ]
        exact hopens (k + 1)
      have hafter : inLineAfter inLine b (c :: code ++ rest)
          = inLineAfter inLine b (c :: code) := rfl
      rw [List.cons_append, splitCode_cons, if_neg hopen, hafter, ih hlater hend]
      rfl

/-- The scan passes over bytes that are no slashes. -/
theorem splitCode_append_of_not_mem {pre : Text} (h : (('/' : Char) : UInt8) ∉ pre) (t : Text) :
    splitCode false (pre ++ t) = (pre ++ (splitCode false t).1, (splitCode false t).2) := by
  induction pre with
  | nil => rfl
  | cons b pre ih =>
    obtain ⟨hb, hpre⟩ := List.ne_and_not_mem_of_not_mem_cons h
    have hopen : ¬ (false = false ∧ ("/*" : Text) <+: b :: (pre ++ t)) := by
      intro hopen
      exact hb (List.cons_prefix_cons.mp hopen.2).1
    have hafter : inLineAfter false b (pre ++ t) = false := by
      simp [inLineAfter, Ne.symm hb]
    rw [List.cons_append, splitCode_cons, if_neg hopen, hafter, ih hpre]
    rfl

/-- Such bytes alone are the code before a comment. -/
theorem splitCode_of_not_mem {pre : Text} (h : (('/' : Char) : UInt8) ∉ pre) {rest : Text}
    (hrest : rest = [] ∨ ∃ inner, rest = "/*" ++ inner) :
    splitCode false (pre ++ rest) = (pre, rest) := by
  have hstop : splitCode false rest = ([], rest) := by
    rcases hrest with rfl | ⟨inner, rfl⟩
    · rfl
    · rfl
  rw [splitCode_append_of_not_mem h, hstop, List.append_nil]

theorem isCode_of_not_mem {pre : Text} (h : (('/' : Char) : UInt8) ∉ pre) {rest : Text}
    (hrest : rest = [] ∨ ∃ inner, rest = "/*" ++ inner) : IsCode pre rest := by
  have hcode := splitCode_isCode (pre ++ rest)
  rw [splitCode_of_not_mem h hrest] at hcode
  exact hcode

theorem splitCode_spaces (n : Nat) {rest : Text}
    (hrest : rest = [] ∨ ∃ inner, rest = "/*" ++ inner) :
    splitCode false (Text.spaces n ++ rest) = (Text.spaces n, rest) :=
  splitCode_of_not_mem (fun h => absurd (List.mem_replicate.mp h).2 (by decide)) hrest

/-- Code without an opening, up to the end of a line, and then spaces are the code before a
comment. -/
theorem isCode_append_spaces {code : Text} (hopens : ∀ k, ¬ OpensAt code k)
    (hend : code = [] ∨ code.getLast? = some (('\n' : Char) : UInt8)) (n : Nat) {rest : Text}
    (hrest : rest = [] ∨ ∃ inner, rest = "/*" ++ inner) : IsCode (code ++ Text.spaces n) rest := by
  have hsplit : splitCode false (code ++ (Text.spaces n ++ rest))
      = (code ++ Text.spaces n, rest) := by
    rcases hend with rfl | hend
    · exact splitCode_spaces n hrest
    · rw [splitCode_append (fun k => mt opensFrom_false_iff.mp (hopens k)) hend,
        splitCode_spaces n hrest]
  have hcode := splitCode_isCode (code ++ (Text.spaces n ++ rest))
  rw [hsplit] at hcode
  exact hcode

end DocBlock
