import DocBlock.Path
import DocBlock.Proofs.Text.Encoding

/-!
# Resolved paths

A path is resolved element by element, with the elements so far on a stack. The stack is always
`Settled`: above some double dots there are only names. Such elements are not resolved any further
(`foldl_push_of_settled`), so the path that they spell is clean, and it can leave the folder it starts
in only through the double dots in front.

> `isResolved_beside`: the path that a reference has in a file with a relative path is clean,
> relative, and local unless it starts with a double dot.
-/

namespace DocBlock

/-- No piece between separators holds a separator. -/
theorem Text.not_of_mem_splitWhere (p : UInt8 → Bool) (t : Text) :
    ∀ piece ∈ splitWhere p t, ∀ b ∈ piece, p b = false := by
  induction t with
  | nil =>
    intro piece hpiece b hb
    rw [List.mem_singleton.mp hpiece] at hb
    nomatch hb
  | cons c t ih =>
    rw [splitWhere]
    cases hc : p c with
    | true =>
      intro piece hpiece
      rcases List.mem_cons.mp hpiece with rfl | hpiece
      · exact fun b hb => nomatch hb
      · exact ih piece hpiece
    | false =>
      rw [if_neg Bool.false_ne_true, splitWhere_eq_cons] at *
      intro piece hpiece b hb
      rcases List.mem_cons.mp hpiece with rfl | hpiece
      · rcases List.mem_cons.mp hb with rfl | hb
        · exact hc
        · exact ih _ (List.mem_cons_self ..) b hb
      · exact ih piece (List.mem_cons_of_mem _ hpiece) b hb

namespace Path

/-- The name of a file or of a folder. -/
structure IsName (element : Text) : Prop where
  ne_nil : element ≠ []
  ne_dot : element ≠ "."
  ne_dotdot : element ≠ ".."
  no_slash : (('/' : Char) : UInt8) ∉ element

/-- Resolving takes elements away and adds none. -/
theorem push_subset (rooted : Bool) (resolved : List Text) (element : Text) :
    push rooted resolved element ⊆ element :: resolved := by
  fun_cases push rooted resolved element with
  | case1 => exact List.subset_cons_self _ _
  | case2 => exact List.nil_subset _
  | case3 => exact List.Subset.refl _
  | case4 => exact List.Subset.refl _
  | case5 last others =>
    exact List.subset_cons_of_subset _ (List.subset_cons_self _ _)
  | case6 => exact List.Subset.refl _

theorem resolved_subset (path : Text) : resolved path ⊆ elements path := by
  have hfold : ∀ (rooted : Bool) (todo done : List Text),
      todo.foldl (push rooted) done ⊆ done ++ todo := by
    intro rooted todo
    induction todo with
    | nil => exact fun done => by simp
    | cons element todo ih =>
      intro done e he
      rcases List.mem_append.mp (ih _ he) with hpush | hlater
      · rcases List.mem_cons.mp (push_subset rooted done element hpush) with rfl | hdone
        · simp
        · exact List.mem_append_left _ hdone
      · exact List.mem_append_right _ (List.mem_cons_of_mem _ hlater)
  intro e he
  exact hfold _ _ [] (List.mem_reverse.mp he)

/-- Resolved elements, from the last to the first: names, and below them double dots. -/
inductive Settled : List Text → Prop
  | climb (n : Nat) : Settled (List.replicate n (".." : Text))
  | enter {element : Text} {resolved : List Text} (name : IsName element)
      (inner : Settled resolved) : Settled (element :: resolved)

/-! ## One element -/

section
variable {element : Text} {resolved : List Text}

theorem Settled.of_cons (h : Settled (element :: resolved)) :
    (IsName element ∧ Settled resolved) ∨
      (element = ".." ∧ ∃ n, resolved = List.replicate n (".." : Text)) := by
  generalize hstack : element :: resolved = stack at h
  cases h with
  | climb n =>
    cases n with
    | zero => nomatch hstack
    | succ n =>
      obtain ⟨rfl, rfl⟩ := List.cons.inj hstack
      exact Or.inr ⟨rfl, n, rfl⟩
  | enter name inner =>
    obtain ⟨rfl, rfl⟩ := List.cons.inj hstack
    exact Or.inl ⟨name, inner⟩

theorem Settled.tail (h : Settled (element :: resolved)) : Settled resolved := by
  rcases h.of_cons with ⟨-, hrest⟩ | ⟨-, n, rfl⟩
  · exact hrest
  · exact .climb n

theorem Settled.of_append {later : List Text} (h : Settled (later ++ resolved)) :
    Settled resolved := by
  induction later with
  | nil => exact h
  | cons element later ih => exact ih h.tail

/-- One element more leaves the stack settled. -/
theorem Settled.push (h : Settled resolved) (hslash : (('/' : Char) : UInt8) ∉ element) :
    Settled (push false resolved element) := by
  fun_cases Path.push false resolved element with
  | case1 => exact h
  | case2 _ _ hrooted => nomatch hrooted
  | case3 _ hdots =>
    rw [hdots]
    exact .climb 1
  | case4 _ hdots others =>
    -- one more double dot, on top of nothing but double dots
    rcases h.of_cons with ⟨hname, -⟩ | ⟨-, n, rfl⟩
    · exact absurd rfl hname.ne_dotdot
    · rw [hdots]
      exact .climb (n + 2)
  | case5 => exact h.tail
  | case6 _ hempty hdots =>
    obtain ⟨hnil, hdot⟩ := not_or.mp hempty
    exact .enter ⟨hnil, hdot, hdots, hslash⟩ h

/-- Names are not resolved any further. -/
theorem push_of_isName (rooted : Bool) (resolved : List Text) (h : IsName element) :
    push rooted resolved element = element :: resolved := by
  unfold push
  rw [if_neg (not_or.mpr ⟨h.ne_nil, h.ne_dot⟩), if_neg h.ne_dotdot]

/-- An element that belongs on a settled stack is put there as it is. -/
theorem push_of_settled (h : Settled (element :: resolved)) :
    push false resolved element = element :: resolved := by
  rcases h.of_cons with ⟨hname, -⟩ | ⟨rfl, n, rfl⟩
  · exact push_of_isName false resolved hname
  · cases n with
    | zero => rfl
    | succ n => rfl

/-! ## All elements -/

theorem Settled.foldl_push (h : Settled resolved) {elements : List Text}
    (hslash : ∀ element ∈ elements, (('/' : Char) : UInt8) ∉ element) :
    Settled (elements.foldl (Path.push false) resolved) := by
  induction elements generalizing resolved with
  | nil => exact h
  | cons element elements ih =>
    exact ih (h.push (hslash element (List.mem_cons_self ..)))
      fun e he => hslash e (List.mem_cons_of_mem _ he)

/-- Settled elements are not resolved any further. -/
theorem foldl_push_of_settled {elements : List Text} (h : Settled (elements.reverse ++ resolved)) :
    elements.foldl (push false) resolved = elements.reverse ++ resolved := by
  induction elements generalizing resolved with
  | nil => rfl
  | cons element elements ih =>
    rw [List.reverse_cons, List.append_assoc, List.singleton_append] at h ⊢
    rw [List.foldl_cons, push_of_settled h.of_append]
    exact ih h

end

/-! ## The path that elements spell -/

/-- The path with the given elements; a single dot for none. -/
def spelled (elements : List Text) : Text :=
  if elements = [] then "." else Text.join "/" elements

theorem no_slash_of_mem_elements (path : Text) :
    ∀ element ∈ elements path, (('/' : Char) : UInt8) ∉ element := by
  intro element helement hslash
  exact absurd (Text.not_of_mem_splitWhere _ path element helement _ hslash) (by decide)

theorem elements_join {es : List Text} (hslash : ∀ e ∈ es, (('/' : Char) : UInt8) ∉ e)
    (hne : es ≠ []) : elements (Text.join "/" es) = es := by
  rw [elements, Text.splitWhere_eq_splitOnP]
  exact List.splitOn_intercalate _ hslash hne

theorem Settled.mem {stack : List Text} (h : Settled stack) :
    ∀ e ∈ stack, e ≠ [] ∧ (('/' : Char) : UInt8) ∉ e := by
  induction h with
  | climb n =>
    intro e he
    rw [(List.mem_replicate.mp he).2]
    decide
  | enter name inner ih =>
    exact List.forall_mem_cons.mpr ⟨⟨name.ne_nil, name.no_slash⟩, ih⟩

/-- Settled elements are all names, or the first of them is a double dot. -/
theorem Settled.reverse_cases {stack : List Text} (h : Settled stack) :
    (∀ e ∈ stack.reverse, IsName e) ∨ ∃ later, stack.reverse = (".." : Text) :: later := by
  induction h with
  | climb n =>
    rw [List.reverse_replicate]
    cases n with
    | zero => exact Or.inl fun e he => nomatch he
    | succ n => exact Or.inr ⟨_, rfl⟩
  | enter name inner ih =>
    rw [List.reverse_cons]
    rcases ih with hnames | ⟨later, hlater⟩
    · exact Or.inl (List.forall_mem_append.mpr ⟨hnames, List.forall_mem_singleton.mpr name⟩)
    · rw [hlater]
      exact Or.inr ⟨_, rfl⟩

section
variable {es : List Text} (h : Settled es.reverse)
include h

theorem head?_spelled : ∃ b, (spelled es).head? = some b ∧ b ≠ (('/' : Char) : UInt8) := by
  unfold spelled
  cases es with
  | nil => exact ⟨_, rfl, by decide⟩
  | cons e later =>
    obtain ⟨hne, hslash⟩ := h.mem e (List.mem_reverse.mpr (List.mem_cons_self ..))
    have hhead : (Text.join "/" (e :: later)).head? = e.head? := Text.head?_join_cons _ hne later
    rw [if_neg (List.cons_ne_nil e later), hhead]
    obtain ⟨b, e, rfl⟩ := List.exists_cons_of_ne_nil hne
    exact ⟨b, rfl, fun hb => hslash (hb ▸ List.mem_cons_self ..)⟩

theorem elements_spelled (hne : es ≠ []) : elements (spelled es) = es := by
  have hslash : ∀ e ∈ es, (('/' : Char) : UInt8) ∉ e := fun e he =>
    (h.mem e (List.mem_reverse.mpr he)).2
  rw [spelled, if_neg hne, elements_join hslash hne]

end

/-! ## Clean paths -/

section
variable {path : Text} (hpath : path.head? ≠ some (('/' : Char) : UInt8))
include hpath

theorem resolved_of_relative : resolved path = ((elements path).foldl (push false) []).reverse := by
  have hrooted : (path.head? == some (('/' : Char) : UInt8)) = false := by simpa using hpath
  show ((elements path).foldl (push (path.head? == some (('/' : Char) : UInt8))) []).reverse = _
  rw [hrooted]

theorem settled_resolved : Settled (resolved path).reverse := by
  rw [resolved_of_relative hpath, List.reverse_reverse]
  exact Settled.foldl_push (.climb 0) (no_slash_of_mem_elements path)

/-- A relative path is cleaned by spelling its resolved elements. -/
theorem clean_eq_spelled : clean path = spelled (resolved path) := by
  have hrooted : ¬ (path.head? == some (('/' : Char) : UInt8)) = true := by simpa using hpath
  have hempty : (Text.join "/" (resolved path)).isEmpty = true ↔ resolved path = [] := by
    constructor
    · intro hjoin
      by_contra hne
      obtain ⟨b, hb, -⟩ := head?_spelled (settled_resolved hpath)
      rw [spelled, if_neg hne, List.isEmpty_iff.mp hjoin] at hb
      nomatch hb
    · intro hnil
      rw [hnil]
      rfl
  show (if (path.head? == some (('/' : Char) : UInt8)) = true then _ else _) = _
  rw [if_neg hrooted, spelled]
  simp only [hempty]

end

/-- A path that settled elements spell is clean. -/
theorem clean_spelled {es : List Text} (h : Settled es.reverse) :
    clean (spelled es) = spelled es := by
  obtain ⟨b, hb, hne⟩ := head?_spelled h
  have hrelative : (spelled es).head? ≠ some (('/' : Char) : UInt8) := by
    rw [hb]
    exact fun heq => hne (Option.some.inj heq)
  by_cases hnil : es = []
  · rw [hnil]
    rfl
  · have hpush : es.foldl (push false) [] = es.reverse := by
      rw [foldl_push_of_settled (by rw [List.append_nil]; exact h), List.append_nil]
    rw [clean_eq_spelled hrelative, resolved_of_relative hrelative, elements_spelled h hnil, hpush,
      List.reverse_reverse]

/-! ## Resolved paths -/

/-- A path that stands for itself, seen from a folder, and that leaves the folder, if at all, through
a double dot at its start. -/
structure IsResolved (path : Text) : Prop where
  clean : clean path = path
  ne_nil : path ≠ []
  relative : path.head? ≠ some (('/' : Char) : UInt8)
  inside : isLocal path = true ∨ path = ".." ∨ ("../" : Text) <+: path

theorem isLocal_spelled {es : List Text} (h : ∀ e ∈ es, IsName e)
    (hformed : Text.isWellFormed (spelled es) = true) : isLocal (spelled es) = true := by
  unfold isLocal
  by_cases hnil : es = []
  · rw [hnil]
    rfl
  · have hslash : ∀ e ∈ es, (('/' : Char) : UInt8) ∉ e := fun e he => (h e he).no_slash
    have hnames : (elements (spelled es)).all
        (fun e => !(e == [] || e == "." || e == "..")) = true := by
      rw [spelled, if_neg hnil, elements_join hslash hnil, List.all_eq_true]
      intro e he
      simpa using ⟨⟨(h e he).ne_nil, (h e he).ne_dot⟩, (h e he).ne_dotdot⟩
    rw [hformed, hnames]
    simp

theorem isResolved_spelled {es : List Text} (h : Settled es.reverse)
    (hformed : Text.isWellFormed (spelled es) = true) : IsResolved (spelled es) := by
  obtain ⟨b, hb, hne⟩ := head?_spelled h
  refine ⟨clean_spelled h, ?_, ?_, ?_⟩
  · intro hnil
    rw [hnil] at hb
    nomatch hb
  · rw [hb]
    exact fun heq => hne (Option.some.inj heq)
  · have hcases := h.reverse_cases
    rw [List.reverse_reverse] at hcases
    rcases hcases with hnames | ⟨later, rfl⟩
    · exact Or.inl (isLocal_spelled hnames hformed)
    · right
      cases later with
      | nil => exact Or.inl rfl
      | cons e later =>
        right
        rw [spelled, if_neg (List.cons_ne_nil _ _), Text.join_cons _ _ (List.cons_ne_nil _ _)]
        exact List.prefix_append _ _

/-- A relative path is resolved by cleaning. -/
theorem isResolved_clean {path : Text} (hpath : path.head? ≠ some (('/' : Char) : UInt8))
    (hformed : Text.isWellFormed (Path.clean path) = true) : IsResolved (Path.clean path) := by
  rw [clean_eq_spelled hpath] at hformed ⊢
  exact isResolved_spelled (settled_resolved hpath) hformed

/-! ## References -/

section
variable {path : Text} (hpath : path.head? ≠ some (('/' : Char) : UInt8))
include hpath

theorem head?_clean : ∃ b, (Path.clean path).head? = some b ∧ b ≠ (('/' : Char) : UInt8) := by
  rw [clean_eq_spelled hpath]
  exact head?_spelled (settled_resolved hpath)

theorem head?_folderPart : (folderPart path).head? ≠ some (('/' : Char) : UInt8) := by
  rw [← Text.dropWhileRight_append (· != (('/' : Char) : UInt8)) path, List.head?_append] at hpath
  intro hslash
  change (folderPart path).head?.or _ ≠ _ at hpath
  rw [hslash] at hpath
  exact hpath rfl

/-- A reference is cleaned after the folder of a relative path, so it is relative as well. -/
theorem beside_eq_clean (reference : Text) :
    ∃ full, beside path reference = Path.clean full ∧
      full.head? ≠ some (('/' : Char) : UInt8) := by
  obtain ⟨b, hb, hne⟩ := head?_clean (head?_folderPart hpath)
  change (directory path).head? = some b at hb
  obtain ⟨rest, hrest⟩ := List.head?_eq_some_iff.mp hb
  refine ⟨directory path ++ "/" ++ reference, ?_, ?_⟩
  · rw [beside, joined, hrest]
    rfl
  · rw [hrest]
    exact fun heq => hne (Option.some.inj heq)

/-- The path that a reference has in a file with a relative path is resolved. -/
theorem isResolved_beside {reference : Text}
    (hformed : Text.isWellFormed (beside path reference) = true) :
    IsResolved (beside path reference) := by
  obtain ⟨full, hfull, hrelative⟩ := beside_eq_clean hpath reference
  rw [hfull] at hformed ⊢
  exact isResolved_clean hrelative hformed

theorem relative_beside (reference : Text) :
    (beside path reference).head? ≠ some (('/' : Char) : UInt8) := by
  obtain ⟨full, hfull, hrelative⟩ := beside_eq_clean hpath reference
  obtain ⟨b, hb, hne⟩ := head?_clean hrelative
  rw [hfull, hb]
  exact fun heq => hne (Option.some.inj heq)

end

/-! ## Local paths -/

theorem Settled.of_names {stack : List Text} (h : ∀ e ∈ stack, IsName e) : Settled stack := by
  induction stack with
  | nil => exact .climb 0
  | cons e stack ih =>
    exact .enter (h e (List.mem_cons_self ..)) (ih fun d hd => h d (List.mem_cons_of_mem _ hd))

/-- A local path is spelled by names alone. -/
theorem exists_names {path : Text} (h : isLocal path = true) :
    Text.isWellFormed path = true ∧ ∃ es, (∀ e ∈ es, IsName e) ∧ path = spelled es := by
  rw [isLocal, Bool.or_eq_true] at h
  rcases h with h | h
  · rw [beq_iff_eq.mp h]
    exact ⟨by decide, [], (fun e he => nomatch he), rfl⟩
  · rw [Bool.and_eq_true, List.all_eq_true] at h
    obtain ⟨hformed, hnames⟩ := h
    refine ⟨hformed, elements path, fun e he => ?_, ?_⟩
    · have hname : (e ≠ [] ∧ e ≠ ".") ∧ e ≠ ".." := by simpa using hnames e he
      exact ⟨hname.1.1, hname.1.2, hname.2, no_slash_of_mem_elements path e he⟩
    · have hjoin : Text.join "/" (elements path) = path := by
        rw [elements, Text.splitWhere_eq_splitOnP]
        exact List.intercalate_splitOn _
      have hne : elements path ≠ [] := by
        rw [elements, Text.splitWhere_eq_cons]
        exact List.cons_ne_nil _ _
      rw [spelled, if_neg hne, hjoin]

theorem isResolved_of_isLocal {path : Text} (h : isLocal path = true) : IsResolved path := by
  obtain ⟨hformed, es, hnames, rfl⟩ := exists_names h
  exact isResolved_spelled (.of_names fun e he => hnames e (List.mem_reverse.mp he)) hformed

/-- A local path does not start with a double dot. -/
theorem not_dotdot_of_isLocal {path : Text} (h : isLocal path = true) :
    path ≠ ".." ∧ ¬ ("../" : Text) <+: path := by
  refine ⟨?_, ?_⟩
  · rintro rfl
    exact absurd h (by decide)
  · rintro ⟨rest, rfl⟩
    have helements : elements ("../" ++ rest) = (".." : Text) :: elements rest := rfl
    rw [isLocal, Bool.or_eq_true, Bool.and_eq_true, helements, List.all_cons] at h
    rcases h with h | ⟨-, h⟩
    · nomatch beq_iff_eq.mp h
    · simp at h

end Path

end DocBlock
