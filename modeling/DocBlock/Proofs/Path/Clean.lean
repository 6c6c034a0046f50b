import DocBlock.Proofs.Path

/-!
# Clean paths

A path is rooted or not, and has resolved elements. Both together say all that its clean form says:

> `clean_eq_clean_iff`: two paths have the same clean form exactly if both or neither start at the
> root and they resolve to the same elements.

A clean path whose last element is a name is a name in the folder that its directory names
(`clean_directory_append`).
-/

namespace DocBlock.Path

/-- Whether a path starts at the root. -/
def isRooted (path : Text) : Bool := path.head? == some (('/' : Char) : UInt8)

/-- The path with the given elements, from the root or not. -/
def spell (rooted : Bool) (es : List Text) : Text :=
  if rooted then (('/' : Char) : UInt8) :: Text.join "/" es else spelled es

/-- Elements that a path can resolve to. Only a path that is not rooted can climb. -/
structure IsSettled (rooted : Bool) (es : List Text) : Prop where
  settled : Settled es.reverse
  names : rooted = true → ∀ e ∈ es, IsName e

section
variable {es : List Text} {element folder name : Text}

/-! ## Rooted paths -/

theorem push_rooted (hresolved : ∀ e ∈ es, IsName e) (hslash : (('/' : Char) : UInt8) ∉ element) :
    ∀ e ∈ push true es element, IsName e := by
  fun_cases push true es element with
  | case1 => exact hresolved
  | case2 => exact fun e he => absurd he List.not_mem_nil
  | case3 _ _ hrooted => exact absurd rfl hrooted
  | case4 _ hdots others => exact absurd rfl (hresolved _ (List.mem_cons_self ..)).ne_dotdot
  | case5 => exact fun e he => hresolved e (List.mem_cons_of_mem _ he)
  | case6 _ hempty hdots =>
    obtain ⟨hnil, hdot⟩ := not_or.mp hempty
    exact List.forall_mem_cons.mpr ⟨⟨hnil, hdot, hdots, hslash⟩, hresolved⟩

/-- One element more leaves the elements settled. -/
theorem IsSettled.push {rooted : Bool} {stack : List Text} (h : IsSettled rooted stack.reverse)
    (hslash : (('/' : Char) : UInt8) ∉ element) :
    IsSettled rooted (push rooted stack element).reverse := by
  cases rooted with
  | false =>
    have hsettled := h.settled
    rw [List.reverse_reverse] at hsettled
    refine ⟨?_, fun hrooted => absurd hrooted Bool.false_ne_true⟩
    rw [List.reverse_reverse]
    exact hsettled.push hslash
  | true =>
    have hnames := push_rooted (fun e he => h.names rfl e (List.mem_reverse.mpr he)) hslash
    refine ⟨?_, fun _ e he => hnames e (List.mem_reverse.mp he)⟩
    rw [List.reverse_reverse]
    exact .of_names hnames

theorem foldl_push_of_names (rooted : Bool) (resolved : List Text) (h : ∀ e ∈ es, IsName e) :
    es.foldl (push rooted) resolved = es.reverse ++ resolved := by
  induction es generalizing resolved with
  | nil => rfl
  | cons e es ih =>
    obtain ⟨he, hes⟩ := List.forall_mem_cons.mp h
    rw [List.foldl_cons, push_of_isName rooted resolved he, ih _ hes, List.reverse_cons,
      List.append_assoc, List.singleton_append]

/-- Settled elements without a double dot are names. -/
theorem IsSettled.names_of_not_mem {rooted : Bool} (h : IsSettled rooted es)
    (hdots : (".." : Text) ∉ es) : ∀ e ∈ es, IsName e := by
  have hcases := h.settled.reverse_cases
  rw [List.reverse_reverse] at hcases
  rcases hcases with hnames | ⟨later, rfl⟩
  · exact hnames
  · exact absurd (List.mem_cons_self ..) hdots

/-! ## Resolving a spelled path -/

theorem resolved_eq (path : Text) :
    resolved path = ((elements path).foldl (push (isRooted path)) []).reverse := rfl

theorem isSettled_resolved (path : Text) : IsSettled (isRooted path) (resolved path) := by
  have hslash := no_slash_of_mem_elements path
  have hnone : IsSettled (isRooted path) ([] : List Text).reverse :=
    ⟨.climb 0, fun _ e he => nomatch he⟩
  rw [resolved_eq]
  generalize ([] : List Text) = stack at hnone
  generalize elements path = es at hslash
  induction es generalizing stack with
  | nil => exact hnone
  | cons element es ih =>
    obtain ⟨helement, hes⟩ := List.forall_mem_cons.mp hslash
    exact ih _ (hnone.push helement) hes

/-- A clean path is spelled from its resolved elements. -/
theorem clean_eq_spell (path : Text) : clean path = spell (isRooted path) (resolved path) := by
  cases hrooted : isRooted path with
  | false =>
    have hrelative : path.head? ≠ some (('/' : Char) : UInt8) := by simpa [isRooted] using hrooted
    exact clean_eq_spelled hrelative
  | true => exact if_pos hrooted

theorem spell_ne_nil (rooted : Bool) (h : IsSettled rooted es) : spell rooted es ≠ [] := by
  cases rooted with
  | false =>
    obtain ⟨b, hb, -⟩ := head?_spelled h.settled
    intro hnil
    change (spell false es).head? = some b at hb
    rw [hnil] at hb
    nomatch hb
  | true => exact List.cons_ne_nil _ _

theorem clean_ne_nil (path : Text) : clean path ≠ [] := by
  rw [clean_eq_spell]
  exact spell_ne_nil _ (isSettled_resolved path)

/-- A spelled path starts where it should and resolves to its elements. -/
theorem resolved_spell {rooted : Bool} (h : IsSettled rooted es) :
    isRooted (spell rooted es) = rooted ∧ resolved (spell rooted es) = es := by
  cases rooted with
  | false =>
    obtain ⟨b, hb, hne⟩ := head?_spelled h.settled
    have hrelative : (spelled es).head? ≠ some (('/' : Char) : UInt8) := by
      rw [hb]
      exact fun heq => hne (Option.some.inj heq)
    refine ⟨by simpa [isRooted, spell] using hrelative, ?_⟩
    show resolved (spelled es) = es
    by_cases hnil : es = []
    · rw [hnil]
      rfl
    · have hsettled := h.settled
      rw [← List.append_nil es.reverse] at hsettled
      rw [resolved_of_relative hrelative, elements_spelled h.settled hnil,
        foldl_push_of_settled hsettled, List.append_nil, List.reverse_reverse]
  | true =>
    have hnames := h.names rfl
    have hcut : elements (spell true es) = [] :: elements (Text.join "/" es) := rfl
    have hempty (later : List Text) :
        ([] :: later).foldl (push true) [] = later.foldl (push true) [] := rfl
    refine ⟨rfl, ?_⟩
    show ((elements (spell true es)).foldl (push true) []).reverse = es
    rw [hcut, hempty]
    by_cases hnil : es = []
    · rw [hnil]
      rfl
    · rw [elements_join (fun e he => (hnames e he).no_slash) hnil,
        foldl_push_of_names true [] hnames, List.append_nil, List.reverse_reverse]

theorem resolved_clean (path : Text) :
    isRooted (clean path) = isRooted path ∧ resolved (clean path) = resolved path := by
  rw [clean_eq_spell]
  exact resolved_spell (isSettled_resolved path)

/-- Paths have the same clean form exactly if they start at the same folder and resolve to the same
elements. -/
theorem clean_eq_clean_iff {x y : Text} :
    clean x = clean y ↔ isRooted x = isRooted y ∧ resolved x = resolved y := by
  constructor
  · intro h
    obtain ⟨hrooted, hresolved⟩ := resolved_clean x
    rw [h, (resolved_clean y).1] at hrooted
    rw [h, (resolved_clean y).2] at hresolved
    exact ⟨hrooted.symm, hresolved.symm⟩
  · rintro ⟨hrooted, hresolved⟩
    rw [clean_eq_spell, clean_eq_spell, hrooted, hresolved]

theorem clean_clean (path : Text) : clean (clean path) = clean path :=
  clean_eq_clean_iff.mpr (resolved_clean path)

/-! ## Names in folders -/

theorem elements_append_name (folder : Text) (hslash : (('/' : Char) : UInt8) ∉ name) :
    elements (folder ++ "/" ++ name) = elements folder ++ [name] := by
  have hname : Text.splitWhere (· == (('/' : Char) : UInt8)) name = [name] := by
    refine Text.splitWhere_eq_singleton fun b hb => ?_
    rw [beq_eq_false_iff_ne]
    rintro rfl
    exact hslash hb
  rw [List.append_assoc, elements, elements, ← hname]
  exact Text.splitWhere_append_cons (by decide) folder name

theorem isRooted_append (hfolder : folder ≠ []) (t : Text) :
    isRooted (folder ++ t) = isRooted folder := by
  obtain ⟨b, folder, rfl⟩ := List.exists_cons_of_ne_nil hfolder
  rfl

/-- A name in a folder is one element more. -/
theorem resolved_append_name (hfolder : folder ≠ []) (hname : IsName name) :
    isRooted (folder ++ "/" ++ name) = isRooted folder ∧
      resolved (folder ++ "/" ++ name) = resolved folder ++ [name] := by
  have hrooted : isRooted (folder ++ "/" ++ name) = isRooted folder := by
    rw [List.append_assoc, isRooted_append hfolder]
  refine ⟨hrooted, ?_⟩
  rw [resolved_eq, hrooted, elements_append_name folder hname.no_slash, List.foldl_append,
    List.foldl_cons, List.foldl_nil, push_of_isName _ _ hname, List.reverse_cons, ← resolved_eq]

/-- The folder part of a name behind a slash, or of a name alone. -/
theorem folderPart_append (hname : (('/' : Char) : UInt8) ∉ name)
    (hfolder : ∀ b ∈ folder.getLast?, b = (('/' : Char) : UInt8)) :
    folderPart (folder ++ name) = folder := by
  have hpass : ∀ b ∈ name.reverse, (b != (('/' : Char) : UInt8)) = true :=
    Text.bne_of_not_mem (mt List.mem_reverse.mp hname)
  have hstop : folder.reverse.dropWhile (· != (('/' : Char) : UInt8)) = folder.reverse := by
    rw [← List.head?_reverse] at hfolder
    cases hreverse : folder.reverse with
    | nil => rfl
    | cons b later =>
      rw [hreverse] at hfolder
      rw [hfolder b rfl]
      exact List.dropWhile_cons_of_neg (by decide)
  rw [folderPart, Text.dropWhileRight, List.reverse_append, List.dropWhile_append_of_pos hpass,
    hstop, List.reverse_reverse]

/-- The part of a spelled path before its last name. -/
theorem exists_spell_append (rooted : Bool) (es : List Text) (name : Text) :
    ∃ folder, spell rooted (es ++ [name]) = folder ++ name ∧
      (∀ b ∈ folder.getLast?, b = (('/' : Char) : UInt8)) ∧
      (IsSettled rooted es → clean folder = spell rooted es) := by
  by_cases hnil : es = []
  · -- the name stands alone, or right behind the root
    subst hnil
    cases rooted with
    | false =>
      refine ⟨[], ?_, (fun b hb => nomatch hb), fun _ => rfl⟩
      show spelled [name] = name
      rw [spelled, if_neg (List.cons_ne_nil _ _), Text.join_singleton]
    | true =>
      refine ⟨"/", ?_, fun b hb => (Option.some.inj hb).symm, fun _ => rfl⟩
      show (('/' : Char) : UInt8) :: Text.join "/" [name] = _
      rw [Text.join_singleton]
      rfl
  · refine ⟨spell rooted es ++ "/", ?_, fun b hb => ?_, fun h => ?_⟩
    · have hjoin := Text.join_append "/" hnil (List.cons_ne_nil name [])
      rw [Text.join_singleton] at hjoin
      cases rooted with
      | false => rw [spell, spell, if_neg Bool.false_ne_true, if_neg Bool.false_ne_true, spelled,
          if_neg (List.append_ne_nil_of_left_ne_nil hnil _), spelled, if_neg hnil, hjoin]
      | true => rw [spell, spell, if_pos rfl, if_pos rfl, hjoin, List.cons_append, List.cons_append]
    · rw [List.getLast?_append] at hb
      exact (Option.some.inj hb).symm
    · obtain ⟨hrooted, hes⟩ := resolved_spell h
      have hcut : elements (spell rooted es ++ "/") = elements (spell rooted es) ++ [[]] :=
        Text.splitWhere_append_cons (by decide) _ []
      have hresolved : resolved (spell rooted es ++ "/") = es := by
        rw [resolved_eq, isRooted_append (spell_ne_nil rooted h), hcut, List.foldl_append]
        exact hes
      rw [clean_eq_spell, isRooted_append (spell_ne_nil rooted h), hrooted, hresolved]

theorem IsSettled.init {rooted : Bool} (h : IsSettled rooted (es ++ [name])) :
    IsSettled rooted es := by
  have hsettled := h.settled
  rw [List.reverse_append, List.reverse_singleton, List.singleton_append] at hsettled
  exact ⟨hsettled.tail, fun hrooted e he => h.names hrooted e (List.mem_append_left _ he)⟩

/-- The directory of a clean path is the path without its last element. -/
theorem directory_spell {rooted : Bool} (h : IsSettled rooted (es ++ [name]))
    (hname : (('/' : Char) : UInt8) ∉ name) :
    directory (spell rooted (es ++ [name])) = spell rooted es := by
  obtain ⟨folder, hspell, hslash, hclean⟩ := exists_spell_append rooted es name
  rw [directory, hspell, folderPart_append hname hslash, hclean h.init]

/-- The directory of a clean path that does not leave its folder starts there too, and does not leave
it either. -/
theorem directory_clean {path : Text} (hdots : (".." : Text) ∉ resolved path) :
    isRooted (directory (clean path)) = isRooted path ∧
      (".." : Text) ∉ resolved (directory (clean path)) := by
  have hsettled := isSettled_resolved path
  rw [clean_eq_spell path]
  generalize resolved path = es at hdots hsettled ⊢
  generalize isRooted path = rooted at hsettled ⊢
  rcases List.eq_nil_or_concat es with rfl | ⟨init, name, rfl⟩
  · cases rooted with
    | false => decide
    | true => decide
  · rw [List.concat_eq_append] at hdots hsettled ⊢
    have hname := hsettled.names_of_not_mem hdots name (by simp)
    obtain ⟨hrooted, hes⟩ := resolved_spell hsettled.init
    rw [directory_spell hsettled hname.no_slash, hes]
    exact ⟨hrooted, fun hmem => hdots (List.mem_append_left _ hmem)⟩

/-- A clean path that ends with a name is this name in its directory. -/
theorem clean_directory_append {path : Text} (hresolved : resolved path = es ++ [name])
    (hname : IsName name) :
    clean (directory (clean path) ++ "/" ++ name) = clean path := by
  have hsettled := isSettled_resolved path
  rw [hresolved] at hsettled
  obtain ⟨hrooted, hes⟩ := resolved_spell hsettled.init
  obtain ⟨hrooted', hes'⟩ := resolved_append_name (spell_ne_nil _ hsettled.init) hname
  rw [clean_eq_spell path, hresolved, directory_spell hsettled hname.no_slash, clean_eq_spell,
    hrooted', hes', hrooted, hes]

end

end DocBlock.Path
