import DocBlock.Proofs.Files.Disk
import DocBlock.Proofs.Files.Named

/-!
# The folder of a file

A walk along a path that leads somewhere goes through folders. Taking out a name and the double dot
behind it takes out a way to a folder and back, so the resolved elements lead to the same place
(`walk_resolved`), and all but the last of them lead to a folder:

> `exists_folder_of_resolve`: if a path leads to anything, the directory of its clean form leads to a
> folder.
-/

namespace DocBlock

/-! ## The bytes of a clean path -/

namespace Path

/-- Every byte of a resolved element is a byte of the path. -/
theorem mem_of_mem_resolved {path e : Text} {b : UInt8} (he : e ∈ resolved path) (hb : b ∈ e) :
    b ∈ path := by
  have hflat : b ∈ (elements path).flatten := List.mem_flatten.mpr ⟨e, resolved_subset path he, hb⟩
  rw [elements, Text.flatten_splitWhere] at hflat
  exact (List.mem_filter.mp hflat).1

theorem of_mem_spell {rooted : Bool} {es : List Text} {b : UInt8} (h : b ∈ spell rooted es) :
    b = (('/' : Char) : UInt8) ∨ b = (('.' : Char) : UInt8) ∨ ∃ e ∈ es, b ∈ e := by
  have hjoin (hb : b ∈ Text.join "/" es) : b = (('/' : Char) : UInt8) ∨ ∃ e ∈ es, b ∈ e :=
    (Text.of_mem_join hb).imp_left List.mem_singleton.mp
  unfold spell at h
  split at h
  · rcases List.mem_cons.mp h with hslash | hb
    · exact Or.inl hslash
    · exact (hjoin hb).imp_right Or.inr
  · unfold spelled at h
    split at h
    · exact Or.inr (Or.inl (List.mem_singleton.mp h))
    · exact (hjoin h).imp_right Or.inr

/-- The elements of a spelled path that are not empty. -/
theorem filter_elements_spell {rooted : Bool} {es : List Text} (h : IsSettled rooted es)
    (hne : es ≠ []) : (elements (spell rooted es)).filter (!·.isEmpty) = es := by
  have hall : es.filter (!·.isEmpty) = es := by
    rw [List.filter_eq_self]
    intro e he
    have hnil := (h.settled.mem e (List.mem_reverse.mpr he)).1
    simpa using hnil
  cases rooted with
  | false =>
    show (elements (spelled es)).filter _ = es
    rw [elements_spelled h.settled hne, hall]
  | true =>
    have hcut : elements (spell true es) = [] :: elements (Text.join "/" es) := rfl
    rw [hcut, elements_join (fun e he => (h.names rfl e he).no_slash) hne]
    exact hall

end Path

namespace Disk

section
variable {disk : Disk} {element : Text}

/-! ## Walking along resolved elements -/

theorem exists_folder_of_step {place found : Place} (h : disk.step place element = .ok found) :
    ∃ names, place = .folder names := by
  cases place with
  | file names text => nomatch h
  | folder names => exact ⟨names, rfl⟩

/-- A name leads to a folder only one further down. -/
theorem eq_append_of_step {above names : List Text} (hname : Path.IsName element)
    (h : disk.step (.folder above) element = .ok (.folder names)) : names = above ++ [element] := by
  rw [step, if_neg hname.ne_dot, if_neg hname.ne_dotdot] at h
  split at h
  · cases h
  · exact lookUp_eq_folder h

/-- Resolving an element on the stack and walking there is walking to the stack and on. -/
theorem walk_push {rooted : Bool} {start stack : List Text} (hstart : rooted = true → start = [])
    (hsettled : Path.IsSettled rooted stack.reverse) {place found : Place}
    (hwalk : stack.reverse.foldlM disk.step (.folder start) = .ok place) (hne : element ≠ [])
    (hstep : disk.step place element = .ok found) :
    (Path.push rooted stack element).reverse.foldlM disk.step (.folder start) = .ok found := by
  obtain ⟨names, rfl⟩ := exists_folder_of_step hstep
  have hnext : (stack.reverse ++ [element]).foldlM disk.step (.folder start) = .ok found := by
    rw [walk_concat, hwalk]
    exact hstep
  fun_cases Path.push rooted stack element with
  | case1 _ hempty =>
    rw [hempty.resolve_left hne] at hstep
    exact hwalk.trans hstep
  | case2 hempty hdots hrooted =>
    obtain rfl : start = names := Place.folder.inj (Except.ok.inj hwalk)
    rw [hdots, hstart hrooted] at hstep
    rw [hstart hrooted]
    exact hstep
  | case3 => exact hnext
  | case4 =>
    rw [List.reverse_cons]
    exact hnext
  | case5 hempty hdots last others hlast =>
    -- the last name leads down to a folder, and the double dot back up
    have hstack := hsettled.settled
    rw [List.reverse_reverse] at hstack
    have hname : Path.IsName last := by
      rcases hstack.of_cons with ⟨hname, -⟩ | ⟨hdot, -⟩
      · exact hname
      · exact absurd hdot hlast
    rw [List.reverse_cons] at hwalk
    obtain ⟨above, hup, hdown⟩ := exists_folder_of_walk hwalk
    obtain rfl := eq_append_of_step hname hdown
    have hback : disk.step (.folder (above ++ [last])) (".." : Text) = .ok (.folder above) := by
      show Except.ok (Place.folder (above ++ [last]).dropLast) = _
      rw [List.dropLast_concat]
    rw [hdots, hback] at hstep
    rw [hup, ← hstep]
  | case6 =>
    rw [List.reverse_cons]
    exact hnext

theorem walk_foldl_push {rooted : Bool} {start : List Text} (hstart : rooted = true → start = [])
    {elements : List Text} (hslash : ∀ e ∈ elements, (('/' : Char) : UInt8) ∉ e)
    (hne : ∀ e ∈ elements, e ≠ []) {stack : List Text}
    (hsettled : Path.IsSettled rooted stack.reverse) {place found : Place}
    (hwalk : stack.reverse.foldlM disk.step (.folder start) = .ok place)
    (h : elements.foldlM disk.step place = .ok found) :
    (elements.foldl (Path.push rooted) stack).reverse.foldlM disk.step (.folder start)
      = .ok found := by
  induction elements generalizing stack place with
  | nil => exact hwalk.trans h
  | cons element elements ih =>
    obtain ⟨helement, helements⟩ := List.forall_mem_cons.mp hslash
    obtain ⟨hnil, hnils⟩ := List.forall_mem_cons.mp hne
    rw [List.foldlM_cons] at h
    cases hstep : disk.step place element with
    | error cause =>
      rw [hstep] at h
      nomatch h
    | ok next =>
      rw [hstep] at h
      exact ih helements hnils (hsettled.push helement) (walk_push hstart hsettled hwalk hnil hstep) h

/-! ## Walking along a path -/

section
variable {path : Text}

theorem foldl_push_filter (rooted : Bool) (stack es : List Text) :
    (es.filter (!·.isEmpty)).foldl (Path.push rooted) stack = es.foldl (Path.push rooted) stack := by
  induction es generalizing stack with
  | nil => rfl
  | cons e es ih =>
    by_cases hempty : e.isEmpty = true
    · rw [List.filter_cons_of_neg (by simpa using hempty), ih, List.foldl_cons,
        List.isEmpty_iff.mp hempty]
      rfl
    · rw [List.filter_cons_of_pos (by simpa using hempty), List.foldl_cons, ih, List.foldl_cons]

/-- The elements that a path is followed by resolve as the elements of the path do. -/
theorem resolved_eq_elements (path : Text) :
    Path.resolved path
      = ((elements path).foldl (Path.push (Path.isRooted path)) []).reverse := by
  rw [Path.resolved_eq, elements_eq, List.foldl_append, foldl_push_filter]
  congr 1
  split
  · rfl
  · rfl

theorem of_mem_elements {e : Text} (h : e ∈ elements path) :
    e ≠ [] ∧ (('/' : Char) : UInt8) ∉ e := by
  rw [elements_eq, List.mem_append] at h
  rcases h with h | h
  · obtain ⟨helement, hempty⟩ := List.mem_filter.mp h
    exact ⟨by simpa using hempty, Path.no_slash_of_mem_elements path e helement⟩
  · split at h
    · rw [List.mem_singleton.mp h]
      decide
    · nomatch h

theorem bytes_of_resolve {place : Place} (h : disk.resolve path = .ok place) :
    path.any (· == 0) = false ∧ path ≠ [] := by
  refine ⟨no_zero_of_resolve (by rw [h]; exact nofun), ?_⟩
  rintro rfl
  nomatch h

/-- The resolved elements of a path lead where the path leads. -/
theorem walk_resolved {place : Place} (h : disk.resolve path = .ok place) :
    (Path.resolved path).foldlM disk.step (.folder (disk.start path)) = .ok place := by
  obtain ⟨hnul, hne⟩ := bytes_of_resolve h
  have hnone : Path.IsSettled (Path.isRooted path) ([] : List Text).reverse :=
    ⟨.climb 0, fun _ e he => nomatch he⟩
  rw [resolve_eq _ hnul hne] at h
  rw [resolved_eq_elements]
  exact walk_foldl_push (fun hrooted => if_pos hrooted) (fun e he => (of_mem_elements he).2)
    (fun e he => (of_mem_elements he).1) hnone rfl h

/-- A walk to a folder is not changed by a slash at the end of the path. -/
theorem resolve_of_walk {names : List Text} (hnul : path.any (· == 0) = false) (hne : path ≠ [])
    (h : ((Path.elements path).filter (!·.isEmpty)).foldlM disk.step (.folder (disk.start path))
      = .ok (.folder names)) : disk.resolve path = .ok (.folder names) := by
  rw [resolve_eq _ hnul hne, elements_eq]
  split
  · rw [walk_concat, h]
    rfl
  · rw [List.append_nil, h]

/-- If a path leads to anything, the directory of its clean form leads to a folder. -/
theorem exists_folder_of_resolve {place : Place} (h : disk.resolve path = .ok place) :
    ∃ names, disk.resolve (Path.directory (Path.clean path)) = .ok (.folder names) := by
  have hwalk := walk_resolved h
  have hzero := (bytes_of_resolve h).1
  have hsettled := Path.isSettled_resolved path
  have hbytes : ∀ e ∈ Path.resolved path, (0 : UInt8) ∉ e := by
    intro e he hb
    rw [List.any_eq_false] at hzero
    exact hzero 0 (Path.mem_of_mem_resolved he hb) rfl
  rw [start_eq] at hwalk
  rw [Path.clean_eq_spell]
  generalize Path.isRooted path = rooted at hwalk hsettled
  generalize Path.resolved path = es at hwalk hsettled hbytes
  rcases List.eq_nil_or_concat es with rfl | ⟨init, name, hes⟩
  · -- the root or the working folder is its own directory
    cases rooted with
    | false => exact ⟨disk.working, rfl⟩
    | true => exact ⟨[], rfl⟩
  · rw [List.concat_eq_append] at hes
    subst hes
    have hslash := (hsettled.settled.mem name (by simp)).2
    obtain ⟨names, hfolder, -⟩ := exists_folder_of_walk hwalk
    rw [Path.directory_spell hsettled hslash]
    have hinit := hsettled.init
    by_cases hnil : init = []
    · subst hnil
      cases rooted with
      | false => exact ⟨disk.working, rfl⟩
      | true => exact ⟨[], rfl⟩
    · refine ⟨names, resolve_of_walk ?_ (Path.spell_ne_nil _ hinit) ?_⟩
      · rw [List.any_eq_false]
        intro b hb hnul
        rw [beq_iff_eq.mp hnul] at hb
        rcases Path.of_mem_spell hb with hb | hb | ⟨e, he, hb⟩
        · nomatch hb
        · nomatch hb
        · exact hbytes e (List.mem_append_left _ he) hb
      · rw [Path.filter_elements_spell hinit hnil, start_eq, (Path.resolved_spell hinit).1, hfolder]

end

end

end Disk

end DocBlock
