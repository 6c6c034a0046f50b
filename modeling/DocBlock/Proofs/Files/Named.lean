import DocBlock.Files.Change
import DocBlock.Proofs.Path.Clean

/-!
# The places that paths name

A path names a place by its spelling alone. Cleaning it does not change the place (`named_clean`), and
the path of an entry in a folder names the entry at the place of the folder (`named_append_name`).
The working folder and the folders above it are folders. Every other place that a path names ends
with a name:

> `exists_resolved_of_named`: a path that names no folder resolves to a name behind the elements of
> its folder;
> `mem_written_iff`: a change writes or creates the entries of its file and of the folders that are
> missing above it;
> `exists_name_of_mem_written`: these entries have names.
-/

namespace DocBlock.Disk

section
variable {disk : Disk} {path : Text} {names : List Text} {element name : Text}

/-! ## Following resolved elements -/

theorem enter_of_isName (names : List Text) (h : Path.IsName name) :
    enter names name = names ++ [name] := by
  rw [enter, if_neg (not_or.mpr ⟨h.ne_nil, h.ne_dot⟩), if_neg h.ne_dotdot]

theorem foldl_enter_of_names (start : List Text) {es : List Text} (h : ∀ e ∈ es, Path.IsName e) :
    es.foldl enter start = start ++ es := by
  induction es generalizing start with
  | nil => exact (List.append_nil start).symm
  | cons e es ih =>
    obtain ⟨he, hes⟩ := List.forall_mem_cons.mp h
    rw [List.foldl_cons, enter_of_isName start he, ih _ hes, List.append_assoc, List.singleton_append]

/-- Resolving an element and then following the elements is following it after them. -/
theorem foldl_enter_push {rooted : Bool} {start stack : List Text}
    (hstart : rooted = true → start = []) (h : Path.IsSettled rooted stack.reverse) :
    (Path.push rooted stack element).reverse.foldl enter start
      = enter (stack.reverse.foldl enter start) element := by
  have hsettled := h.settled
  rw [List.reverse_reverse] at hsettled
  fun_cases Path.push rooted stack element with
  | case1 _ hempty => rw [enter, if_pos hempty]
  | case2 hempty hdots hrooted =>
    rw [hstart hrooted, enter, if_neg hempty, if_pos hdots]
    rfl
  | case3 => rfl
  | case4 => rw [List.reverse_cons, List.foldl_append, List.foldl_cons, List.foldl_nil]
  | case5 hempty hdots last others hlast =>
    -- the double dot takes away the name on top
    have hname : Path.IsName last := by
      rcases hsettled.of_cons with ⟨hname, -⟩ | ⟨hdot, -⟩
      · exact hname
      · exact absurd hdot hlast
    rw [List.reverse_cons, List.foldl_append, List.foldl_cons, List.foldl_nil,
      enter_of_isName _ hname, enter, if_neg hempty, if_pos hdots, List.dropLast_concat]
  | case6 => rw [List.reverse_cons, List.foldl_append, List.foldl_cons, List.foldl_nil]

/-- Following the resolved elements of a path is following its elements. -/
theorem foldl_enter_foldl_push {rooted : Bool} {start stack : List Text}
    (hstart : rooted = true → start = []) (h : Path.IsSettled rooted stack.reverse)
    {elements : List Text} (hslash : ∀ e ∈ elements, (('/' : Char) : UInt8) ∉ e) :
    (elements.foldl (Path.push rooted) stack).reverse.foldl enter start
      = elements.foldl enter (stack.reverse.foldl enter start) := by
  induction elements generalizing stack with
  | nil => rfl
  | cons element elements ih =>
    obtain ⟨helement, helements⟩ := List.forall_mem_cons.mp hslash
    rw [List.foldl_cons, ih (h.push helement) helements, foldl_enter_push hstart h, List.foldl_cons]

theorem start_eq (disk : Disk) (path : Text) :
    disk.start path = if Path.isRooted path then [] else disk.working := rfl

/-- The place of a path depends on where it starts and on its resolved elements. -/
theorem named_eq (disk : Disk) (path : Text) :
    disk.named path = (Path.resolved path).foldl enter
      (if Path.isRooted path then [] else disk.working) := by
  have hnone : Path.IsSettled (Path.isRooted path) ([] : List Text).reverse :=
    ⟨.climb 0, fun _ e he => nomatch he⟩
  rw [Path.resolved_eq, foldl_enter_foldl_push (fun hrooted => if_pos hrooted) hnone
    (Path.no_slash_of_mem_elements path)]
  rfl

theorem named_congr {x y : Text} (h : Path.clean x = Path.clean y) : disk.named x = disk.named y := by
  obtain ⟨hrooted, hresolved⟩ := Path.clean_eq_clean_iff.mp h
  rw [named_eq, named_eq, hrooted, hresolved]

theorem named_clean (disk : Disk) (path : Text) : disk.named (Path.clean path) = disk.named path := by
  obtain ⟨hrooted, hresolved⟩ := Path.resolved_clean path
  rw [named_eq, named_eq, hrooted, hresolved]

/-- The path of an entry in a folder names the entry. -/
theorem named_append_name {folder : Text} (hfolder : folder ≠ []) (hname : Path.IsName name) :
    disk.named (folder ++ "/" ++ name) = disk.named folder ++ [name] := by
  obtain ⟨hrooted, hresolved⟩ := Path.resolved_append_name hfolder hname
  rw [named_eq, named_eq, hrooted, hresolved, List.foldl_append, List.foldl_cons, List.foldl_nil,
    enter_of_isName _ hname]

/-! ## Folders -/

theorem isFolder_of_isPrefix (h : names <+: disk.working) : disk.isFolder names = true := by
  rw [isFolder, List.isPrefixOf_iff_prefix.mpr h, Bool.true_or]

/-- Climbing from a folder leads to a folder above it. -/
theorem foldl_enter_isPrefix (start : List Text) {elements : List Text}
    (h : ∀ e ∈ elements, e = (".." : Text)) : elements.foldl enter start <+: start := by
  induction elements generalizing start with
  | nil => exact List.prefix_refl start
  | cons e elements ih =>
    obtain ⟨rfl, helements⟩ := List.forall_mem_cons.mp h
    exact (ih start.dropLast helements).trans (List.dropLast_prefix start)

/-- A path that names no folder ends with a name. -/
theorem exists_resolved_of_named (h : disk.isFolder (disk.named path) = false) :
    ∃ init name, Path.resolved path = init ++ [name] ∧ Path.IsName name := by
  have hsettled := (Path.isSettled_resolved path).settled
  generalize hstack : (Path.resolved path).reverse = stack at hsettled
  have hresolved := List.reverse_eq_iff.mp hstack
  cases hsettled with
  | climb n =>
    have hdots : ∀ e ∈ Path.resolved path, e = (".." : Text) := by
      intro e he
      rw [hresolved, List.reverse_replicate] at he
      exact (List.mem_replicate.mp he).2
    have habove : disk.named path <+: disk.working := by
      rw [named_eq]
      refine (foldl_enter_isPrefix _ hdots).trans ?_
      split
      · exact List.nil_prefix
      · exact List.prefix_refl _
    rw [isFolder_of_isPrefix habove] at h
    nomatch h
  | enter hname inner => exact ⟨_, _, by rw [hresolved, List.reverse_cons], hname⟩

/-- Two paths that start at the same folder, and do not leave it, name the same place exactly if they
have the same clean form. -/
theorem named_eq_named_iff {x y : Text} (hrooted : Path.isRooted x = Path.isRooted y)
    (hx : (".." : Text) ∉ Path.resolved x) (hy : (".." : Text) ∉ Path.resolved y) :
    disk.named x = disk.named y ↔ Path.clean x = Path.clean y := by
  have hnames {path : Text} (hpath : (".." : Text) ∉ Path.resolved path) :
      disk.named path
        = (if Path.isRooted path then [] else disk.working) ++ Path.resolved path := by
    rw [named_eq, foldl_enter_of_names _ ((Path.isSettled_resolved path).names_of_not_mem hpath)]
  rw [Path.clean_eq_clean_iff, hnames hx, hnames hy, hrooted, List.append_cancel_left_eq]
  exact (and_iff_right rfl).symm

/-- A list of names starts like the working folder, or goes on with a name. -/
def Grounded (working names : List Text) : Prop :=
  ∀ above, above <+: names →
    above <+: working ∨ ∃ init name, above = init ++ [name] ∧ Path.IsName name

theorem Grounded.enter {working : List Text} (h : Grounded working names)
    (hslash : (('/' : Char) : UInt8) ∉ element) : Grounded working (enter names element) := by
  unfold Disk.enter
  split
  next => exact h
  next hempty =>
    split
    next => exact fun above habove => h above (habove.trans (List.dropLast_prefix names))
    next hdots =>
      obtain ⟨hnil, hdot⟩ := not_or.mp hempty
      intro above habove
      rcases List.prefix_concat_iff.mp habove with rfl | habove
      · exact .inr ⟨names, element, rfl, hnil, hdot, hdots, hslash⟩
      · exact h above habove

theorem grounded_named (disk : Disk) (path : Text) : Grounded disk.working (disk.named path) := by
  have hslash := Path.no_slash_of_mem_elements path
  have hstart : Grounded disk.working (disk.start path) := by
    intro above habove
    rw [start_eq] at habove
    split at habove
    · exact .inl (habove.trans List.nil_prefix)
    · exact .inl habove
  unfold named
  generalize disk.start path = start at hstart
  generalize Path.elements path = elements at hslash
  induction elements generalizing start with
  | nil => exact hstart
  | cons element elements ih =>
    obtain ⟨helement, helements⟩ := List.forall_mem_cons.mp hslash
    exact ih _ (hstart.enter helement) helements

/-- A place that a path goes through and that is no folder has a name. -/
theorem exists_name_of_isPrefix (h : disk.isFolder names = false)
    (hnames : names <+: disk.named path) :
    ∃ init name, names = init ++ [name] ∧ Path.IsName name := by
  rcases grounded_named disk path names hnames with hworking | hname
  · rw [isFolder_of_isPrefix hworking] at h
    nomatch h
  · exact hname

/-! ## Entries that are written -/

theorem prefix_of_mem_parents {above : List Text} (h : above ∈ parents names) : above <+: names := by
  fun_induction parents names generalizing above with
  | case1 => nomatch h
  | case2 => nomatch h
  | case3 name names hne ih =>
    rcases List.mem_cons.mp h with rfl | h
    · exact List.prefix_append [name] names
    · obtain ⟨later, hlater, rfl⟩ := List.mem_map.mp h
      exact List.cons_prefix_cons.mpr ⟨rfl, ih hlater⟩

theorem of_mem_missingFolders {above : List Text} (h : above ∈ disk.missingFolders names) :
    above <+: names ∧ disk.isFolder above = false := by
  obtain ⟨hparent, hmissing⟩ := List.mem_filter.mp h
  exact ⟨prefix_of_mem_parents hparent, by simpa using hmissing⟩

theorem isFolder_of_takesFile (h : disk.takesFile names = true) : disk.isFolder names = false := by
  obtain ⟨hfolder, -⟩ := Bool.and_eq_true_iff.mp h
  simpa using hfolder

end

end DocBlock.Disk

namespace DocBlock.FileChange

variable {disk : Disk} {path source target text : Text} {place : List Text}

theorem places_created (places : List (List Text)) :
    ((places.map fun place => (place, EntryChange.created)).filter fun effect =>
      effect.2.isWriting).map Prod.fst = places := by
  induction places with
  | nil => rfl
  | cons place places ih => exact congrArg (place :: ·) ih

/-- The change writes, creates or replaces the file at a path. -/
def Writes (disk : Disk) (file : Text) : FileChange → Prop
  | write path _ => path = file ∧ disk.takesFile (disk.named file) = true
  | rename source target => target = file ∧ (moved? disk source target).isSome = true
  | remove _ | permit _ => False

theorem mem_written_write : place ∈ (write path text).written disk ↔
    disk.takesFile (disk.named path) = true ∧
      (place = disk.named path ∨ place ∈ disk.missingFolders (disk.named path)) := by
  simp only [written, effects]
  by_cases htakes : disk.takesFile (disk.named path) = true
  · rw [if_pos htakes, List.filter_append, List.filter_append, List.map_append, List.map_append,
      places_created]
    by_cases hnew : (disk.fileAt? (disk.named path)).isNone = true
    · simp [htakes, hnew, EntryChange.isWriting, or_comm]
    · simp [htakes, hnew, EntryChange.isWriting, or_comm]
  · simp [htakes]

theorem mem_written_rename : place ∈ (rename source target).written disk ↔
    (moved? disk source target).isSome = true ∧
      (place = disk.named target ∨ place ∈ disk.missingFolders (disk.named target)) := by
  simp only [written, effects]
  by_cases hmoved : (moved? disk source target).isSome = true
  · rw [if_pos hmoved, List.filter_append, List.map_append, places_created]
    simp [hmoved, EntryChange.isWriting, or_comm]
  · simp [hmoved]

/-- The entries that a change writes or creates are those of the file that it writes and of the folders
that this file needs. -/
theorem mem_written_iff {change : FileChange} : place ∈ change.written disk ↔
    ∃ file, change.Writes disk file ∧
      (place = disk.named file ∨ place ∈ disk.missingFolders (disk.named file)) := by
  cases change with
  | write path text =>
    simp only [mem_written_write, Writes, and_assoc, exists_eq_left']
  | rename source target =>
    simp only [mem_written_rename, Writes, and_assoc, exists_eq_left']
  | remove path =>
    have hnone : (remove path).written disk = [] := by
      simp only [written, effects]
      split <;> rfl
    simp [hnone, Writes]
  | permit path =>
    have hnone : (permit path).written disk = [] := by
      simp only [written, effects]
      split <;> rfl
    simp [hnone, Writes]

theorem Writes.takesFile {change : FileChange} {file : Text} (h : change.Writes disk file) :
    disk.takesFile (disk.named file) = true := by
  cases change with
  | write path text => exact h.2
  | rename source target =>
    obtain ⟨rfl, hmoved⟩ := h
    unfold moved? at hmoved
    split at hmoved
    next hmoves => exact hmoves.2
    next => nomatch hmoved
  | remove path => exact h.elim
  | permit path => exact h.elim

/-- A change writes one file at most. -/
theorem Writes.unique {change : FileChange} {file other : Text} (h : change.Writes disk file)
    (hother : change.Writes disk other) : file = other := by
  cases change with
  | write path text => exact h.1.symm.trans hother.1
  | rename source target => exact h.1.symm.trans hother.1
  | remove path => exact h.elim
  | permit path => exact h.elim

/-- If the folder of its file is there, a change writes or creates nothing else. -/
theorem mem_written_iff_of_folder {change : FileChange} {file : Text} (h : change.Writes disk file)
    (hfolder : disk.missingFolders (disk.named file) = []) :
    place ∈ change.written disk ↔ place = disk.named file := by
  rw [mem_written_iff]
  constructor
  · rintro ⟨other, hother, hplace⟩
    obtain rfl := h.unique hother
    rw [hfolder] at hplace
    exact hplace.resolve_right List.not_mem_nil
  · exact fun hplace => ⟨file, h, Or.inl hplace⟩

/-- No folder is where an entry is written or created. -/
theorem of_mem_written {change : FileChange} (h : place ∈ change.written disk) :
    disk.isFolder place = false ∧ ∃ path, place <+: disk.named path := by
  obtain ⟨file, hwrites, rfl | hmissing⟩ := mem_written_iff.mp h
  · exact ⟨Disk.isFolder_of_takesFile hwrites.takesFile, file, List.prefix_refl _⟩
  · obtain ⟨habove, hfolder⟩ := Disk.of_mem_missingFolders hmissing
    exact ⟨hfolder, file, habove⟩

/-- The entries that a change writes or creates have names. -/
theorem exists_name_of_mem_written {change : FileChange} (h : place ∈ change.written disk) :
    ∃ folder name, place = folder ++ [name] ∧ Path.IsName name := by
  obtain ⟨hfolder, path, habove⟩ := of_mem_written h
  exact Disk.exists_name_of_isPrefix hfolder habove

end DocBlock.FileChange
