import DocBlock.Proofs.Files.Named
import DocBlock.Watch

/-!
# The changes that count

A watcher names an entry by a path of its folder, as the folder is watched, and the name of the
entry (`Watcher.Tells`). For a watched path this is, once it is clean, the clean path again. So a
message that counts is sent exactly if an entry is told that a watched path spells:

> `exists_counts_iff`: a message counts exactly if the path of an entry that is told has the clean
> form of a watched one;
> `told_iff_touches`: where every watched folder is told under its own path, this is so exactly if
> the change writes a file whose clean path is that of a watched one.

A folder that is watched under two paths may be told under either (`Watcher.Reports`). Paths that
start at one folder, and do not leave it, spell every folder in one way (`spelledOnce`).
-/

namespace DocBlock

/-- A watcher of folders tells that an entry is written or created, under a path of its folder. -/
def Watcher.Tells (watcher : Watcher) (folders : List Text) (disk : Disk) (change : FileChange)
    (folder name : Text) : Prop :=
  ∃ changes, .entry (folder ++ "/" ++ name) changes ∈ watcher folders disk change ∧
    changes.any EntryChange.isWriting = true

/-- What a watcher of folders tells: every entry of a watched folder that is written or created, under
one of the paths by which the folder is watched, and no other entry as written or created. -/
structure Watcher.Reports (watcher : Watcher) : Prop where
  complete {folders : List Text} {disk : Disk} {change : FileChange} {folder name : Text}
    (hfolder : folder ∈ folders) (hwritten : disk.named folder ++ [name] ∈ change.written disk) :
    ∃ told ∈ folders, disk.named told = disk.named folder ∧
      watcher.Tells folders disk change told name
  sound {folders : List Text} {disk : Disk} {change : FileChange} {path : Text}
    {changes : List EntryChange} (hsent : .entry path changes ∈ watcher folders disk change)
    (hwriting : changes.any EntryChange.isWriting = true) :
    ∃ folder ∈ folders, ∃ name, path = folder ++ "/" ++ name ∧
      disk.named folder ++ [name] ∈ change.written disk

theorem Watcher.entries_reports : Watcher.entries.Reports where
  complete := by
    intro folders disk change folder name hfolder hwritten
    obtain ⟨effect, heffect, hplace⟩ := List.mem_map.mp hwritten
    obtain ⟨heffect, hwriting⟩ := List.mem_filter.mp heffect
    have hfind : (folders.find? fun other => disk.named other == effect.1.dropLast).isSome := by
      rw [List.find?_isSome]
      exact ⟨folder, hfolder, by rw [hplace, List.dropLast_concat, beq_self_eq_true]⟩
    obtain ⟨told, htold⟩ := Option.isSome_iff_exists.mp hfind
    have hsame := List.find?_some htold
    rw [hplace, List.dropLast_concat, beq_iff_eq] at hsame
    refine ⟨told, List.mem_of_find?_eq_some htold, hsame, [effect.2], ?_, ?_⟩
    · refine List.mem_filterMap.mpr ⟨effect, heffect, ?_⟩
      rw [htold, Option.map_some, hplace, List.getLastD_concat]
    · rw [List.any_cons, hwriting, Bool.true_or]
  sound := by
    intro folders disk change path changes hsent hwriting
    obtain ⟨effect, heffect, hsent⟩ := List.mem_filterMap.mp hsent
    obtain ⟨folder, hfind, hmessage⟩ := Option.map_eq_some_iff.mp hsent
    obtain ⟨rfl, rfl⟩ := Message.entry.inj hmessage
    have hfolder := List.mem_of_find?_eq_some hfind
    have hplace := List.find?_some hfind
    rw [List.any_cons, List.any_nil, Bool.or_false] at hwriting
    have hwritten : effect.1 ∈ change.written disk :=
      List.mem_map_of_mem (List.mem_filter.mpr ⟨heffect, hwriting⟩)
    obtain ⟨above, name, hname, -⟩ := FileChange.exists_name_of_mem_written hwritten
    rw [hname, List.dropLast_concat, beq_iff_eq] at hplace
    rw [hname] at hwritten ⊢
    rw [List.getLastD_concat]
    exact ⟨folder, hfolder, name, rfl, hplace ▸ hwritten⟩

namespace Watch

variable {disk : Disk} {paths : List Text} {change : FileChange}

/-- The change writes, creates or renames onto a file whose clean path is that of one of the paths. -/
def Touches (disk : Disk) (paths : List Text) (change : FileChange) : Prop :=
  ∃ file, disk.named file ∈ change.written disk ∧ ∃ path ∈ paths, Path.clean file = Path.clean path

/-- A file has the clean path of a watched one exactly if the watched path names it. -/
theorem touches_iff :
    Touches disk paths change ↔ ∃ path ∈ paths, disk.named path ∈ change.written disk := by
  constructor
  · rintro ⟨file, hwritten, path, hpath, hclean⟩
    exact ⟨path, hpath, Disk.named_congr hclean ▸ hwritten⟩
  · rintro ⟨path, hpath, hwritten⟩
    exact ⟨path, hwritten, path, hpath, rfl⟩

/-- A change that writes a file in a folder that is there touches exactly the paths with the clean form
of its own path, if all of these start at the same folder and none leaves it. -/
theorem touches_iff_clean {file : Text} (hwrites : change.Writes disk file)
    (hfolder : disk.missingFolders (disk.named file) = [])
    (hrooted : ∀ path ∈ paths, Path.isRooted file = Path.isRooted path)
    (hdots : ∀ path ∈ file :: paths, (".." : Text) ∉ Path.resolved path) :
    Touches disk paths change ↔ ∃ path ∈ paths, Path.clean file = Path.clean path := by
  obtain ⟨hfile, hpaths⟩ := List.forall_mem_cons.mp hdots
  rw [touches_iff]
  refine exists_congr fun path => and_congr_right fun hpath => ?_
  rw [FileChange.mem_written_iff_of_folder hwrites hfolder, eq_comm,
    Disk.named_eq_named_iff (hrooted path hpath) hfile (hpaths path hpath)]

instance (disk : Disk) (paths : List Text) (change : FileChange) :
    Decidable (Touches disk paths change) :=
  decidable_of_iff (∃ path ∈ paths, disk.named path ∈ change.written disk) touches_iff.symm

theorem mem_folders {path : Text} (h : path ∈ paths) :
    Path.directory (Path.clean path) ∈ folders paths := by
  rw [folders, List.mem_eraseDups]
  exact List.mem_map_of_mem (List.mem_map_of_mem h)

theorem folder_ne_nil {folder : Text} (h : folder ∈ folders paths) : folder ≠ [] := by
  rw [folders, List.mem_eraseDups] at h
  obtain ⟨target, -, rfl⟩ := List.mem_map.mp h
  exact Path.clean_ne_nil _

/-! ## What is told -/

/-- An entry is told whose path has the clean form of one of the paths. -/
def IsTold (watcher : Watcher) (disk : Disk) (paths : List Text) (change : FileChange) : Prop :=
  ∃ folder name, watcher.Tells (folders paths) disk change folder name ∧
    ∃ path ∈ paths, Path.clean (folder ++ "/" ++ name) = Path.clean path

/-- Every entry of a watched folder is told under the path of the folder, under each path of a folder
that is watched under several. -/
def IsToldUnderEach (watcher : Watcher) (disk : Disk) (paths : List Text) (change : FileChange) :
    Prop :=
  ∀ folder ∈ folders paths, ∀ name, disk.named folder ++ [name] ∈ change.written disk →
    watcher.Tells (folders paths) disk change folder name

/-- No folder is watched under two paths. -/
def SpelledOnce (disk : Disk) (paths : List Text) : Prop :=
  ∀ first ∈ folders paths, ∀ second ∈ folders paths,
    disk.named first = disk.named second → first = second

/-- Paths that start at the same folder and do not leave it spell every folder in one way. -/
theorem spelledOnce (disk : Disk)
    (hrooted : ∀ first ∈ paths, ∀ second ∈ paths, Path.isRooted first = Path.isRooted second)
    (hdots : ∀ path ∈ paths, (".." : Text) ∉ Path.resolved path) : SpelledOnce disk paths := by
  have hfolder : ∀ folder ∈ folders paths, ∃ path ∈ paths,
      folder = Path.directory (Path.clean path) := by
    intro folder hfolder
    rw [folders, List.mem_eraseDups] at hfolder
    obtain ⟨target, htarget, rfl⟩ := List.mem_map.mp hfolder
    obtain ⟨path, hpath, rfl⟩ := List.mem_map.mp htarget
    exact ⟨path, hpath, rfl⟩
  intro first hfirst second hsecond hsame
  obtain ⟨x, hx, rfl⟩ := hfolder first hfirst
  obtain ⟨y, hy, rfl⟩ := hfolder second hsecond
  obtain ⟨hxrooted, hxdots⟩ := Path.directory_clean (hdots x hx)
  obtain ⟨hyrooted, hydots⟩ := Path.directory_clean (hdots y hy)
  have hstart : Path.isRooted (Path.directory (Path.clean x))
      = Path.isRooted (Path.directory (Path.clean y)) := by
    rw [hxrooted, hyrooted, hrooted x hx y hy]
  have hclean := (Disk.named_eq_named_iff hstart hxdots hydots).mp hsame
  rwa [Path.directory, Path.directory, Path.clean_clean, Path.clean_clean] at hclean

section
variable {watcher : Watcher} (hreports : watcher.Reports)
include hreports

/-- A message counts exactly if an entry is told that one of the paths spells. -/
theorem exists_counts_iff : (∃ message ∈ watcher (folders paths) disk change,
    counts paths message = true) ↔ IsTold watcher disk paths change := by
  constructor
  · rintro ⟨message, hsent, hcounts⟩
    cases message with
    | fault text => nomatch hcounts
    | entry entryPath changes =>
      obtain ⟨htarget, hwriting⟩ := Bool.and_eq_true_iff.mp hcounts
      obtain ⟨path, hpath, hclean⟩ := List.mem_map.mp (List.contains_iff_mem.mp htarget)
      obtain ⟨folder, -, name, rfl, -⟩ := hreports.sound hsent hwriting
      exact ⟨folder, name, ⟨changes, hsent, hwriting⟩, path, hpath, hclean.symm⟩
  · rintro ⟨folder, name, ⟨changes, hsent, hwriting⟩, path, hpath, hclean⟩
    refine ⟨_, hsent, Bool.and_eq_true_iff.mpr ⟨List.contains_iff_mem.mpr ?_, hwriting⟩⟩
    rw [hclean]
    exact List.mem_map_of_mem hpath

/-- If one of the paths is told, the change touches it. -/
theorem IsTold.touches (h : IsTold watcher disk paths change) : Touches disk paths change := by
  obtain ⟨folder, name, ⟨changes, hsent, hwriting⟩, path, hpath, hclean⟩ := h
  obtain ⟨told, htold, name', heq, hwritten⟩ := hreports.sound hsent hwriting
  obtain ⟨above, last, hlast, hname⟩ := FileChange.exists_name_of_mem_written hwritten
  obtain rfl := List.singleton_inj.mp (List.append_inj' hlast rfl).2
  refine touches_iff.mpr ⟨path, hpath, ?_⟩
  rw [← Disk.named_congr hclean, heq, Disk.named_append_name (folder_ne_nil htold) hname]
  exact hwritten

/-- Where each folder is told under its own path, one of the paths is told exactly if the change
touches one. -/
theorem told_iff_touches (heach : IsToldUnderEach watcher disk paths change) :
    IsTold watcher disk paths change ↔ Touches disk paths change := by
  refine ⟨fun h => h.touches hreports, fun h => ?_⟩
  obtain ⟨path, hpath, hwritten⟩ := touches_iff.mp h
  obtain ⟨hfolder, -⟩ := FileChange.of_mem_written hwritten
  obtain ⟨init, name, hresolved, hname⟩ := Disk.exists_resolved_of_named hfolder
  have hclean := Path.clean_directory_append hresolved hname
  have hplace : disk.named (Path.directory (Path.clean path)) ++ [name] = disk.named path := by
    rw [← Disk.named_append_name (folder_ne_nil (mem_folders hpath)) hname]
    rw [← Disk.named_clean disk (_ ++ "/" ++ name), hclean, Disk.named_clean]
  exact ⟨_, name, heach _ (mem_folders hpath) name (hplace ▸ hwritten), path, hpath, hclean⟩

/-- A folder that is watched under one path is told under it. -/
theorem SpelledOnce.isToldUnderEach (h : SpelledOnce disk paths) (change : FileChange) :
    IsToldUnderEach watcher disk paths change := by
  intro folder hfolder name hwritten
  obtain ⟨told, htold, hsame, htells⟩ := hreports.complete hfolder hwritten
  rwa [h told htold folder hfolder hsame] at htells

end

end Watch

end DocBlock
