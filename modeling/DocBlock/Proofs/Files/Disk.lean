import DocBlock.Files.Disk
import DocBlock.Proofs.Text.Lines
import DocBlock.Proofs.Text.Trim

/-!
# Writing to a disk

A path is followed from folder to folder, and only its last element can lead to a file. Putting a
file where no folder is leaves every such walk as it was (`walk_put`): the walk meets folders only,
and none of them is the place of the file. So once a text is written, the same path leads to it.

> `write_spec`: after a text is written to a path, the path leads to a file with that text; the
> files at all other places, the folders and the working folder are as before.
-/

namespace DocBlock

/-- A path that does not end with a slash is its folder and a name without a slash. -/
theorem Path.exists_name {path : Text} (hpath : path ≠ [])
    (hend : ∀ b ∈ path.getLast?, (b == (('/' : Char) : UInt8)) = false) :
    ∃ name, folderPart path ++ name = path ∧ name ≠ [] ∧
      (∀ b ∈ name, (b == (('/' : Char) : UInt8)) = false) ∧
      ∀ b ∈ (folderPart path).getLast?, b = (('/' : Char) : UInt8) := by
  have hsplit := Text.dropWhileRight_append (· != (('/' : Char) : UInt8)) path
  have hfolder : ∀ b ∈ (folderPart path).getLast?, b = (('/' : Char) : UInt8) := by
    intro b hb
    simpa using Text.getLast?_dropWhileRight _ path b hb
  refine ⟨_, hsplit, ?_, ?_, hfolder⟩
  · intro hnil
    rw [hnil, List.append_nil] at hsplit
    change folderPart path = path at hsplit
    rw [hsplit] at hfolder
    have hlast := List.getLast?_eq_some_getLast hpath
    have hne := hend _ hlast
    rw [hfolder _ hlast] at hne
    nomatch hne
  · intro b hb
    simpa using List.mem_takeWhile_imp (List.mem_reverse.mp hb)

namespace Disk

section
variable {disk : Disk} {names other : List Text} {text : Text}

/-! ## The places of files -/

theorem fileAt?_put (disk : Disk) (names : List Text) (text : Text) :
    (disk.put names text).fileAt? names = some text := by
  have hnone : (disk.files.filter fun f => f.1 != names).find? (fun f => f.1 == names) = none := by
    rw [List.find?_eq_none]
    intro f hf
    have hne := (List.mem_filter.mp hf).2
    simpa using hne
  show ((disk.files.filter (fun f => f.1 != names) ++ [(names, text)]).find? _).map _ = _
  rw [List.find?_append, hnone]
  simp

theorem fileAt?_put_of_ne (h : other ≠ names) :
    (disk.put names text).fileAt? other = disk.fileAt? other := by
  have hkept : (disk.files.filter fun f => f.1 != names).find? (fun f => f.1 == other)
      = disk.files.find? fun f => f.1 == other := by
    rw [List.find?_filter]
    congr 1
    funext f
    by_cases hf : f.1 = other
    · simp [hf, h]
    · simp [hf]
  have hlast : [(names, text)].find? (fun f => f.1 == other) = none := by
    simp [Ne.symm h]
  show ((disk.files.filter (fun f => f.1 != names) ++ [(names, text)]).find? _).map _ = _
  rw [List.find?_append, hkept, hlast, Option.or_none]
  rfl

theorem lookUp_put (disk : Disk) (names : List Text) (text : Text) :
    (disk.put names text).lookUp names = .ok (.file names text) := by
  rw [lookUp, fileAt?_put]

theorem lookUp_put_of_ne (h : other ≠ names) :
    (disk.put names text).lookUp other = disk.lookUp other := by
  rw [lookUp, lookUp, fileAt?_put_of_ne h]
  rfl

/-! ## One element of a path -/

/-- An element that leads to an entry of a folder, if there is one of that name. -/
structure IsName (element : Text) : Prop where
  notDot : element ≠ "."
  notDotDot : element ≠ ".."
  short : element.length ≤ longestName

theorem step_of_isName {element : Text} (h : IsName element) :
    disk.step (.folder names) element = disk.lookUp (names ++ [element]) := by
  have hshort : ¬ longestName < element.length := Nat.not_lt.mpr h.short
  rw [step, if_neg h.notDot, if_neg h.notDotDot, if_neg hshort]

/-- A step that is not just one up or none is a look at an entry. -/
theorem step_cases (disk : Disk) (names : List Text) (element : Text) :
    (∃ found, ∀ disk' : Disk, disk'.step (.folder names) element = .ok (.folder found)) ∨
      disk.step (.folder names) element = .error .nameTooLong ∨ IsName element := by
  by_cases hdot : element = "."
  · exact Or.inl ⟨names, fun disk' => by rw [hdot]; rfl⟩
  · by_cases hdots : element = ".."
    · exact Or.inl ⟨names.dropLast, fun disk' => by rw [hdots]; rfl⟩
    · by_cases hlong : longestName < element.length
      · right; left
        rw [step, if_neg hdot, if_neg hdots, if_pos hlong]
      · exact Or.inr (Or.inr ⟨hdot, hdots, Nat.not_lt.mp hlong⟩)

theorem lookUp_eq_file {found : List Text} (h : disk.lookUp names = .ok (.file found text)) :
    found = names := by
  unfold lookUp at h
  split at h
  · cases h
    rfl
  · split at h
    · cases h
    · cases h

theorem lookUp_eq_folder {found : List Text} (h : disk.lookUp names = .ok (.folder found)) :
    found = names := by
  unfold lookUp at h
  split at h
  · cases h
  · split at h
    · cases h
      rfl
    · cases h

/-- A step between folders stays what it is when a file is put where no folder is. -/
theorem step_put (hplace : disk.lookUp names ≠ .ok (.folder names)) {above found : List Text}
    {element : Text} (h : disk.step (.folder above) element = .ok (.folder found)) :
    (disk.put names text).step (.folder above) element = .ok (.folder found) := by
  rcases step_cases disk above element with ⟨up, hup⟩ | hlong | hname
  · rw [hup] at h ⊢
    exact h
  · rw [hlong] at h
    cases h
  · rw [step_of_isName hname] at h ⊢
    have hfound := lookUp_eq_folder h
    have hne : above ++ [element] ≠ names := by
      intro he
      rw [hfound, he] at h
      exact hplace h
    rw [lookUp_put_of_ne hne]
    exact h

/-! ## A walk through folders -/

/-- No step leads on from a file. -/
theorem foldlM_step_file {elements : List Text} {place : Place}
    (h : elements.foldlM disk.step (.file names text) = .ok place) : elements = [] := by
  cases elements with
  | nil => rfl
  | cons element elements =>
    rw [List.foldlM_cons] at h
    cases h

/-- A walk that ends in a folder meets folders only, and so it does not change when a file is put
where no folder is. -/
theorem walk_put (hplace : disk.lookUp names ≠ .ok (.folder names)) {elements : List Text}
    {above found : List Text}
    (h : elements.foldlM disk.step (.folder above) = .ok (.folder found)) :
    elements.foldlM (disk.put names text).step (.folder above) = .ok (.folder found) := by
  induction elements generalizing above with
  | nil => exact h
  | cons element elements ih =>
    rw [List.foldlM_cons] at h ⊢
    cases hstep : disk.step (.folder above) element with
    | error cause =>
      rw [hstep] at h
      cases h
    | ok place =>
      rw [hstep] at h
      cases place with
      | folder next =>
        rw [step_put hplace hstep]
        exact ih h
      | file next t =>
        obtain rfl := foldlM_step_file h
        cases h

theorem walk_concat (disk : Disk) (elements : List Text) (element : Text) (place : Place) :
    (elements ++ [element]).foldlM disk.step place
      = elements.foldlM disk.step place >>= fun found => disk.step found element := by
  rw [List.foldlM_append]
  congr 1
  funext found
  rw [List.foldlM_cons]
  exact bind_pure _

/-- A walk with one more element passes through a folder. -/
theorem exists_folder_of_walk {elements : List Text} {element : Text} {place found : Place}
    (h : (elements ++ [element]).foldlM disk.step place = .ok found) :
    ∃ above, elements.foldlM disk.step place = .ok (.folder above) ∧
      disk.step (.folder above) element = .ok found := by
  rw [walk_concat] at h
  cases hwalk : elements.foldlM disk.step place with
  | error cause =>
    rw [hwalk] at h
    cases h
  | ok reached =>
    rw [hwalk] at h
    cases reached with
    | folder above => exact ⟨above, rfl, h⟩
    | file above t => cases h

section
variable {path : Text}

theorem resolve_eq (disk : Disk) (hnul : path.any (· == 0) = false) (hpath : path ≠ []) :
    disk.resolve path = (elements path).foldlM disk.step (.folder (disk.start path)) := by
  rw [resolve, if_neg (by simp [hnul]), if_neg (by simpa using hpath)]

/-- A path that leads to an entry of a folder leads to the file that is put there. -/
theorem resolve_put {init : List Text} {element : Text} (hnul : path.any (· == 0) = false)
    (hpath : path ≠ []) (helements : elements path = init ++ [element])
    (hwalk : init.foldlM disk.step (.folder (disk.start path)) = .ok (.folder names))
    (hname : IsName element)
    (hplace : disk.lookUp (names ++ [element]) ≠ .ok (.folder (names ++ [element]))) :
    (disk.put (names ++ [element]) text).resolve path
      = .ok (.file (names ++ [element]) text) := by
  have hstart : (disk.put (names ++ [element]) text).start path = disk.start path := rfl
  rw [resolve_eq _ hnul hpath, helements, hstart, walk_concat, walk_put hplace hwalk]
  show (disk.put (names ++ [element]) text).step (.folder names) element = _
  rw [step_of_isName hname, lookUp_put]

end

/-! ## The elements of a path -/

theorem elements_eq (path : Text) :
    elements path = (Path.elements path).filter (fun e => !e.isEmpty)
      ++ if path.getLast? = some (('/' : Char) : UInt8) then [("." : Text)] else [] := by
  show (if (path.getLast? == some (('/' : Char) : UInt8)) = true then _ else _) = _
  by_cases h : path.getLast? = some (('/' : Char) : UInt8)
  · simp [h]
  · simp [h]

/-- The elements of a path that does not end with a slash are those of the part up to its last
slash, without the dot at the end of these, and what follows. -/
theorem elements_append {above last : Text} (hlast : last ≠ [])
    (hslash : ∀ b ∈ last, (b == (('/' : Char) : UInt8)) = false)
    (habove : ∀ b ∈ above.getLast?, b = (('/' : Char) : UInt8)) :
    ∃ init, elements (above ++ last) = init ++ [last] ∧
      (above = [] → init = []) ∧ (above ≠ [] → elements above = init ++ [("." : Text)]) := by
  have hend : (above ++ last).getLast? ≠ some (('/' : Char) : UInt8) := by
    intro hb
    rw [List.getLast?_append, List.getLast?_eq_some_getLast hlast, Option.some_or] at hb
    have hmem := hslash _ (List.getLast_mem hlast)
    rw [Option.some.inj hb] at hmem
    nomatch hmem
  have hone : (Path.elements last).filter (fun e => !e.isEmpty) = [last] := by
    rw [Path.elements, Text.splitWhere_eq_singleton hslash]
    simp [hlast]
  rw [elements_eq, if_neg hend, List.append_nil]
  rcases List.eq_nil_or_concat above with rfl | ⟨folder, b, hb⟩
  · exact ⟨[], hone, fun _ => rfl, fun h => absurd rfl h⟩
  · rw [List.concat_eq_append] at hb
    subst hb
    obtain rfl : b = (('/' : Char) : UInt8) := habove b List.getLast?_concat
    have hcut : ∀ t : Text, Path.elements (folder ++ (('/' : Char) : UInt8) :: t)
        = Path.elements folder ++ Path.elements t :=
      fun t => Text.splitWhere_append_cons rfl folder t
    refine ⟨(Path.elements folder).filter fun e => !e.isEmpty, ?_, fun h => by simp at h, ?_⟩
    · rw [List.append_assoc, List.singleton_append, hcut, List.filter_append, hone]
    · intro _
      rw [elements_eq, if_pos List.getLast?_concat, hcut []]
      simp [Path.elements, Text.splitWhere]

/-! ## Writing -/

/-- What a written text changes: the path leads to it, and all else is as before. -/
structure Wrote (disk after : Disk) (path text : Text) (place : List Text) : Prop where
  leads : after.resolve path = .ok (.file place text)
  others : ∀ names, names ≠ place → after.fileAt? names = disk.fileAt? names
  folders : after.folders = disk.folders
  working : after.working = disk.working

theorem wrote_put {path : Text}
    (h : (disk.put names text).resolve path = .ok (.file names text)) :
    Wrote disk (disk.put names text) path text names :=
  ⟨h, fun _ hne => fileAt?_put_of_ne hne, rfl, rfl⟩

theorem no_zero_of_resolve {path : Text} (h : disk.resolve path ≠ .error .invalid) :
    path.any (· == 0) = false := by
  by_contra hnul
  rw [resolve, if_pos (by simpa using hnul)] at h
  exact h rfl

/-- A file that is there gets the text. -/
theorem wrote_existing {path old : Text} (h : disk.resolve path = .ok (.file names old)) :
    Wrote disk (disk.put names text) path text names := by
  have hpath : path ≠ [] := by
    rintro rfl
    cases h
  have hnul := no_zero_of_resolve (by rw [h]; exact nofun)
  rw [resolve_eq _ hnul hpath] at h
  rcases List.eq_nil_or_concat (elements path) with hnil | ⟨init, element, hlast⟩
  · rw [hnil] at h
    cases h
  · rw [List.concat_eq_append] at hlast
    rw [hlast] at h
    obtain ⟨above, hwalk, hstep⟩ := exists_folder_of_walk h
    rcases step_cases disk above element with ⟨up, hup⟩ | hlong | hname
    · rw [hup] at hstep
      cases hstep
    · rw [hlong] at hstep
      cases hstep
    · rw [step_of_isName hname] at hstep
      obtain rfl := lookUp_eq_file hstep
      refine wrote_put (resolve_put hnul hpath hlast hwalk hname ?_)
      rw [hstep]
      exact nofun

/-- A path that does not end with a slash is a folder and a name in it: following it up to its last
slash leads to where the name is looked for. -/
theorem exists_walk_of_above {path : Text} {found : Place} (hnul : path.any (· == 0) = false)
    (hpath : path ≠ []) (hend : ∀ b ∈ path.getLast?, (b == (('/' : Char) : UInt8)) = false)
    (h : disk.above path = .ok found) :
    ∃ init names, elements path = init ++ [path.drop (Path.folderPart path).length] ∧
      found = .folder names ∧
      init.foldlM disk.step (.folder (disk.start path)) = .ok (.folder names) := by
  obtain ⟨last, hsplit, hne, hslash, hfolder⟩ := Path.exists_name hpath hend
  unfold above at h
  generalize Path.folderPart path = folder at h hsplit hfolder ⊢
  obtain ⟨init, helements, hnil, hdot⟩ := elements_append hne hslash hfolder
  obtain rfl := hsplit
  rw [List.drop_left]
  refine ⟨init, ?_⟩
  by_cases hcase : folder = []
  · -- the name is looked for in the working folder
    subst hcase
    have hstart : disk.start ([] ++ last) = disk.working := by
      obtain ⟨b, rest, rfl⟩ := List.exists_cons_of_ne_nil hne
      show (if (b == (('/' : Char) : UInt8)) = true then _ else _) = _
      rw [hslash b (List.mem_cons_self ..)]
      rfl
    obtain rfl := Except.ok.inj h
    refine ⟨disk.working, helements, rfl, ?_⟩
    rw [hnil rfl, hstart]
    rfl
  · have hnul' : folder.any (· == 0) = false := by
      rw [List.any_append, Bool.or_eq_false_iff] at hnul
      exact hnul.1
    have hstart : disk.start (folder ++ last) = disk.start folder := by
      obtain ⟨b, rest, rfl⟩ := List.exists_cons_of_ne_nil hcase
      rfl
    rw [if_neg (by simpa using hcase), resolve_eq _ hnul' hcase, hdot hcase, ← hstart] at h
    obtain ⟨names, hwalk, hstay⟩ := exists_folder_of_walk h
    exact ⟨names, helements, (Except.ok.inj hstay).symm, hwalk⟩

/-- Where nothing was, there is a new file with the text. -/
theorem wrote_new {path : Text} {after : Disk} (hnone : disk.resolve path = .error .noEntry)
    (hpath : path ≠ []) (h : disk.create path text = .ok after) :
    ∃ place, Wrote disk after path text place := by
  have hnul := no_zero_of_resolve (by rw [hnone]; exact nofun)
  unfold create at h
  dsimp only at h
  split at h
  · cases h
  · cases h
  next names hfolder =>
    split at h
    · cases h
    next hlength =>
      have hbare : Text.dropWhileRight (· == (('/' : Char) : UInt8)) path = path :=
        List.IsPrefix.eq_of_length_le ⟨_, Text.dropWhileRight_append _ path⟩ (Nat.not_lt.mp hlength)
      have hend := Text.getLast?_dropWhileRight (· == (('/' : Char) : UInt8)) path
      rw [hbare] at h hfolder hend
      obtain ⟨init, names', helements, hfound, hwalk⟩ :=
        exists_walk_of_above hnul hpath hend hfolder
      obtain rfl := Place.folder.inj hfound
      obtain rfl := Except.ok.inj h
      generalize path.drop (Path.folderPart path).length = last at helements ⊢
      rw [resolve_eq _ hnul hpath, helements, walk_concat, hwalk] at hnone
      change disk.step (.folder names) last = _ at hnone
      refine ⟨_, wrote_put ?_⟩
      rcases step_cases disk names last with ⟨up, hup⟩ | hlong | hname
      · rw [hup] at hnone
        cases hnone
      · rw [hlong] at hnone
        cases hnone
      · refine resolve_put hnul hpath helements hwalk hname ?_
        rw [← step_of_isName hname, hnone]
        exact nofun

/-- A text that is written to a path is what the path leads to, and nothing else changes. -/
theorem write_spec {path : Text} {after : Disk} (h : disk.write path text = .ok after) :
    ∃ place, Wrote disk after path text place := by
  unfold write at h
  dsimp only at h
  split at h
  next names old hfile =>
    obtain rfl := Except.ok.inj h
    exact ⟨names, wrote_existing hfile⟩
  · cases h
  next hnone =>
    split at h
    · cases h
    next hpath =>
      cases hcreate : disk.create path text with
      | error cause =>
        rw [hcreate] at h
        cases h
      | ok created =>
        rw [hcreate] at h
        obtain rfl := Except.ok.inj h
        exact wrote_new hnone (by simpa using hpath) hcreate
  · cases h

end

end Disk

end DocBlock
