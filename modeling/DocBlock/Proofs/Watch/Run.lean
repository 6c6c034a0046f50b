import DocBlock.Proofs.Files.Folders
import DocBlock.Proofs.Job.Run
import DocBlock.Proofs.Watch.Entries

/-!
# A watch has no history

The rounds that a change leads to are runs of the job, one after another, each from what the one
before it has left (`Ran`). A run looks at the files alone (`Job.run_fresh`), so nothing of what was
done before shows in it, and whether there is a round at all is decided by the change and the files
(`exists_counts_iff`). No round fails as a part of the watch: a failed run is a round like any
other. So the answers to the changes follow one another in the same way (`Answered`).

> `run_historyFree`: a watch of files that are there answers every change. The answer has a run
> exactly if the change touches a watched file, and every run ends as a first run on the files as
> they are would end. If a file is missing at the start, nothing is run.
-/

namespace DocBlock

/-- A run that prints its document leaves the files as they are. -/
theorem Job.disk_run {job : Job} {s after : Surroundings} {result : Except Failure Unit}
    (hrun : job.run.ending s = (result, after)) (hprints : job.destination = .standardOutput) :
    after.disk = s.disk := by
  cases htext : (job.text s.disk.load).result with
  | error failure =>
    rw [ending_run_error htext] at hrun
    rw [(Prod.mk.inj hrun).2]
  | ok t =>
    rw [ending_run_ok htext, hprints] at hrun
    obtain ⟨next, hwrite, hreceived⟩ | ⟨error, hwrite⟩ :=
      Action.ending_write_cases .standardOutput t s
    · rw [hwrite] at hrun
      rw [← (Prod.mk.inj hrun).2]
      exact hreceived.2
    · rw [hwrite] at hrun
      rw [(Prod.mk.inj hrun).2]

namespace Watch

/-! ## Rounds -/

/-- Runs of a job, one after another, from what the first one found to what the last one left. -/
inductive Ran (job : Job) : Surroundings → List Round → Surroundings → Prop
  | nil (s : Surroundings) : Ran job s [] s
  | cons {s between after : Surroundings} (path : Text) {result : Except Failure Unit}
    (hrun : job.run.ending s = (result, between)) {rounds : List Round}
    (later : Ran job between rounds after) :
    Ran job s (⟨path, s, result, between⟩ :: rounds) after

namespace Ran

variable {job : Job} {s after : Surroundings} {rounds : List Round}

theorem first (h : Ran job s rounds after) : ∀ round ∈ rounds.head?, round.before = s := by
  intro round hround
  cases h with
  | nil => nomatch hround
  | cons path hrun later =>
    obtain rfl := Option.some.inj hround
    rfl

theorem isFull (h : Ran job s rounds after) : after.isFull = s.isFull := by
  induction h with
  | nil => rfl
  | @cons s between after path result hrun rounds later ih =>
    obtain ⟨disk, printed, hafter, -⟩ := Job.run_fresh hrun
    rw [ih, hafter]

/-- Every run ends as it would end on its files with nothing printed before. -/
theorem fresh (h : Ran job s rounds after) : ∀ round ∈ rounds,
    job.run.ending (.ofDisk round.before.disk s.isFull)
      = (round.result, ⟨round.after.disk, round.printed, s.isFull⟩) := by
  induction h with
  | nil => exact fun round hround => nomatch hround
  | @cons s between after path result hrun rounds later ih =>
    obtain ⟨disk, printed, rfl, hfresh⟩ := Job.run_fresh hrun
    refine List.forall_mem_cons.mpr ⟨?_, ih⟩
    rw [hfresh, Round.printed, List.drop_left]

/-- Runs that print their documents all find the same files, and leave them. -/
theorem disk (h : Ran job s rounds after) (hprints : job.destination = .standardOutput) :
    (∀ round ∈ rounds, round.before.disk = s.disk) ∧ after.disk = s.disk := by
  induction h with
  | nil => exact ⟨(fun round hround => nomatch hround), rfl⟩
  | @cons s between after path result hrun rounds later ih =>
    rw [Job.disk_run hrun hprints] at ih
    exact ⟨List.forall_mem_cons.mpr ⟨rfl, ih.1⟩, ih.2⟩

theorem append {between : Surroundings} {later : List Round} (h : Ran job s rounds between)
    (hlater : Ran job between later after) : Ran job s (rounds ++ later) after := by
  induction h with
  | nil => exact hlater
  | cons path hrun _ ih => exact .cons path hrun (ih hlater)

end Ran

/-! ## Answers -/

section
variable {watcher : Watcher} {job : Job} {s : Surroundings}

theorem round_ending (job : Job) (path : Text) (s : Surroundings) : (round job path).ending s
    = (.ok ⟨path, s, (job.run.ending s).1, (job.run.ending s).2⟩, (job.run.ending s).2) := rfl

/-- A message that counts is answered by a run, and any other by none. The watch goes on. -/
theorem handle_spec (job : Job) (message : Message) (s : Surroundings) :
    ∃ rounds after, (handle job message).ending s = (.ok rounds, after) ∧ Ran job s rounds after ∧
      (rounds ≠ [] ↔ counts job.paths message = true) := by
  cases message with
  | fault text => exact ⟨[], s, rfl, .nil s, iff_of_false (fun h => h rfl) nofun⟩
  | entry path changes =>
    rw [handle]
    by_cases hcounts : counts job.paths (.entry path changes) = true
    · rw [if_pos hcounts, Action.ending_bind_ok (round_ending job path s)]
      exact ⟨_, _, rfl, .cons path rfl (.nil _), iff_of_true (List.cons_ne_nil _ _) hcounts⟩
    · rw [if_neg hcounts]
      exact ⟨[], s, rfl, .nil s, iff_of_false (fun h => h rfl) hcounts⟩

theorem handleAll_spec (job : Job) (messages : List Message) (s : Surroundings) :
    ∃ rounds after, (handleAll job messages).ending s = (.ok rounds, after) ∧
      Ran job s rounds after ∧
      (rounds ≠ [] ↔ ∃ message ∈ messages, counts job.paths message = true) := by
  induction messages generalizing s with
  | nil => exact ⟨[], s, rfl, .nil s, iff_of_false (fun h => h rfl) nofun⟩
  | cons message messages ih =>
    obtain ⟨first, between, hfirst, hran, hcounts⟩ := handle_spec job message s
    obtain ⟨later, after, hlater, hran', hcounts'⟩ := ih between
    refine ⟨first ++ later, after, ?_, hran.append hran', ?_⟩
    · rw [handleAll, Action.ending_bind_ok hfirst, Action.ending_bind_ok hlater, Action.ending_pure]
    · rw [ne_eq, List.append_eq_nil_iff, not_and_or]
      simp only [List.mem_cons, exists_eq_or_imp, ← hcounts, ← hcounts', ne_eq]

/-- What is known of the answer to a change of the files: of its runs, from what was there before the
change to what the last run has left. -/
structure IsAnswer (watcher : Watcher) (job : Job) (s : Surroundings) (change : FileChange)
    (rounds : List Round) (after : Surroundings) : Prop where
  /-- The first run finds the files as they are after the change, and each later one what the run
  before it has left. -/
  ran : Ran job { s with disk := change.apply s.disk } rounds after
  /-- There is a run exactly if an entry is told that has the clean path of a watched file. -/
  told : rounds ≠ [] ↔ IsTold watcher s.disk job.paths change
  /-- If there is one, the change writes a file with the clean path of a watched file. -/
  touches : rounds ≠ [] → Touches s.disk job.paths change
  /-- There is one exactly then, if every watched folder is told under its own path. -/
  triggered : IsToldUnderEach watcher s.disk job.paths change →
    (rounds ≠ [] ↔ Touches s.disk job.paths change)
  /-- There is one exactly then, if no folder is watched under two paths. -/
  spelledOnce : SpelledOnce s.disk job.paths → (rounds ≠ [] ↔ Touches s.disk job.paths change)
  /-- If the change and the watched paths are spelled from the same folder and stay below it, and no
  folder is created, this is so exactly if the clean path of the change is that of a watched path. -/
  spelled : ∀ file, change.Writes s.disk file → s.disk.missingFolders (s.disk.named file) = [] →
    (∀ path ∈ job.paths, Path.isRooted file = Path.isRooted path) →
    (∀ path ∈ file :: job.paths, (".." : Text) ∉ Path.resolved path) →
    (rounds ≠ [] ↔ ∃ path ∈ job.paths, Path.clean file = Path.clean path)
  /-- Every run ends as a first run on its files would end. -/
  fresh : ∀ round ∈ rounds, job.run.ending (.ofDisk round.before.disk s.isFull)
    = (round.result, ⟨round.after.disk, round.printed, s.isFull⟩)
  /-- The first run finds the files as they are after the change. -/
  first : ∀ round ∈ rounds.head?, round.before.disk = change.apply s.disk
  /-- All of them do, unless the job writes to a file. -/
  current : job.destination = .standardOutput →
    ∀ round ∈ rounds, round.before.disk = change.apply s.disk

/-- Every change is answered, whatever comes of its runs. -/
theorem respond_spec (hreports : watcher.Reports) (job : Job) (change : FileChange)
    (s : Surroundings) : ∃ rounds after, (respond watcher job change).ending s = (.ok rounds, after) ∧
      IsAnswer watcher job s change rounds after := by
  have hhappen : (happen watcher job.paths change).ending s
      = (.ok (watcher (folders job.paths) s.disk change), { s with disk := change.apply s.disk }) :=
    rfl
  obtain ⟨rounds, after, hanswer, hran, hcounts⟩ := handleAll_spec job
    (watcher (folders job.paths) s.disk change) { s with disk := change.apply s.disk }
  have htold : rounds ≠ [] ↔ IsTold watcher s.disk job.paths change := by
    rw [hcounts, exists_counts_iff hreports]
  have heach (h : IsToldUnderEach watcher s.disk job.paths change) :
      rounds ≠ [] ↔ Touches s.disk job.paths change :=
    htold.trans (told_iff_touches hreports h)
  refine ⟨rounds, after, ?_, {
    ran := hran
    told := htold
    touches := fun h => (htold.mp h).touches hreports
    triggered := heach
    spelledOnce := fun h => heach (h.isToldUnderEach hreports change)
    spelled := ?_
    fresh := hran.fresh
    first := fun round hround => congrArg Surroundings.disk (hran.first round hround)
    current := fun h => (hran.disk h).1 }⟩
  · rw [respond, Action.ending_bind_ok hhappen, hanswer]
  · intro file hwrites hfolder hrooted hdots
    have honce : SpelledOnce s.disk job.paths :=
      Watch.spelledOnce s.disk (fun x hx y hy => (hrooted x hx).symm.trans (hrooted y hy))
        (List.forall_mem_cons.mp hdots).2
    rw [heach (honce.isToldUnderEach hreports change),
      touches_iff_clean hwrites hfolder hrooted hdots]

/-- The answers to changes, one after another, from what was there before the first change to what
the last run has left. -/
inductive Answered (watcher : Watcher) (job : Job) :
    Surroundings → List FileChange → List (List Round) → Surroundings → Prop
  | nil (s : Surroundings) : Answered watcher job s [] [] s
  | cons {s between after : Surroundings} {change : FileChange} {changes : List FileChange}
    {rounds : List Round} {answers : List (List Round)}
    (first : IsAnswer watcher job s change rounds between)
    (later : Answered watcher job between changes answers after) :
    Answered watcher job s (change :: changes) (rounds :: answers) after

/-- The files after changes. -/
def changed (disk : Disk) (changes : List FileChange) : Disk :=
  changes.foldl (fun disk change => change.apply disk) disk

namespace Answered

variable {changes : List FileChange} {answers : List (List Round)} {after : Surroundings}

theorem isFull (h : Answered watcher job s changes answers after) : after.isFull = s.isFull := by
  induction h with
  | nil => rfl
  | cons first later ih => exact ih.trans first.ran.isFull

/-- Runs that print their documents change no files. -/
theorem disk (h : Answered watcher job s changes answers after)
    (hprints : job.destination = .standardOutput) : after.disk = changed s.disk changes := by
  induction h with
  | nil => rfl
  | cons first later ih =>
    rw [ih, (first.ran.disk hprints).2]
    rfl

end Answered

/-- All changes are answered, one after another. -/
theorem respondAll_spec (hreports : watcher.Reports) (job : Job) (changes : List FileChange)
    (s : Surroundings) :
    ∃ answers after, (respondAll watcher job changes).ending s = (.ok answers, after) ∧
      Answered watcher job s changes answers after := by
  induction changes generalizing s with
  | nil => exact ⟨[], s, rfl, .nil s⟩
  | cons change changes ih =>
    obtain ⟨rounds, between, hrounds, hanswer⟩ := respond_spec hreports job change s
    obtain ⟨answers, after, hanswers, hanswered⟩ := ih between
    refine ⟨rounds :: answers, after, ?_, .cons hanswer hanswered⟩
    rw [respondAll, Action.ending_bind_ok hrounds, Action.ending_bind_ok hanswers,
      Action.ending_pure]

theorem respondAll_append {earlier later : List FileChange} {between after : Surroundings}
    {first second : List (List Round)}
    (hfirst : (respondAll watcher job earlier).ending s = (.ok first, between))
    (hsecond : (respondAll watcher job later).ending between = (.ok second, after)) :
    (respondAll watcher job (earlier ++ later)).ending s = (.ok (first ++ second), after) := by
  induction earlier generalizing s first with
  | nil =>
    obtain ⟨rfl, rfl⟩ : [] = first ∧ s = between :=
      ⟨Except.ok.inj (Prod.mk.inj hfirst).1, (Prod.mk.inj hfirst).2⟩
    exact hsecond
  | cons change earlier ih =>
    obtain ⟨rounds, next, hrounds, hrest⟩ := Action.exists_of_ending_bind_ok hfirst
    obtain ⟨answers, last, hanswers, hend⟩ := Action.exists_of_ending_bind_ok hrest
    obtain ⟨rfl, rfl⟩ : rounds :: answers = first ∧ last = between :=
      ⟨Except.ok.inj (Prod.mk.inj hend).1, (Prod.mk.inj hend).2⟩
    rw [List.cons_append, respondAll, Action.ending_bind_ok hrounds,
      Action.ending_bind_ok (ih hanswers), Action.ending_pure, List.cons_append]

/-! ## The start -/

/-- All the paths lead somewhere. -/
def Exist (disk : Disk) (paths : List Text) : Prop :=
  ∀ path ∈ paths, ∃ place, disk.examine path = .ok place

/-- The path is the first that leads nowhere. -/
structure FirstMissing (disk : Disk) (paths : List Text) (path : Text) (error : FileError) :
    Prop where
  split : ∃ before after, paths = before ++ path :: after ∧ Exist disk before
  missing : disk.examine path = .error error

/-- All paths lead somewhere, or there is a first that does not. -/
theorem exist_or_firstMissing (disk : Disk) (paths : List Text) :
    Exist disk paths ∨ ∃ path error, FirstMissing disk paths path error := by
  induction paths with
  | nil => exact Or.inl fun path hpath => nomatch hpath
  | cons first paths ih =>
    cases hfirst : disk.examine first with
    | error error =>
      have hnone : Exist disk [] := fun path hpath => nomatch hpath
      exact Or.inr ⟨first, error, ⟨[], paths, rfl, hnone⟩, hfirst⟩
    | ok place =>
      rcases ih with hexist | ⟨path, error, ⟨before, after, hpaths, hbefore⟩, hmissing⟩
      · exact Or.inl (List.forall_mem_cons.mpr ⟨⟨place, hfirst⟩, hexist⟩)
      · refine Or.inr ⟨path, error, ⟨first :: before, after, ?_, ?_⟩, hmissing⟩
        · rw [hpaths, List.cons_append]
        · exact List.forall_mem_cons.mpr ⟨⟨place, hfirst⟩, hbefore⟩

/-- The folders to be watched are there if the files are. -/
theorem exists_folder_of_mem_folders {disk : Disk} {paths : List Text} (h : Exist disk paths)
    {folder : Text} (hfolder : folder ∈ folders paths) :
    ∃ names, disk.resolve folder = .ok (.folder names) := by
  rw [folders, List.mem_eraseDups] at hfolder
  obtain ⟨target, htarget, rfl⟩ := List.mem_map.mp hfolder
  obtain ⟨path, hpath, rfl⟩ := List.mem_map.mp htarget
  obtain ⟨place, hplace⟩ := h path hpath
  cases hresolve : disk.resolve path with
  | error cause =>
    rw [Disk.examine, hresolve] at hplace
    cases hplace
  | ok found => exact Disk.exists_folder_of_resolve hresolve

/-- The check of one path. -/
def present (disk : Disk) (path : Text) : Except Failure Unit :=
  match disk.examine path with
  | .ok _ => .ok ()
  | .error error => .error (.unwatchable path error)

theorem result_start (disk : Disk) (paths : List Text) :
    (start disk paths).result = paths.forM (present disk) := by
  show (Traced.bind (Traced.ofExcept (paths.forM (present disk))) fun _ =>
    Traced.report (.watching paths.length)).result = _
  unfold Traced.bind Traced.ofExcept
  cases paths.forM (present disk) with
  | error failure => rfl
  | ok u => rfl

theorem forM_present {disk : Disk} {paths : List Text} (h : Exist disk paths) (later : List Text) :
    (paths ++ later).forM (present disk) = later.forM (present disk) := by
  induction paths with
  | nil => rfl
  | cons path paths ih =>
    obtain ⟨⟨place, hplace⟩, hpaths⟩ := List.forall_mem_cons.mp h
    have hpresent : present disk path = .ok () := by rw [present, hplace]
    show (present disk path >>= fun _ => (paths ++ later).forM (present disk)) = _
    rw [hpresent]
    exact ih hpaths

theorem run_of_exist (watcher : Watcher) {job : Job} {s : Surroundings}
    (h : Exist s.disk job.paths) (changes : List FileChange) :
    (run watcher job changes).ending s = (respondAll watcher job changes).ending s := by
  have hstart : (start s.disk job.paths).result = .ok () := by
    rw [result_start, ← List.append_nil job.paths, forM_present h]
    rfl
  exact Action.ending_look_ok hstart

/-- If a file is missing, the watch ends with the first such file, and nothing is run. -/
theorem run_of_firstMissing (watcher : Watcher) {job : Job} {s : Surroundings} {path : Text}
    {error : FileError} (h : FirstMissing s.disk job.paths path error)
    (changes : List FileChange) :
    (run watcher job changes).ending s = (.error (.unwatchable path error), s) := by
  obtain ⟨⟨before, after, hpaths, hbefore⟩, hmissing⟩ := h
  have hpresent : present s.disk path = .error (.unwatchable path error) := by
    rw [present, hmissing]
  have hstart : (start s.disk job.paths).result = .error (.unwatchable path error) := by
    rw [result_start, hpaths, forM_present hbefore]
    show (present s.disk path >>= fun _ => after.forM (present s.disk)) = _
    rw [hpresent]
    rfl
  exact Action.ending_look_error hstart

/-- Two files. -/
def watchedDisk : Disk := .ofFiles [("a.js", "/** A */"), ("s/c.js", "/** C */")]

/-- The extraction of two files, to the standard output. -/
def watchedJob (paths : List Text) : Job where
  paths := paths
  reading := ⟨false, id⟩
  depth := 2
  encoding := .json 0
  destination := .standardOutput

end

end Watch

end DocBlock
