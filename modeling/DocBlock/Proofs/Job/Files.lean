import Mathlib.Data.List.Nodup
import Mathlib.Data.List.Perm.Basic
import DocBlock.Proofs.Job.Run

/-!
# The document of several files

Several files give one object. `Document.insertFile` keeps its fields in byte order of their paths,
one field for each path, so the object depends on which paths there are and not on how they were
listed:

> `Tabulates.insertFile`, `Tabulates.foldl`: after each step the fields are those of the paths read
> so far, in ascending order;
> `Tabulates.unique`: there is only one such list of fields;
> `run_eq_of_samePaths`: two lists of at least two files, with the same members, are written alike.
-/

namespace DocBlock

/-! ## Byte order -/

namespace Text

theorem precedes_iff {s t : Text} : precedes s t = true ↔ s ≤ t := by
  rw [List.le_iff_lt_or_eq]
  fun_induction precedes s t with
  | case1 t =>
    cases t with
    | nil => simp
    | cons b t => simp
  | case2 a s => simp
  | case3 a s b t ih =>
    rw [Bool.or_eq_true, Bool.and_eq_true, ih, List.cons_lt_cons_iff]
    simp only [decide_eq_true_eq, beq_iff_eq, List.cons.injEq]
    tauto

theorem lt_of_precedes {s t : Text} (hne : s ≠ t) (h : precedes s t = true) : s < t :=
  (List.le_iff_lt_or_eq.mp (precedes_iff.mp h)).resolve_right hne

theorem lt_of_not_precedes {s t : Text} (h : ¬ precedes s t = true) : t < s :=
  List.not_le.mp (mt precedes_iff.mpr h)

end Text

/-! ## The fields of the object -/

namespace Document

/-- The paths of fields are in ascending byte order, so each stands there once. -/
def IsAscending (fields : List (Text × Json)) : Prop := fields.Pairwise fun f g => f.1 < g.1

section
variable {path : Text} {document : Json} {fields : List (Text × Json)}

theorem mem_insertFile (h : IsAscending fields) {f : Text × Json} :
    f ∈ insertFile path document fields ↔ f = (path, document) ∨ f ∈ fields ∧ f.1 ≠ path := by
  fun_induction insertFile path document fields with
  | case1 => simp
  | case2 d rest =>
    -- The field that is replaced is the only one with this path.
    have hlater : ∀ g ∈ rest, g.1 ≠ path := fun g hg =>
      (Std.ne_of_lt ((List.pairwise_cons.mp h).1 g hg)).symm
    rw [List.mem_cons, List.mem_cons]
    constructor
    · rintro (rfl | hf)
      · exact Or.inl rfl
      · exact Or.inr ⟨Or.inr hf, hlater f hf⟩
    · rintro (rfl | ⟨rfl | hf, hne⟩)
      · exact Or.inl rfl
      · exact absurd rfl hne
      · exact Or.inr hf
  | case3 q d rest hne hprec =>
    have hlt : path < q := Text.lt_of_precedes hne hprec
    have hall : ∀ g ∈ (q, d) :: rest, g.1 ≠ path := by
      intro g hg
      rcases List.mem_cons.mp hg with rfl | hg
      · exact (Std.ne_of_lt hlt).symm
      · exact (Std.ne_of_lt (List.lt_trans hlt ((List.pairwise_cons.mp h).1 g hg))).symm
    rw [List.mem_cons]
    exact or_congr_right ⟨fun hf => ⟨hf, hall f hf⟩, And.left⟩
  | case4 q d rest hne hprec ih =>
    rw [List.mem_cons, ih (List.pairwise_cons.mp h).2, List.mem_cons]
    constructor
    · rintro (rfl | rfl | ⟨hf, hfne⟩)
      · exact Or.inr ⟨Or.inl rfl, fun heq => hne heq.symm⟩
      · exact Or.inl rfl
      · exact Or.inr ⟨Or.inr hf, hfne⟩
    · rintro (rfl | ⟨rfl | hf, hfne⟩)
      · exact Or.inr (Or.inl rfl)
      · exact Or.inl rfl
      · exact Or.inr (Or.inr ⟨hf, hfne⟩)

theorem IsAscending.insertFile (h : IsAscending fields) :
    IsAscending (insertFile path document fields) := by
  fun_induction Document.insertFile path document fields with
  | case1 => exact List.pairwise_singleton _ _
  | case2 d rest =>
    obtain ⟨hfirst, hrest⟩ := List.pairwise_cons.mp h
    exact List.pairwise_cons.mpr ⟨hfirst, hrest⟩
  | case3 q d rest hne hprec =>
    have hlt : path < q := Text.lt_of_precedes hne hprec
    refine List.pairwise_cons.mpr ⟨fun g hg => ?_, h⟩
    rcases List.mem_cons.mp hg with rfl | hg
    · exact hlt
    · exact List.lt_trans hlt ((List.pairwise_cons.mp h).1 g hg)
  | case4 q d rest hne hprec ih =>
    obtain ⟨hfirst, hrest⟩ := List.pairwise_cons.mp h
    refine List.pairwise_cons.mpr ⟨fun g hg => ?_, ih hrest⟩
    rcases (mem_insertFile hrest).mp hg with rfl | ⟨hg, -⟩
    · exact Text.lt_of_not_precedes hprec
    · exact hfirst g hg

end

/-- The fields hold the value of each of the paths, in ascending order of the paths. -/
structure Tabulates (value : Text → Json) (paths : List Text) (fields : List (Text × Json)) :
    Prop where
  ascending : IsAscending fields
  mem_iff : ∀ path document, (path, document) ∈ fields ↔ path ∈ paths ∧ document = value path

namespace Tabulates

variable {value : Text → Json} {paths : List Text} {fields : List (Text × Json)}

theorem insertFile (h : Tabulates value paths fields) (path : Text) :
    Tabulates value (paths ++ [path]) (insertFile path (value path) fields) := by
  refine ⟨h.ascending.insertFile, fun p document => ?_⟩
  rw [mem_insertFile h.ascending, h.mem_iff, List.mem_append, List.mem_singleton, Prod.mk.injEq]
  by_cases hp : p = path
  · simp [hp]
  · simp [hp]

theorem foldl (later : List Text) (h : Tabulates value paths fields) :
    Tabulates value (paths ++ later)
      (later.foldl (fun acc path => Document.insertFile path (value path) acc) fields) := by
  induction later generalizing paths fields with
  | nil =>
    rw [List.append_nil]
    exact h
  | cons path later ih =>
    rw [List.foldl_cons, List.append_cons]
    exact ih (h.insertFile path)

/-- The fields are determined by the values and by which paths there are. -/
theorem unique {others : List Text} {fields' : List (Text × Json)}
    (h : Tabulates value paths fields) (h' : Tabulates value others fields')
    (hsame : ∀ path, path ∈ paths ↔ path ∈ others) : fields = fields' := by
  -- No field stands twice in ascending fields, so the same members are the same fields in some
  -- order, and there is only one ascending order.
  have hnodup : ∀ {fs : List (Text × Json)}, IsAscending fs → fs.Nodup :=
    fun hfs => hfs.imp fun hlt heq => Std.ne_of_lt hlt (congrArg Prod.fst heq)
  have hmem : ∀ f, f ∈ fields ↔ f ∈ fields' := by
    rintro ⟨path, document⟩
    rw [h.mem_iff, h'.mem_iff, hsame]
  have hperm := (List.perm_ext_iff_of_nodup (hnodup h.ascending) (hnodup h'.ascending)).mpr hmem
  exact hperm.eq_of_pairwise (fun f g _ _ hlt hgt => absurd hgt (List.lt_asymm hlt))
    h.ascending h'.ascending

end Tabulates

theorem exists_tabulates (comments : Text → List (Comment Inclusion)) (paths : List Text) :
    ∃ fields, Tabulates (fun path => ofFile (comments path)) paths fields ∧
      ofFiles (paths.map fun path => (path, comments path)) = .object fields := by
  have hnone : Tabulates (fun path => ofFile (comments path)) [] [] :=
    ⟨List.Pairwise.nil, by simp⟩
  refine ⟨_, hnone.foldl paths, ?_⟩
  rw [ofFiles, List.foldl_map]

end Document

/-! ## What a job writes -/

namespace Job

section
variable {job : Job} {load : Loader FileError} {comments : Text → List (Comment Inclusion)}

theorem result_document_files (hmany : 2 ≤ job.paths.length)
    (hread : ∀ path ∈ job.paths,
      (Extraction.extract load job.reading job.depth path).result = .ok (comments path)) :
    (job.document load).result
      = .ok (Document.ofFiles (job.paths.map fun path => (path, comments path))) := by
  have hpair : ∀ path ∈ job.paths,
      (do return (path, ← job.extract load path) : Traced Failure _).result
        = .ok (path, comments path) := by
    intro path hpath
    rw [Traced.result_bind, Job.extract, Traced.mapError, hread path hpath]
    rfl
  unfold document
  split
  next path hone =>
    rw [hone] at hmany
    exact absurd hmany (by simp)
  next =>
    rw [Traced.result_bind, Traced.result_mapM, mapM_eq_ok hpair]
    rfl

end

/-- Two lists of at least two files with the same members are written alike: one object, with one
field for each path, in ascending order, that holds the comments of the file. Both runs end in the
same way and leave the same behind: the text of this object, whole, or nothing. -/
theorem run_eq_of_samePaths (job : Job) (s : Surroundings) (first second : List Text)
    (hfirst : 2 ≤ first.length) (hsecond : 2 ≤ second.length)
    (hsame : ∀ path, path ∈ first ↔ path ∈ second)
    (hread : ∀ path ∈ first, ∃ comments,
      (Extraction.extract s.disk.load job.reading job.depth path).result = .ok comments) :
    ∃ fields, (fields.map Prod.fst).Pairwise (· < ·) ∧
      (∀ path document, (path, document) ∈ fields ↔ path ∈ first ∧ ∃ comments,
        (Extraction.extract s.disk.load job.reading job.depth path).result = .ok comments ∧
        document = Document.ofFile comments) ∧
      ∃ result after,
        (∀ paths ∈ [first, second], ({ job with paths } : Job).run.ending s = (result, after)) ∧
        (∀ failure, job.encode (.object fields) = .error failure →
          result = .error failure ∧ after = s) ∧
        ∀ text, job.encode (.object fields) = .ok text →
          (Action.write job.destination text).ending s = (result, after) ∧
          (result = .ok () ∧ s.Received job.destination text after ∨
            (∃ error, result = .error (.unwritable error)) ∧ after = s) := by
  choose! comments hcomments using hread
  obtain ⟨fields, htable, -⟩ := Document.exists_tabulates comments first
  have htext : ∀ paths ∈ [first, second],
      (({ job with paths } : Job).text s.disk.load).result = job.encode (.object fields) := by
    intro paths hpaths
    have hmembers : 2 ≤ paths.length ∧ ∀ path, path ∈ first ↔ path ∈ paths := by
      rcases List.mem_pair.mp hpaths with rfl | rfl
      · exact ⟨hfirst, fun _ => Iff.rfl⟩
      · exact ⟨hsecond, hsame⟩
    obtain ⟨fields', htable', hfiles⟩ := Document.exists_tabulates comments paths
    have hdocument : (({ job with paths } : Job).document s.disk.load).result
        = .ok (Document.ofFiles (paths.map fun path => (path, comments path))) :=
      result_document_files hmembers.1 fun path hpath =>
        hcomments path ((hmembers.2 path).mpr hpath)
    rw [hfiles, ← htable.unique htable' hmembers.2] at hdocument
    rw [Job.result_text, hdocument]
    rfl
  refine ⟨fields, List.pairwise_map.mpr htable.ascending, fun path document => ?_, ?_⟩
  · rw [htable.mem_iff]
    refine and_congr_right fun hpath => ?_
    rw [hcomments path hpath]
    constructor
    · exact fun h => ⟨_, rfl, h⟩
    · rintro ⟨_, heq, rfl⟩
      rw [← Except.ok.inj heq]
  · cases hencode : job.encode (.object fields) with
    | error failure =>
      refine ⟨.error failure, s, fun paths hpaths => ?_, fun failure' h => ?_, nofun⟩
      · exact ending_run_error ((htext paths hpaths).trans hencode)
      · exact ⟨congrArg Except.error (Except.error.inj h), rfl⟩
    | ok text =>
      have hrun : ∀ paths ∈ [first, second], ({ job with paths } : Job).run.ending s
          = (Action.write job.destination text).ending s := fun paths hpaths =>
        ending_run_ok ((htext paths hpaths).trans hencode)
      obtain ⟨after, hwrite, hreceived⟩ | ⟨error, hwrite⟩ :=
        Action.ending_write_cases job.destination text s
      · refine ⟨.ok (), after, fun paths hpaths => (hrun paths hpaths).trans hwrite, nofun, ?_⟩
        rintro _ ⟨⟩
        exact ⟨hwrite, .inl ⟨rfl, hreceived⟩⟩
      · refine ⟨_, s, fun paths hpaths => (hrun paths hpaths).trans hwrite, nofun, ?_⟩
        rintro _ ⟨⟩
        exact ⟨hwrite, .inr ⟨⟨error, rfl⟩, rfl⟩⟩

/-- A job without files that writes to the standard output. -/
def toOutput : Job where
  paths := []
  reading := ⟨false, id⟩
  depth := 0
  encoding := .json 2
  destination := .standardOutput

/-- A file that is listed twice, and in another order, stands in the object once. -/
theorem run_eq_of_samePaths_repeated :
    ∃ fields, (∀ path : Text, path ∈ fields.map Prod.fst ↔ path = "a.js" ∨ path = "b.js") ∧
      ∀ paths ∈ ([["b.js", "a.js", "b.js"], ["a.js", "b.js"]] : List (List Text)),
        ({ toOutput with paths } : Job).run.ending (.ofDisk Program.twoFiles false)
          = (.ok (), ⟨Program.twoFiles, (Encoding.json 2).write (.object fields), false⟩) := by
  have hread : ∀ path ∈ (["b.js", "a.js", "b.js"] : List Text), failure?
      (Extraction.extract Program.twoFiles.load toOutput.reading toOutput.depth path).result
        = none := by
    decide +kernel
  obtain ⟨fields, -, hmem, result, after, hrun, -, hwritten⟩ :=
    run_eq_of_samePaths toOutput (.ofDisk Program.twoFiles false)
      ["b.js", "a.js", "b.js"] ["a.js", "b.js"] (by decide) (by decide)
      (fun path => by simp only [List.mem_cons, List.not_mem_nil, or_false]; tauto)
      fun path hpath => failure?_eq_none_iff.mp (hread path hpath)
  obtain ⟨hending, -⟩ := hwritten ((Encoding.json 2).write (.object fields)) rfl
  refine ⟨fields, fun path => ?_, fun paths hpaths => (hrun paths hpaths).trans hending.symm⟩
  rw [List.mem_map]
  constructor
  · rintro ⟨⟨p, document⟩, hfield, rfl⟩
    have hpath := ((hmem p document).mp hfield).1
    simp only [List.mem_cons, List.not_mem_nil, or_false] at hpath
    tauto
  · intro hpath
    have hlisted : path ∈ (["b.js", "a.js", "b.js"] : List Text) := by
      rcases hpath with rfl | rfl <;> decide
    obtain ⟨comments, hcomments⟩ := failure?_eq_none_iff.mp (hread path hlisted)
    exact ⟨_, (hmem path _).mpr ⟨hlisted, comments, hcomments, rfl⟩, rfl⟩

end Job

end DocBlock
