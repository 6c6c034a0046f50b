import DocBlock.Command.Program
import DocBlock.Proofs.Files.Disk
import DocBlock.Proofs.Traced

/-!
# A run writes one document or nothing

What an extraction computes it computes from the files as they are when it starts, and writing the
document is the last thing it does. `Ended` lists the four ways in which it can end, each with what
it leaves behind: the options and arguments make no job, a file cannot be read, the document cannot
be written, or the document is written.

> `extract_ended`: an extraction without a watch ends in one of these ways;
> `extract_writes_whole_or_nothing`: a run that fails before it writes leaves the output and all
> files as they were, and one that succeeds has written its whole document to one place.
-/

namespace DocBlock

/-! ## Actions -/

namespace Action

variable {α β : Type} {s : Surroundings}

/-- How an action ends: its result, and what it leaves behind. -/
def ending (action : Action α) (s : Surroundings) : Except Failure α × Surroundings :=
  ((action s).1.result, (action s).2)

section
variable {f : Surroundings → Traced Failure α} {x : α → Action β}

theorem ending_look_ok {a : α} (h : (f s).result = .ok a) :
    (look f >>= x).ending s = (x a).ending s := by
  show ((bind (look f) x s).1.result, (bind (look f) x s).2) = _
  simp only [bind, look, h]
  rfl

theorem ending_look_error {failure : Failure} (h : (f s).result = .error failure) :
    (look f >>= x).ending s = (.error failure, s) := by
  show ((bind (look f) x s).1.result, (bind (look f) x s).2) = _
  simp only [bind, look, h]

end

theorem ending_pure (a : α) (s : Surroundings) : (Pure.pure a : Action α).ending s = (.ok a, s) :=
  rfl

/-- After a success, an action goes on from what was left behind. -/
theorem ending_bind_ok {x : Action α} {f : α → Action β} {a : α} {after : Surroundings}
    (h : x.ending s = (.ok a, after)) : (x >>= f).ending s = (f a).ending after := by
  obtain ⟨hresult, rfl⟩ := Prod.mk.inj h
  show ((bind x f s).1.result, (bind x f s).2) = _
  simp only [bind, hresult]
  rfl

/-- An action succeeds only after its first part has. -/
theorem exists_of_ending_bind_ok {x : Action α} {f : α → Action β} {b : β} {after : Surroundings}
    (h : (x >>= f).ending s = (.ok b, after)) :
    ∃ a between, x.ending s = (.ok a, between) ∧ (f a).ending between = (.ok b, after) := by
  change ((bind x f s).1.result, (bind x f s).2) = _ at h
  simp only [bind] at h
  cases hresult : (x s).1.result with
  | error failure =>
    simp only [hresult] at h
    nomatch (Prod.mk.inj h).1
  | ok a =>
    simp only [hresult] at h
    exact ⟨a, (x s).2, Prod.ext hresult rfl, h⟩

theorem ending_bind_pure (action : Action Unit) (s : Surroundings) :
    (action >>= fun _ => Pure.pure ()).ending s = action.ending s := by
  show ((bind action _ s).1.result, (bind action _ s).2) = ((action s).1.result, (action s).2)
  unfold bind
  cases h : (action s).1.result with
  | ok u => simp only [h]; rfl
  | error failure => simp only [h]

theorem ending_write_ok {destination : Destination} {t : Text} {after : Surroundings}
    (h : s.write destination t = .ok after) :
    (write destination t).ending s = (.ok (), after) := by
  simp only [ending, write, h]
  rfl

theorem ending_write_error {destination : Destination} {t : Text} {error : FileError}
    (h : s.write destination t = .error error) :
    (write destination t).ending s = (.error (.unwritable error), s) := by
  simp only [ending, write, h]
  rfl

end Action

/-! ## What is written -/

/-- A text has gone to its destination, whole, and nothing else has changed. -/
def Surroundings.Received (s : Surroundings) (destination : Destination) (t : Text)
    (after : Surroundings) : Prop :=
  match destination with
  | .standardOutput => after.output = s.output ++ t ∧ after.disk = s.disk
  | .file path => after.output = s.output ∧ ∃ place, s.disk.Wrote after.disk path t place

theorem Surroundings.received_of_write {s after : Surroundings} {destination : Destination}
    {t : Text} (h : s.write destination t = .ok after) : s.Received destination t after := by
  cases destination with
  | standardOutput =>
    change s.print t = .ok after at h
    unfold Surroundings.print at h
    split at h
    · cases h
    · obtain rfl := Except.ok.inj h
      exact ⟨rfl, rfl⟩
  | file path =>
    change (s.disk.write path t).map _ = _ at h
    cases hwrite : s.disk.write path t with
    | error error =>
      rw [hwrite] at h
      cases h
    | ok disk =>
      rw [hwrite] at h
      obtain rfl := Except.ok.inj h
      exact ⟨rfl, Disk.write_spec hwrite⟩

theorem Action.ending_write_cases (destination : Destination) (t : Text) (s : Surroundings) :
    (∃ after, (write destination t).ending s = (.ok (), after) ∧ s.Received destination t after) ∨
      ∃ error, (write destination t).ending s = (.error (.unwritable error), s) := by
  cases h : s.write destination t with
  | error error => exact .inr ⟨error, ending_write_error h⟩
  | ok after => exact .inl ⟨after, ending_write_ok h, Surroundings.received_of_write h⟩

namespace Job

section
variable {job : Job} {s : Surroundings}

theorem result_text (job : Job) (load : Loader FileError) :
    (job.text load).result = (job.document load).result >>= job.encode := by
  rw [text, Traced.result_bind]
  rfl

/-- A run whose document cannot be made leaves everything as it was. -/
theorem ending_run_error {failure : Failure} (h : (job.text s.disk.load).result = .error failure) :
    job.run.ending s = (.error failure, s) :=
  Action.ending_look_error h

/-- A run whose document can be made writes it. -/
theorem ending_run_ok {t : Text} (h : (job.text s.disk.load).result = .ok t) :
    job.run.ending s = (Action.write job.destination t).ending s :=
  Action.ending_look_ok h

end

end Job

/-! ## A run looks at the files alone -/

/-- Writing a document fails or succeeds whatever was printed before, and keeps it. -/
theorem Surroundings.write_fresh (s : Surroundings) (destination : Destination) (t : Text) :
    (∃ error, s.write destination t = .error error ∧
      (ofDisk s.disk s.isFull).write destination t = .error error) ∨
    ∃ disk printed, s.write destination t = .ok ⟨disk, s.output ++ printed, s.isFull⟩ ∧
      (ofDisk s.disk s.isFull).write destination t = .ok ⟨disk, printed, s.isFull⟩ := by
  cases destination with
  | standardOutput =>
    by_cases hfull : s.isFull = true
    · exact .inl ⟨fullError, if_pos hfull, if_pos hfull⟩
    · exact .inr ⟨s.disk, t, if_neg hfull, if_neg hfull⟩
  | file path =>
    show (∃ error, (s.disk.write path t).map _ = _ ∧ (s.disk.write path t).map _ = _) ∨
      ∃ disk printed, (s.disk.write path t).map _ = _ ∧ (s.disk.write path t).map _ = _
    cases s.disk.write path t with
    | error error => exact .inl ⟨error, rfl, rfl⟩
    | ok disk => exact .inr ⟨disk, [], by rw [List.append_nil]; rfl, rfl⟩

/-- A run ends as it would end with nothing printed before, and what it prints comes after that. -/
theorem Job.run_fresh {job : Job} {s after : Surroundings} {result : Except Failure Unit}
    (hrun : job.run.ending s = (result, after)) :
    ∃ disk printed, after = ⟨disk, s.output ++ printed, s.isFull⟩ ∧
      job.run.ending (.ofDisk s.disk s.isFull) = (result, ⟨disk, printed, s.isFull⟩) := by
  cases htext : (job.text s.disk.load).result with
  | error failure =>
    rw [ending_run_error htext] at hrun
    obtain ⟨rfl, rfl⟩ := Prod.mk.inj hrun
    exact ⟨s.disk, [], by rw [List.append_nil], ending_run_error htext⟩
  | ok t =>
    have hfresh : job.run.ending (.ofDisk s.disk s.isFull)
        = (Action.write job.destination t).ending (.ofDisk s.disk s.isFull) :=
      ending_run_ok htext
    rw [ending_run_ok htext] at hrun
    rw [hfresh]
    rcases s.write_fresh job.destination t with ⟨error, hs, hempty⟩ | ⟨disk, printed, hs, hempty⟩
    · rw [Action.ending_write_error hs] at hrun
      obtain ⟨rfl, rfl⟩ := Prod.mk.inj hrun
      exact ⟨s.disk, [], by rw [List.append_nil], Action.ending_write_error hempty⟩
    · rw [Action.ending_write_ok hs] at hrun
      obtain ⟨rfl, rfl⟩ := Prod.mk.inj hrun
      exact ⟨disk, printed, rfl, Action.ending_write_ok hempty⟩

/-! ## The ends of an extraction -/

namespace Program

section
variable {host : Host} {render : Text → Text} {options : Options} {inputs : List Text}
  {s : Surroundings}

/-- What an extraction computes before it writes: the job, the document of the files as they are,
and the text that this document is written as. -/
def computed (host : Host) (render : Text → Text) (options : Options) (inputs : List Text)
    (disk : Disk) : Except Failure (Job × Json × Text) := do
  let job ← Job.prepare options {} render disk inputs host
  let document ← (job.document disk.load).result
  let text ← job.encode document
  return (job, document, text)

theorem computed_of_prepare {job : Job}
    (h : Job.prepare options {} render s.disk inputs host = .ok job) :
    computed host render options inputs s.disk = (do
      let document ← (job.document s.disk.load).result
      let text ← job.encode document
      return (job, document, text)) := by
  rw [computed, h]
  rfl

/-- How an extraction ends. -/
inductive Ended (host : Host) (render : Text → Text) (options : Options) (inputs : List Text)
    (s : Surroundings) : Except Failure Unit × Surroundings → Prop
  | failed {failure : Failure}
      (computed : computed host render options inputs s.disk = .error failure) :
      Ended host render options inputs s (.error failure, s)
  | unwritten {job : Job} {document : Json} {text : Text} {error : FileError}
      (computed : computed host render options inputs s.disk = .ok (job, document, text))
      (written : s.write job.destination text = .error error) :
      Ended host render options inputs s (.error (.unwritable error), s)
  | wrote {job : Job} {document : Json} {text : Text} {after : Surroundings}
      (computed : computed host render options inputs s.disk = .ok (job, document, text))
      (written : s.write job.destination text = .ok after) :
      Ended host render options inputs s (.ok (), after)

theorem run_ended {job : Job}
    (hprepared : Job.prepare options {} render s.disk inputs host = .ok job) :
    Ended host render options inputs s (job.run.ending s) := by
  have hcomputed := computed_of_prepare hprepared
  have htext := job.result_text s.disk.load
  cases hread : (job.document s.disk.load).result with
  | error failure =>
    rw [hread] at htext hcomputed
    rw [Job.ending_run_error htext]
    exact .failed hcomputed
  | ok document =>
    rw [hread] at htext hcomputed
    change _ = job.encode document at htext
    change _ = job.encode document >>= fun text => .ok (job, document, text) at hcomputed
    cases hencode : job.encode document with
    | error failure =>
      rw [hencode] at htext hcomputed
      rw [Job.ending_run_error htext]
      exact .failed hcomputed
    | ok text =>
      rw [hencode] at htext hcomputed
      rw [Job.ending_run_ok htext]
      cases hwrite : s.write job.destination text with
      | error error =>
        rw [Action.ending_write_error hwrite]
        exact .unwritten hcomputed hwrite
      | ok after =>
        rw [Action.ending_write_ok hwrite]
        exact .wrote hcomputed hwrite

theorem extract_ended (hwatch : options.watch = false) :
    Ended host render options inputs s ((extract options inputs host render).ending s) := by
  unfold extract
  rw [hwatch]
  cases hprepared : Job.prepare options {} render s.disk inputs host with
  | error failure =>
    rw [Action.ending_look_error hprepared]
    refine .failed ?_
    rw [computed, hprepared]
    rfl
  | ok job =>
    rw [Action.ending_look_ok hprepared]
    have hrun : (job.run >>= fun _ => Pure.pure ()).ending s = job.run.ending s :=
      Action.ending_bind_pure job.run s
    exact hrun ▸ run_ended hprepared

/-! ## The job behind an end -/

/-- What is computed is computed for a job, from its document. -/
theorem of_computed {disk : Disk} {job : Job} {document : Json} {text : Text}
    (h : computed host render options inputs disk = .ok (job, document, text)) :
    Job.prepare options {} render disk inputs host = .ok job ∧
      (job.document disk.load).result = .ok document ∧ job.encode document = .ok text := by
  obtain ⟨job', hjob, h⟩ := exists_ok_of_bind_eq_ok h
  obtain ⟨document', hdocument, h⟩ := exists_ok_of_bind_eq_ok h
  obtain ⟨text', htext, h⟩ := exists_ok_of_bind_eq_ok h
  obtain ⟨rfl, hpair⟩ := Prod.mk.inj (Except.ok.inj h)
  obtain ⟨rfl, rfl⟩ := Prod.mk.inj hpair
  exact ⟨hjob, hdocument, htext⟩

/-- A document goes to the standard output when the options name no other place. -/
theorem destination_of_prepare {disk : Disk} {names : FlagNames} {job : Job}
    (h : Job.prepare options names render disk inputs host = .ok job) :
    job.destination = if options.output = "" ∨ options.output = "-" then .standardOutput
      else .file options.output := by
  have houtput : options.toStandardOutput = true ↔ options.output = "" ∨ options.output = "-" := by
    simp only [Options.toStandardOutput, Bool.or_eq_true, List.isEmpty_iff, beq_iff_eq]
    exact Iff.rfl
  obtain ⟨encoding, -, h⟩ := exists_ok_of_bind_eq_ok h
  obtain ⟨depth, -, h⟩ := exists_ok_of_bind_eq_ok h
  obtain ⟨paths, -, h⟩ := exists_ok_of_bind_eq_ok h
  obtain rfl := Except.ok.inj h
  simp only [houtput]

/-- A run that fails before it writes leaves everything as it was. A run that succeeds has written
the document of the files as they were, whole and to one place. Both hold whatever the host finds
for a pattern, makes of YAML and tells of the output, and however descriptions are rendered. -/
theorem extract_writes_whole_or_nothing (host : Host) (render : Text → Text) (options : Options)
    (hwatch : options.watch = false) (inputs : List Text) (disk : Disk) (isFull : Bool)
    (result : Except Failure Unit) (after : Surroundings)
    (hrun : (extract options inputs host render).ending (.ofDisk disk isFull) = (result, after)) :
    (∀ failure, computed host render options inputs disk = .error failure →
      result = .error failure) ∧
    (∀ failure, result = .error failure → (∀ error, failure ≠ .unwritable error) →
      computed host render options inputs disk = .error failure ∧ after.output = [] ∧
      after.disk = disk) ∧
    (result = .ok () → ∃ job document text,
      computed host render options inputs disk = .ok (job, document, text) ∧
      job.encode document = .ok text ∧
      if options.output = "" ∨ options.output = "-" then
        after.output = text ∧ after.disk = disk
      else
        after.output = [] ∧ ∃ place, disk.Wrote after.disk options.output text place) := by
  have hended : Ended host render options inputs (.ofDisk disk isFull)
      ((extract options inputs host render).ending (.ofDisk disk isFull)) := extract_ended hwatch
  rw [hrun] at hended
  cases hended with
  | failed hcomputed =>
    refine ⟨fun failure h => ?_, fun failure h _ => ?_, nofun⟩
    · exact congrArg Except.error (Except.error.inj (hcomputed.symm.trans h))
    · obtain rfl := Except.error.inj h
      exact ⟨hcomputed, rfl, rfl⟩
  | unwritten hcomputed hwritten =>
    refine ⟨fun failure h => ?_, fun failure h hother => ?_, nofun⟩
    · cases hcomputed.symm.trans h
    · exact absurd (Except.error.inj h).symm (hother _)
  | @wrote job document text after hcomputed hwritten =>
    obtain ⟨hprepared, -, hencode⟩ := of_computed hcomputed
    refine ⟨fun failure h => ?_, nofun, fun _ => ⟨job, document, text, hcomputed, hencode, ?_⟩⟩
    · cases hcomputed.symm.trans h
    · rw [destination_of_prepare hprepared] at hwritten
      by_cases houtput : options.output = "" ∨ options.output = "-"
      · rw [if_pos houtput] at hwritten ⊢
        exact Surroundings.received_of_write hwritten
      · rw [if_neg houtput] at hwritten ⊢
        exact Surroundings.received_of_write hwritten

end

/-- Two files, of which the second refers to one that is missing. -/
def twoFiles : Disk :=
  .ofFiles [("a.js", "/** x */\nvar a = 1;\n"), ("b.js", "/** @detail c.js */\n")]

/-- The document of the first file. -/
def firstDocument : Json :=
  Document.ofFile
    [⟨some (.binding "a" "1;"), "var a = 1;", ⟨"x", "x", []⟩, [], false, false⟩]

/-- The options to write over the first file. -/
def ontoFirst (depth : Int) : Options :=
  { Options.default with raw := true, output := "a.js", depth }

/-- A file is replaced by its own document. With the second file, one level deep, nothing is
written. -/
theorem extract_writes_whole_or_nothing_ownInput :
    (∃ after place, (extract (ontoFirst 0) ["a.js"]).ending (.ofDisk twoFiles false)
        = (.ok (), after) ∧
      after.output = [] ∧
      twoFiles.Wrote after.disk "a.js" ((Encoding.json 0).write firstDocument) place) ∧
    ∃ after, (extract (ontoFirst 1) ["a.js", "b.js"]).ending (.ofDisk twoFiles false)
        = (.error (.unreadable (.wrapped (.cause ⟨.opening, "c.js", .noEntry⟩))), after) ∧
      after.output = [] ∧ after.disk = twoFiles := by
  constructor
  · have hsucceeds : failure? ((extract (ontoFirst 0) ["a.js"]).ending (.ofDisk twoFiles false)).1
        = none := by
      decide +kernel
    have htext : (computed {} Markdown.render (ontoFirst 0) ["a.js"] twoFiles).toOption.map
        (fun c => c.2.2) = some ((Encoding.json 0).write firstDocument) := by
      decide +kernel
    obtain ⟨⟨⟩, hresult⟩ := failure?_eq_none_iff.mp hsucceeds
    obtain ⟨-, -, hsuccess⟩ := extract_writes_whole_or_nothing {} Markdown.render (ontoFirst 0) rfl
      ["a.js"] twoFiles false _ _ rfl
    obtain ⟨job, document, text, hcomputed, -, hwritten⟩ := hsuccess hresult
    rw [hcomputed] at htext
    change some text = _ at htext
    rw [if_neg (by decide), Option.some.inj htext] at hwritten
    obtain ⟨houtput, place, hplace⟩ := hwritten
    exact ⟨_, place, Prod.ext hresult rfl, houtput, hplace⟩
  · have hfails : failure? ((extract (ontoFirst 1) ["a.js", "b.js"]).ending
        (.ofDisk twoFiles false)).1
          = some (.unreadable (.wrapped (.cause ⟨.opening, "c.js", .noEntry⟩))) := by
      decide +kernel
    have hresult := failure?_eq_some_iff.mp hfails
    obtain ⟨-, hfailure, -⟩ := extract_writes_whole_or_nothing {} Markdown.render (ontoFirst 1) rfl
      ["a.js", "b.js"] twoFiles false _ _ rfl
    exact ⟨_, Prod.ext hresult rfl, (hfailure _ hresult nofun).2⟩

end Program

end DocBlock
