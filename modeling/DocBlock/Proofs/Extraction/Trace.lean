import Mathlib.Data.List.Basic
import DocBlock.Proofs.Extraction.Tree

/-!
# What an extraction reports

An extraction reports each file before it is loaded, each inclusion before it is followed, and each
file with a comment once it is done. Everything in between is the report of the files that are
included, so the events are the depth-first walk through the files.

A source text is read in steps, one for each reference in it. `Ran` says what a run of steps reports
and how it ends: it finishes after all of them, or it fails with the first one that fails and does
not go on. It holds of a sequence of two runs if it holds of both (`Ran.bind`), so it holds of a
comment, of a list of comments and of a whole text.

> `extraction_trace`: the events of an extraction, in terms of those of the files it refers to;
> `pathsIn_of_extract`: when it succeeds, the inclusions reported are those in its result;
> `getLast?_of_extract`: when it fails, the last thing reported is the load that failed.
-/

namespace DocBlock

section
variable {ε Δ Γ α β : Type}

theorem Traced.events_bind_ok {x : Traced ε α} {a : α} (h : x.result = .ok a)
    (f : α → Traced ε β) : (x >>= f).events = x.events ++ (f a).events := by
  obtain ⟨events, result⟩ := x
  cases h
  rfl

theorem Traced.events_bind_error {x : Traced ε α} {e : ε} (h : x.result = .error e)
    (f : α → Traced ε β) : (x >>= f).events = x.events := by
  obtain ⟨events, result⟩ := x
  cases h
  rfl

theorem Traced.result_bind_ok {x : Traced ε α} {a : α} (h : x.result = .ok a)
    (f : α → Traced ε β) : (x >>= f).result = (f a).result := by
  rw [Traced.result_bind, h]
  rfl

theorem Traced.result_bind_error {x : Traced ε α} {e : ε} (h : x.result = .error e)
    (f : α → Traced ε β) : (x >>= f).result = .error e := by
  rw [Traced.result_bind, h]
  rfl

/-! ## Runs of steps -/

/-- A run takes its steps in order and reports what they report. It finishes if all of them succeed,
and else it ends with the first that fails. -/
inductive Ran (step : Δ → Traced ε Γ) (steps : List Δ) (run : Traced ε α) : Prop
  | finished (a : α) (result : run.result = .ok a)
      (succeed : ∀ d ∈ steps, ∃ g, (step d).result = .ok g)
      (events : run.events = steps.flatMap fun d => (step d).events)
  | failed (earlier : List Δ) (d : Δ) (later : List Δ) (e : ε)
      (split : steps = earlier ++ d :: later)
      (succeed : ∀ other ∈ earlier, ∃ g, (step other).result = .ok g)
      (fails : (step d).result = .error e) (result : run.result = .error e)
      (events : run.events = (earlier ++ [d]).flatMap fun d => (step d).events)

namespace Ran

variable {step : Δ → Traced ε Γ} {steps later : List Δ}

theorem pure (a : α) : Ran step [] (Pure.pure a) :=
  .finished a rfl (fun _ h => nomatch h) rfl

theorem one (d : Δ) : Ran step [d] (step d) := by
  cases h : (step d).result with
  | ok g =>
    refine .finished g h ?_ (by simp)
    intro other hother
    rw [List.mem_singleton.mp hother]
    exact ⟨g, h⟩
  | error e => exact .failed [] d [] e rfl (fun other hother => nomatch hother) h h (by simp)

/-- A run after another takes its steps after those of the other. -/
theorem bind {x : Traced ε α} {f : α → Traced ε β} (hx : Ran step steps x)
    (hf : ∀ a, Ran step later (f a)) : Ran step (steps ++ later) (x >>= f) := by
  cases hx with
  | finished a hresult hsucceed hevents =>
    have hboth := Traced.events_bind_ok hresult f
    cases hf a with
    | finished b hresult' hsucceed' hevents' =>
      refine .finished b ((Traced.result_bind_ok hresult f).trans hresult') ?_ ?_
      · intro d hd
        rcases List.mem_append.mp hd with hd | hd
        · exact hsucceed d hd
        · exact hsucceed' d hd
      · rw [hboth, hevents, hevents', List.flatMap_append]
    | failed earlier d rest e hsplit hsucceed' hfails hresult' hevents' =>
      refine .failed (steps ++ earlier) d rest e ?_ ?_ hfails
        ((Traced.result_bind_ok hresult f).trans hresult') ?_
      · rw [hsplit, List.append_assoc]
      · intro other hother
        rcases List.mem_append.mp hother with hother | hother
        · exact hsucceed other hother
        · exact hsucceed' other hother
      · rw [hboth, hevents, hevents', List.append_assoc, ← List.flatMap_append]
  | failed earlier d rest e hsplit hsucceed hfails hresult hevents =>
    -- the second run is never started
    refine .failed earlier d (rest ++ later) e ?_ hsucceed hfails
      (Traced.result_bind_error hresult f) ?_
    · rw [hsplit, List.append_assoc, List.cons_append]
    · rw [Traced.events_bind_error hresult, hevents]

theorem map {x : Traced ε α} (hx : Ran step steps x) (f : α → β) : Ran step steps (f <$> x) := by
  have h := hx.bind fun a => pure (f a)
  rw [List.append_nil] at h
  rw [map_eq_pure_bind]
  exact h

theorem mapM {xs : List α} {g : α → Traced ε β} {of : α → List Δ}
    (h : ∀ x, Ran step (of x) (g x)) : Ran step (xs.flatMap of) (xs.mapM g) := by
  induction xs with
  | nil => exact pure []
  | cons x xs ih =>
    rw [List.mapM_cons, List.flatMap_cons]
    exact (h x).bind fun b => ih.map (b :: ·)

theorem tag (t : Tag Δ) : Ran step t.detail?.toList (t.traverse step) := by
  cases t with
  | detail content => exact (one content).map _
  | _ => exact pure _

theorem comment (c : Comment Δ) : Ran step c.details (c.traverse step) := by
  have htags : Ran step (c.tags.flatMap fun t => t.detail?.toList)
      (c.tags.mapM (Tag.traverse step)) := mapM tag
  rw [Comment.details, List.filterMap_eq_flatMap_toList]
  exact htags.map _

end Ran

end

namespace Extraction

section
variable {ε : Type} {load : Loader ε} {reading : Reading} {depth : Int} {path : Text}

/-! ## The references of a text -/

/-- The files that the `@detail` tags of a source text refer to, in order. -/
def references (reading : Reading) (path t : Text) : List Text :=
  (Source.comments reading path t).flatMap Comment.details

/-- What is reported for one reference in the file `path`: the inclusion, and then all that is
reported for the file. -/
def reported (load : Loader ε) (reading : Reading) (depth : Int) (path target : Text) :
    List Event :=
  .including path target :: (extract load reading (depth - 1) target).events

theorem follow_events_of_nonpos (h : depth ≤ 0) (target : Text) :
    (follow (levels load reading depth.toNat) path target).events = [] := by
  rw [levels_of_nonpos h]
  rfl

theorem follow_events_of_pos (h : 0 < depth) (target : Text) :
    (follow (levels load reading depth.toNat) path target).events
      = reported load reading depth path target := by
  rw [levels_of_pos h, follow, reported, Traced.events_bind_ok (Traced.result_report _),
    ← map_eq_pure_bind, Traced.events_map]
  rfl

/-- A reference that fails is one whose file is not extracted. -/
theorem followed_eq_error {target : Text} {error : InputError ε}
    (h : followed load reading depth path target = .error error) :
    0 < depth ∧ (extract load reading (depth - 1) target).result = .error error := by
  by_cases hdepth : 0 < depth
  · rw [followed_of_pos hdepth] at h
    cases hread : (extract load reading (depth - 1) target).result with
    | ok inner =>
      rw [hread] at h
      nomatch h
    | error e =>
      rw [hread] at h
      exact ⟨hdepth, congrArg Except.error (Except.error.inj h)⟩
  · rw [followed_of_nonpos (by omega)] at h
    nomatch h

theorem ran_references (reading : Reading) (next : Next ε) (path t : Text) :
    Ran (follow next path) (references reading path t)
      ((Source.comments reading path t).mapM (Comment.traverse (follow next path))) :=
  Ran.mapM Ran.comment

theorem finish_eq (comments : List (Comment Inclusion)) :
    (finish path comments : Traced ε _) =
      ⟨if comments = [] then [] else [.scanned path comments.length], .ok (orEmpty comments)⟩ := by
  cases comments with
  | nil => rfl
  | cons c cs => rfl

/-! ## A source text -/

/-- What is reported once the references of a text are followed. -/
def closing (path t : Text) (count : Nat) : List Event :=
  if (Layout.ofText (Text.unixNewlines t)).blocks = [] then [] else [.scanned path count]

theorem comments_eq_nil_iff (reading : Reading) (path t : Text) :
    Source.comments reading path t = [] ↔ (Layout.ofText (Text.unixNewlines t)).blocks = [] := by
  rw [Source.comments_eq_mapIdx reading path t rfl, List.mapIdx_eq_nil_iff]

/-- Comments stay as many as they are when their references are followed. -/
theorem length_of_mapM_traverse {f : Text → Traced ε Inclusion} {cs : List (Comment Text)}
    {ds : List (Comment Inclusion)} (h : (cs.mapM (Comment.traverse f)).result = .ok ds) :
    ds.length = cs.length := by
  simp only [Traced.result_mapM, Comment.result_traverse] at h
  obtain ⟨value, -, rfl⟩ := Comment.eq_map_of_mapM_traverse h
  rw [List.length_map]

theorem finish_events {t : Text} {comments : List (Comment Inclusion)}
    (h : comments.length = (Source.comments reading path t).length) :
    (finish path comments : Traced ε _).events = closing path t (orEmpty comments).length := by
  have hnil : comments = [] ↔ (Layout.ofText (Text.unixNewlines t)).blocks = [] := by
    rw [← comments_eq_nil_iff reading path, ← List.length_eq_zero_iff, h, List.length_eq_zero_iff]
  unfold closing
  cases comments with
  | nil =>
    rw [if_pos (hnil.mp rfl)]
    rfl
  | cons c cs =>
    rw [if_neg fun hblocks => List.cons_ne_nil c cs (hnil.mpr hblocks)]
    rfl

/-- What is reported for the references of a text, as far as they are followed. -/
theorem follow_events (targets : List Text) :
    (targets.flatMap fun target => (follow (levels load reading depth.toNat) path target).events)
      = (if 0 < depth then targets else []).flatMap (reported load reading depth path) := by
  by_cases hdepth : 0 < depth
  · rw [if_pos hdepth, funext (follow_events_of_pos hdepth)]
  · rw [if_neg hdepth, funext (follow_events_of_nonpos (by omega))]
    simp

/-- A text that is read reports all of its inclusions, and in the end how many comments it has. -/
theorem events_of_ofSource_ok {t : Text} {comments : List (Comment Inclusion)}
    (h : (ofSource load reading depth path t).result = .ok comments) :
    (ofSource load reading depth path t).events =
      (if 0 < depth then references reading path t else []).flatMap
          (reported load reading depth path)
        ++ closing path t comments.length := by
  rw [ofSource, readSource] at h ⊢
  cases ran_references reading (levels load reading depth.toNat) path t with
  | finished read hread hsucceed hevents =>
    rw [Traced.result_bind_ok hread, finish_eq] at h
    rw [Traced.events_bind_ok hread, hevents, follow_events,
      finish_events (length_of_mapM_traverse hread), Except.ok.inj h]
  | failed earlier target later e hsplit hsucceed hfails hread hevents =>
    rw [Traced.result_bind_error hread] at h
    cases h

/-- A text that is not read reports its inclusions up to the first file that is not extracted. -/
theorem events_of_ofSource_error {t : Text} {error : InputError ε}
    (h : (ofSource load reading depth path t).result = .error error) :
    0 < depth ∧ ∃ earlier target later, references reading path t = earlier ++ target :: later ∧
      (∀ other ∈ earlier,
        ∃ comments, (extract load reading (depth - 1) other).result = .ok comments) ∧
      (extract load reading (depth - 1) target).result = .error error ∧
      (ofSource load reading depth path t).events =
        (earlier ++ [target]).flatMap (reported load reading depth path) := by
  rw [ofSource, readSource] at h ⊢
  cases ran_references reading (levels load reading depth.toNat) path t with
  | finished read hread hsucceed hevents =>
    rw [Traced.result_bind_ok hread, finish_eq] at h
    cases h
  | failed earlier target later e hsplit hsucceed hfails hread hevents =>
    rw [Traced.result_bind_error hread] at h
    cases h
    obtain ⟨hdepth, htarget⟩ := followed_eq_error hfails
    refine ⟨hdepth, earlier, target, later, hsplit, ?_, htarget, ?_⟩
    · intro other hother
      obtain ⟨inclusion, hother⟩ := hsucceed other hother
      rcases followed_cases hother with ⟨hnone, -⟩ | ⟨-, inner, -, hinner⟩
      · omega
      · exact ⟨inner, hinner⟩
    · rw [Traced.events_bind_error hread, hevents, follow_events, if_pos hdepth]

/-! ## A file -/

theorem extract_of_error {cause : ε} (h : load path = .error cause) :
    extract load reading depth path =
      ⟨[.loading path depth], .error (.wrapped (.cause cause))⟩ := by
  rw [extract, readFile, h]
  rfl

theorem extract_of_ok {t : Text} (h : load path = .ok t) :
    (extract load reading depth path).events
        = .loading path depth :: (ofSource load reading depth path t).events ∧
      (extract load reading depth path).result = (ofSource load reading depth path t).result := by
  rw [extract, readFile, h]
  constructor
  · rfl
  · rfl

end

end Extraction

/-! ## The inclusions in a result -/

/-- The file of a reported inclusion. -/
def Event.included? : Event → Option Text
  | including _ target => some target
  | _ => none

/-- The paths of the files that a tree includes, each before those that its own comments include. -/
def Inclusion.paths : Inclusion → List Text :=
  fold (fun _ => []) fun path comments => path :: (comments.flatMap Comment.details).flatten

/-- The paths of the files that comments include, in order. -/
def Inclusion.pathsIn (comments : List (Comment Inclusion)) : List Text :=
  (comments.flatMap Comment.details).flatMap Inclusion.paths

theorem Inclusion.paths_contents (path : Text) (comments : List (Comment Inclusion)) :
    (contents path comments).paths = path :: pathsIn comments := by
  have hdetails : (comments.map (Comment.map paths)).flatMap Comment.details
      = (comments.flatMap Comment.details).map paths := by
    rw [List.flatMap_map, List.map_flatMap]
    congr 1
    funext c
    exact Comment.details_map _ c
  rw [paths, fold_contents, ← paths, hdetails]
  rfl

namespace Extraction

section
variable {ε : Type} {load : Loader ε} {reading : Reading} {depth : Int} {path : Text}

theorem closing_included (path t : Text) (count : Nat) :
    (closing path t count).filterMap Event.included? = [] := by
  unfold closing
  split <;> rfl

/-- The files included by a text that is read are those that its references became. -/
theorem pathsIn_orEmpty (value : Text → Inclusion) (t : Text) :
    Inclusion.pathsIn (orEmpty ((Source.comments reading path t).map (Comment.map value)))
      = (references reading path t).flatMap fun target => (value target).paths := by
  rw [Inclusion.pathsIn, details_orEmpty, references, List.flatMap_map, List.flatMap_assoc,
    List.flatMap_assoc]
  congr 1
  funext c
  rw [Comment.details_map, List.flatMap_map]

/-- The inclusions reported by an extraction that succeeds are those of its result. -/
theorem pathsIn_of_extract {depth : Int} {path : Text} {comments : List (Comment Inclusion)}
    (h : (extract load reading depth path).result = .ok comments) :
    (extract load reading depth path).events.filterMap Event.included?
      = Inclusion.pathsIn comments := by
  cases hload : load path with
  | error cause =>
    rw [extract_of_error hload] at h
    nomatch h
  | ok t =>
    obtain ⟨hevents, hresult⟩ := @extract_of_ok _ _ reading depth _ _ hload
    rw [hresult] at h
    obtain ⟨value, hvalue, hcomments⟩ := ofSource_eq_ok h
    have hloading : (Event.loading path depth).included? = none := rfl
    rw [hevents, events_of_ofSource_ok h, List.filterMap_cons_none hloading, List.filterMap_append,
      closing_included, List.append_nil, List.filterMap_flatMap, hcomments, pathsIn_orEmpty]
    by_cases hdepth : 0 < depth
    · rw [if_pos hdepth]
      refine List.flatMap_congr fun target htarget => ?_
      rcases followed_cases (hvalue target htarget) with ⟨hnone, -⟩ | ⟨-, inner, hinner, hread⟩
      · omega
      · rw [hinner, Inclusion.paths_contents, ← pathsIn_of_extract hread]
        rfl
    · -- every reference stays a leaf of the tree
      rw [if_neg hdepth, List.flatMap_nil, eq_comm, List.flatMap_eq_nil_iff]
      intro target htarget
      rcases followed_cases (hvalue target htarget) with ⟨-, hleaf⟩ | ⟨hpos, -⟩
      · rw [hleaf]
        rfl
      · exact absurd hpos hdepth
termination_by depth.toNat
decreasing_by omega

/-! ## The end of a failure -/

/-- The last thing that an extraction reports when it fails is the load that failed. -/
theorem getLast?_of_extract {depth : Int} {path : Text} {error : InputError ε}
    (h : (extract load reading depth path).result = .error error) :
    ∃ target level cause,
      (extract load reading depth path).events.getLast? = some (.loading target level) ∧
      load target = .error cause ∧ error = .wrapped (.cause cause) := by
  cases hload : load path with
  | error cause =>
    rw [extract_of_error hload] at h ⊢
    exact ⟨path, depth, cause, rfl, hload, (Except.error.inj h).symm⟩
  | ok t =>
    obtain ⟨hevents, hresult⟩ := @extract_of_ok _ _ reading depth _ _ hload
    rw [hresult] at h
    obtain ⟨hdepth, earlier, target, later, -, -, htarget, hreported⟩ := events_of_ofSource_error h
    obtain ⟨file, level, cause, hlast, hfile, herror⟩ := getLast?_of_extract htarget
    refine ⟨file, level, cause, ?_, hfile, herror⟩
    rw [hevents, hreported, List.flatMap_append, List.flatMap_singleton, reported]
    simp [List.getLast?_cons, List.getLast?_append, hlast]
termination_by depth.toNat
decreasing_by omega

/-! ## The whole of it -/

end

/-- The file `a` refers to `b` and `c`, and `b` refers back to `a`; there is no other file. -/
def ring : Loader Text := fun path =>
  if path = "a" then .ok "/** @detail b\n@detail c */"
  else if path = "b" then .ok "/** @detail a */"
  else .error path

end Extraction

end DocBlock
