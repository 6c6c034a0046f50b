import DocBlock.Proofs.Extraction.Levels

/-!
# How an extraction fails

The files that an extraction reads are known beforehand: `demanded` lists them in the order in which
they are read, each file before those it refers to. The extraction fails exactly when one of these
loads fails, and its failure is that of the first one:

> `failure?_extract`: the failure of an extraction is the first failure among its demanded loads,
> wrapped once.

So no level adds to the failure of a level below. Without a level of inclusion nothing is demanded
but the file itself, and reading a text, a comment or a tag needs no load at all (`NeedsNoLoad`).
-/

namespace DocBlock.Extraction

section
variable {ε : Type} {load : Loader ε} {reading : Reading} {depth : Int} {path : Text}

/-! ## The first failing load -/

theorem result_extract_toNat :
    (extract load reading depth path).result = (extract load reading depth.toNat path).result := by
  rw [result_extract, result_extract]
  rfl

/-- The failure of an extraction is the first failure among its demanded loads, wrapped once. -/
theorem failure?_extract (levels : Nat) (path : Text) :
    failure? (extract load reading levels path).result =
      ((demanded load reading levels path).findSome? fun target => failure? (load target)).map
        fun error => .wrapped (.cause error) := by
  induction levels generalizing path with
  | zero =>
    -- Only the file itself is loaded.
    rw [result_extract, demanded, List.findSome?_singleton]
    cases hload : load path with
    | error e => rfl
    | ok t =>
      show failure? (ofSource load reading 0 path t).result = none
      rw [result_ofSource_of_nonpos (Int.le_refl 0)]
      rfl
  | succ levels ih =>
    rw [result_extract]
    cases hload : load path with
    | error e =>
      simp only [demanded, hload, List.findSome?_singleton]
      rfl
    | ok t =>
      simp only [demanded, hload, List.findSome?_cons, failure?_ok]
      show failure? (ofSource load reading (levels + 1 : Nat) path t).result = _
      rw [failure?_ofSource]
      generalize (Source.comments reading path t).flatMap Comment.details = references
      rw [findSome?_flatMap, List.map_findSome?]
      congr 1
      funext target
      -- What fails below is wrapped already, and following the reference passes it on as it is.
      have hlevel : ((levels + 1 : Nat) : Int) - 1 = levels := by omega
      rw [followed_of_pos (by omega), failure?_map, hlevel, ih target]
      rfl

/-- An extraction fails with a failure exactly when it is the first one among its demanded loads,
wrapped once. -/
theorem extract_eq_error_iff {error : InputError ε} :
    (extract load reading depth path).result = .error error ↔
      ∃ earlier target later cause,
        demanded load reading depth.toNat path = earlier ++ target :: later ∧
        (∀ other ∈ earlier, ∃ t, load other = .ok t) ∧
        load target = .error cause ∧ error = .wrapped (.cause cause) := by
  rw [← failure?_eq_some_iff, result_extract_toNat, failure?_extract, Option.map_eq_some_iff]
  constructor
  · intro h
    obtain ⟨cause, hfirst, rfl⟩ := h
    obtain ⟨earlier, target, later, hsplit, htarget, hearlier⟩ :=
      List.findSome?_eq_some_iff.mp hfirst
    exact ⟨earlier, target, later, cause, hsplit,
      fun other hother => failure?_eq_none_iff.mp (hearlier other hother),
      failure?_eq_some_iff.mp htarget, rfl⟩
  · intro h
    obtain ⟨earlier, target, later, cause, hsplit, hearlier, htarget, rfl⟩ := h
    refine ⟨cause, List.findSome?_eq_some_iff.mpr ⟨earlier, target, later, hsplit, ?_, ?_⟩, rfl⟩
    · exact failure?_eq_some_iff.mpr htarget
    · exact fun other hother => failure?_eq_none_iff.mpr (hearlier other hother)

/-- An extraction fails exactly when one of its demanded loads does. -/
theorem extract_fails_iff :
    (∃ error, (extract load reading depth path).result = .error error) ↔
      ∃ target ∈ demanded load reading depth.toNat path, ∃ cause, load target = .error cause := by
  constructor
  · intro h
    obtain ⟨error, herror⟩ := h
    obtain ⟨earlier, target, later, cause, hsplit, -, htarget, -⟩ := extract_eq_error_iff.mp herror
    refine ⟨target, ?_, cause, htarget⟩
    rw [hsplit]
    exact List.mem_append_right _ (List.mem_cons_self ..)
  · intro h
    obtain ⟨target, hmem, cause, htarget⟩ := h
    cases hread : (extract load reading depth path).result with
    | error error => exact ⟨error, rfl⟩
    | ok comments =>
      -- no demanded load would fail then
      have hnone := @failure?_extract ε load reading depth.toNat path
      rw [← result_extract_toNat, hread, failure?_ok, eq_comm, Option.map_eq_none_iff,
        List.findSome?_eq_none_iff] at hnone
      have hok := hnone target hmem
      rw [htarget] at hok
      nomatch hok

/-! ## The demanded loads -/

/-- What a file demands is itself and then what its references demand, in the order of the plain
comments, with one level less. -/
theorem demanded_of_pos (h : 1 ≤ depth) {t : Text} (hload : load path = .ok t) :
    ∃ plain, (ofSource load reading 0 path t).result = .ok plain ∧
      demanded load reading depth.toNat path =
        path :: (plain.flatMap Comment.details).flatMap fun inclusion =>
          demanded load reading (depth - 1).toNat inclusion.path := by
  refine ⟨_, result_ofSource_of_nonpos (Int.le_refl 0) t, ?_⟩
  obtain ⟨levels, hlevels⟩ : ∃ levels, depth.toNat = levels + 1 := ⟨depth.toNat - 1, by omega⟩
  have hbelow : (depth - 1).toNat = levels := by omega
  rw [hlevels, hbelow, details_plain, List.flatMap_map]
  simp only [demanded, hload]
  rfl

theorem demanded_of_nonpos (h : depth ≤ 0) : demanded load reading depth.toNat path = [path] := by
  rw [Int.toNat_of_nonpos h]
  rfl

theorem demanded_of_error {cause : ε} (hload : load path = .error cause) :
    demanded load reading depth.toNat path = [path] := by
  unfold demanded
  split
  next => rfl
  next => simp only [hload]

/-! ## Nothing to load -/

/-- A run ends well and reports no load, and it is the same run for every loader. -/
def NeedsNoLoad {α : Type} (run : Loader ε → Traced (InputError ε) α) : Prop :=
  ∃ events value, (∀ load, run load = ⟨events, .ok value⟩) ∧
    ∀ target level, Event.loading target level ∉ events

theorem follow_of_nonpos (h : depth ≤ 0) :
    follow (levels load reading depth.toNat) path = fun target => pure (.reference target) := by
  rw [levels_of_nonpos h]
  rfl

theorem ofTagText_needsNoLoad (h : depth ≤ 0) (line : Text) :
    NeedsNoLoad fun load : Loader ε => ofTagText load reading depth path line := by
  refine ⟨[], (Tag.ofText reading.render path line).map .reference, fun load => ?_, by simp⟩
  show ofTagText load reading depth path line = _
  rw [ofTagText, follow_of_nonpos h, Tag.traverse_pure]
  rfl

theorem ofBody_needsNoLoad (h : depth ≤ 0) (body : Text) :
    NeedsNoLoad fun load : Loader ε => ofBody load reading depth path body := by
  refine ⟨[], (Comment.ofBody reading path body).map .reference, fun load => ?_, by simp⟩
  show ofBody load reading depth path body = _
  rw [ofBody, follow_of_nonpos h, Comment.traverse_pure]
  rfl

theorem finish_needsNoLoad (comments : List (Comment Inclusion)) :
    NeedsNoLoad fun _ : Loader ε => finish path comments := by
  cases comments with
  | nil => exact ⟨[], [Comment.empty], fun _ => rfl, by simp⟩
  | cons c cs =>
    exact ⟨[.scanned path (cs.length + 1)], c :: cs, fun _ => rfl, by simp⟩

theorem ofSource_needsNoLoad (h : depth ≤ 0) (t : Text) :
    NeedsNoLoad fun load : Loader ε => ofSource load reading depth path t := by
  have hfinish : ∀ load : Loader ε, ofSource load reading depth path t =
      finish path ((Source.comments reading path t).map (Comment.map .reference)) := by
    intro load
    rw [ofSource, readSource, follow_of_nonpos h, funext (Comment.traverse_pure Inclusion.reference),
      List.mapM_pure, pure_bind]
  rw [funext hfinish]
  exact finish_needsNoLoad _

/-! ## The whole of it -/

/-- An extraction fails exactly when a demanded load fails, with the failure of the first one
wrapped once; without a level of inclusion, tags, comments and texts never fail and load
nothing. -/
theorem extraction_failure (load : Loader ε) (reading : Reading) (depth : Int) (path : Text) :
    ((∃ error, (extract load reading depth path).result = .error error) ↔
      ∃ target ∈ demanded load reading depth.toNat path, ∃ cause, load target = .error cause) ∧
    (∀ error, (extract load reading depth path).result = .error error ↔
      ∃ earlier target later cause,
        demanded load reading depth.toNat path = earlier ++ target :: later ∧
        (∀ other ∈ earlier, ∃ t, load other = .ok t) ∧
        load target = .error cause ∧ error = .wrapped (.cause cause)) ∧
    (∀ t, 1 ≤ depth → load path = .ok t →
      ∃ plain, (ofSource load reading 0 path t).result = .ok plain ∧
        demanded load reading depth.toNat path =
          path :: (plain.flatMap Comment.details).flatMap fun inclusion =>
            demanded load reading (depth - 1).toNat inclusion.path) ∧
    (depth ≤ 0 ∨ (∃ cause, load path = .error cause) →
      demanded load reading depth.toNat path = [path]) ∧
    (depth ≤ 0 →
      (∀ line, NeedsNoLoad fun other : Loader ε => ofTagText other reading depth path line) ∧
      (∀ body, NeedsNoLoad fun other : Loader ε => ofBody other reading depth path body) ∧
      ∀ t, NeedsNoLoad fun other : Loader ε => ofSource other reading depth path t) := by
  refine ⟨extract_fails_iff, fun error => extract_eq_error_iff, ?_, ?_, ?_⟩
  · exact fun t h hload => demanded_of_pos h hload
  · intro h
    rcases h with h | ⟨cause, hload⟩
    · exact demanded_of_nonpos h
    · exact demanded_of_error hload
  · intro h
    exact ⟨ofTagText_needsNoLoad h, ofBody_needsNoLoad h, ofSource_needsNoLoad h⟩

end

/-- The file `a` refers to `b` and `c`, and `b` refers to `d`; there is no other file. -/
def twoFiles : Loader Text := fun path =>
  if path = "a" then .ok "/** @detail b\n@detail c */"
  else if path = "b" then .ok "/** @detail d */"
  else .error path

/-- The missing file `d`, two levels deep, comes before the missing file `c`. -/
theorem extraction_failure_twoFiles :
    (extract twoFiles ⟨false, id⟩ 2 "a").result = .error (.wrapped (.cause "d")) := by
  refine ((extraction_failure twoFiles ⟨false, id⟩ 2 "a").2.1 _).mpr
    ⟨["a", "b"], "d", ["c"], "d", by decide +kernel, ?_, rfl, rfl⟩
  intro other hother
  rcases hother with _ | ⟨_, _ | ⟨_, hnone⟩⟩
  · exact ⟨_, rfl⟩
  · exact ⟨_, rfl⟩
  · cases hnone

end DocBlock.Extraction
