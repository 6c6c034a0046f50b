import DocBlock.Proofs.Extraction.Levels

/-!
# Inclusion is inlining

An extraction that follows references is the one that follows none, with the comments of the file
put in the place of every reference. Those comments are an extraction with one level less, so files
that include each other are inlined as often as there are levels.

> `extraction_isInlined`: what is extracted with `depth` levels is what is extracted with none,
> inlined with what is extracted with `depth - 1` levels.
-/

namespace DocBlock.Extraction

section
variable {ε : Type} {load : Loader ε} {reading : Reading} {depth : Int} {path : Text}

/-- Replace every reference by the comments that `fetch` gives for its file. -/
def inlined (fetch : Text → List (Comment Inclusion)) (plain : List (Comment Inclusion)) :
    List (Comment Inclusion) :=
  plain.map (Comment.map fun inclusion => .contents inclusion.path (fetch inclusion.path))

/-- The comments are the plain ones, in which no file is included, with the comments of its file in
the place of every reference, extracted with one level less. -/
def IsInlined (load : Loader ε) (reading : Reading) (depth : Int)
    (plain comments : List (Comment Inclusion)) : Prop :=
  ∃ fetch : Text → List (Comment Inclusion),
    (∀ inclusion ∈ plain.flatMap Comment.details,
      inclusion = .reference inclusion.path ∧
        (extract load reading (depth - 1) inclusion.path).result = .ok (fetch inclusion.path)) ∧
    comments = inlined fetch plain

theorem map_orEmpty (f : Inclusion → Inclusion) (comments : List (Comment Inclusion)) :
    (orEmpty comments).map (Comment.map f) = orEmpty (comments.map (Comment.map f)) := by
  cases comments with
  | nil => rfl
  | cons c cs => rfl

theorem inlined_plain (fetch : Text → List (Comment Inclusion)) (comments : List (Comment Text)) :
    inlined fetch (orEmpty (comments.map (Comment.map .reference)))
      = orEmpty (comments.map (Comment.map fun target => .contents target (fetch target))) := by
  rw [inlined, map_orEmpty, List.map_map]
  congr 2
  funext c
  exact Comment.map_map _ _ c

/-- A source text that is read has the comments of every file it refers to. -/
theorem exists_fetch (h : 1 ≤ depth) {t : Text} {comments : List (Comment Inclusion)}
    (hread : (ofSource load reading depth path t).result = .ok comments) :
    ∃ fetch : Text → List (Comment Inclusion),
      ∀ target ∈ (Source.comments reading path t).flatMap Comment.details,
        (extract load reading (depth - 1) target).result = .ok (fetch target) := by
  obtain ⟨value, hvalue, -⟩ := ofSource_eq_ok hread
  refine ⟨fun target => (extract load reading (depth - 1) target).result.toOption.getD [], ?_⟩
  intro target htarget
  -- A reference with a value was followed, so its file was extracted.
  have hfollowed := hvalue target htarget
  rw [followed_of_pos h] at hfollowed
  cases hfile : (extract load reading (depth - 1) target).result with
  | error e =>
    rw [hfile] at hfollowed
    nomatch hfollowed
  | ok included =>
    show Except.ok included
      = .ok ((extract load reading (depth - 1) target).result.toOption.getD [])
    rw [hfile]
    rfl

theorem ofSource_inlines (h : 1 ≤ depth) {t : Text} {comments : List (Comment Inclusion)}
    (hread : (ofSource load reading depth path t).result = .ok comments) :
    ∃ plain, (ofSource load reading 0 path t).result = .ok plain ∧
      IsInlined load reading depth plain comments := by
  obtain ⟨fetch, hfetch⟩ := exists_fetch h hread
  refine ⟨_, result_ofSource_of_nonpos (Int.le_refl 0) t, fetch, ?_, ?_⟩
  · -- without levels every reference of the text is still there, and no other
    intro inclusion hinclusion
    rw [details_plain] at hinclusion
    obtain ⟨target, htarget, rfl⟩ := List.mem_map.mp hinclusion
    exact ⟨rfl, hfetch target htarget⟩
  · have hfollowed : ∀ target ∈ (Source.comments reading path t).flatMap Comment.details,
        followed load reading depth path target = .ok (.contents target (fetch target)) := by
      intro target htarget
      rw [followed_of_pos h, hfetch target htarget]
      rfl
    rw [result_ofSource, Comment.mapM_traverse_eq_ok hfollowed] at hread
    rw [inlined_plain]
    exact (Except.ok.inj hread).symm

theorem extract_inlines (h : 1 ≤ depth) {comments : List (Comment Inclusion)}
    (hread : (extract load reading depth path).result = .ok comments) :
    ∃ plain, (extract load reading 0 path).result = .ok plain ∧
      IsInlined load reading depth plain comments := by
  rw [result_extract] at hread ⊢
  cases hload : load path with
  | error e =>
    rw [hload] at hread
    nomatch hread
  | ok t =>
    rw [hload] at hread
    exact ofSource_inlines h hread

/-- A file, and a source text, that are read with `depth` levels of inclusion give the same comments
as without any, inlined with what its references give with one level less. -/
theorem extraction_isInlined (load : Loader ε) (reading : Reading) (depth : Int) (path : Text)
    (h : 1 ≤ depth) :
    (∀ comments, (extract load reading depth path).result = .ok comments →
      ∃ plain, (extract load reading 0 path).result = .ok plain ∧
        IsInlined load reading depth plain comments) ∧
    ∀ t comments, (ofSource load reading depth path t).result = .ok comments →
      ∃ plain, (ofSource load reading 0 path t).result = .ok plain ∧
        IsInlined load reading depth plain comments :=
  ⟨fun _ hread => extract_inlines h hread, fun _ _ hread => ofSource_inlines h hread⟩

end

/-- Every file refers to the file `a`. -/
def selfReferring : Loader Unit := fun _ => .ok "/** @detail a */"

/-- A file that refers to itself is inlined into itself, here twice. -/
theorem extraction_isInlined_selfReferring :
    ∃ comments, (extract selfReferring ⟨false, id⟩ 2 "a").result = .ok comments ∧
      (comments.flatMap Comment.details).map Inclusion.path = [("a" : Text)] ∧
      ∃ plain, (extract selfReferring ⟨false, id⟩ 0 "a").result = .ok plain ∧
        IsInlined selfReferring ⟨false, id⟩ 2 plain comments := by
  have hread : (extract selfReferring ⟨false, id⟩ 2 "a").result.toOption.map
      (fun comments => (comments.flatMap Comment.details).map Inclusion.path)
        = some [("a" : Text)] := by
    decide +kernel
  cases hresult : (extract selfReferring ⟨false, id⟩ 2 "a").result with
  | error e =>
    rw [hresult] at hread
    cases hread
  | ok comments =>
    rw [hresult] at hread
    refine ⟨comments, rfl, Option.some.inj hread, ?_⟩
    exact (extraction_isInlined selfReferring ⟨false, id⟩ 2 "a" (by decide)).1 comments hresult

end DocBlock.Extraction
