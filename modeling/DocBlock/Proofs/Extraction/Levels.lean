import DocBlock.Proofs.Extraction.Details

/-!
# Extraction, one level at a time

What an extraction gives depends on the levels below only through one function: what becomes of a
reference (`followed`). Without a level left a reference stays as it is (`followed_of_nonpos`); with
one left it becomes the comments of its file, extracted with one level less (`followed_of_pos`).

The results of the four entry points are written with this function, in `Except`, and two facts
about a source text are drawn from that:

> `ofSource_eq_ok`: if it is read, every reference in it has a value, and the comments are those of
> the text with the values put in;
> `failure?_ofSource`: else it fails as the first reference does that has none.
-/

namespace DocBlock

instance : Inhabited Inclusion := ⟨.reference []⟩

namespace Extraction

section
variable {ε : Type} {load : Loader ε} {reading : Reading} {depth : Int} {path : Text}

/-- What becomes of a reference in the file `path`. -/
def followed (load : Loader ε) (reading : Reading) (depth : Int) (path target : Text) :
    Except (InputError ε) Inclusion :=
  (follow (levels load reading depth.toNat) path target).result

theorem levels_of_nonpos (h : depth ≤ 0) : levels load reading depth.toNat = none := by
  rw [Int.toNat_of_nonpos h]
  rfl

theorem levels_of_pos (h : 1 ≤ depth) :
    levels load reading depth.toNat = some (extract load reading (depth - 1)) := by
  -- The level is reported as an integer and counted as a number; both go down by one.
  obtain ⟨n, rfl⟩ : ∃ n : Nat, depth = n + 1 := ⟨(depth - 1).toNat, by omega⟩
  have hn : ((n : Int) + 1).toNat = n + 1 := by omega
  have hn' : ((n : Int) + 1 - 1) = n := by omega
  rw [hn, hn', levels]
  rfl

theorem followed_of_nonpos (h : depth ≤ 0) (target : Text) :
    followed load reading depth path target = .ok (.reference target) := by
  rw [followed, levels_of_nonpos h]
  rfl

theorem followed_of_pos (h : 1 ≤ depth) (target : Text) :
    followed load reading depth path target =
      Inclusion.contents target <$> (extract load reading (depth - 1) target).result := by
  rw [followed, levels_of_pos h, follow]
  simp only [Traced.result_bind, Traced.result_report, map_eq_pure_bind]
  rfl

/-- A list of comments, or the one empty comment when there are none. -/
def orEmpty (comments : List (Comment Inclusion)) : List (Comment Inclusion) :=
  match comments with
  | [] => [Comment.empty]
  | c :: cs => c :: cs

theorem orEmpty_of_ne_nil {comments : List (Comment Inclusion)} (h : comments ≠ []) :
    orEmpty comments = comments := by
  cases comments with
  | nil => exact absurd rfl h
  | cons c cs => rfl

theorem result_ofSource (t : Text) :
    (ofSource load reading depth path t).result = orEmpty <$>
      (Source.comments reading path t).mapM
        (Comment.traverse (followed load reading depth path)) := by
  rw [ofSource, readSource, Traced.result_bind, Traced.result_mapM]
  simp only [Comment.result_traverse]
  rw [map_eq_pure_bind]
  congr 1
  funext comments
  cases comments with
  | nil => rfl
  | cons c cs => rfl

theorem result_extract :
    (extract load reading depth path).result =
      ((load path).mapError fun error => InputError.wrapped (.cause error)) >>= fun t =>
        (ofSource load reading depth path t).result := by
  rw [extract, readFile, Traced.result_bind, Traced.result_bind]
  rfl

theorem result_ofBody (body : Text) :
    (ofBody load reading depth path body).result =
      (Comment.ofBody reading path body).traverse (followed load reading depth path) :=
  Comment.result_traverse _ _

theorem result_ofTagText (line : Text) :
    (ofTagText load reading depth path line).result =
      (Tag.ofText reading.render path line).traverse (followed load reading depth path) :=
  Tag.result_traverse _ _

/-! ## A source text -/

/-- A source text that is read has a value for every reference in it. -/
theorem ofSource_eq_ok {t : Text} {comments : List (Comment Inclusion)}
    (h : (ofSource load reading depth path t).result = .ok comments) :
    ∃ value : Text → Inclusion,
      (∀ target ∈ (Source.comments reading path t).flatMap Comment.details,
        followed load reading depth path target = .ok (value target)) ∧
      comments = orEmpty ((Source.comments reading path t).map (Comment.map value)) := by
  rw [result_ofSource] at h
  cases hread : (Source.comments reading path t).mapM
      (Comment.traverse (followed load reading depth path)) with
  | error e =>
    rw [hread] at h
    nomatch h
  | ok read =>
    rw [hread] at h
    obtain ⟨value, hvalue, rfl⟩ := Comment.eq_map_of_mapM_traverse hread
    exact ⟨value, hvalue, (Except.ok.inj h).symm⟩

/-- Without a level left, every reference stays as it is. -/
theorem result_ofSource_of_nonpos (h : depth ≤ 0) (t : Text) :
    (ofSource load reading depth path t).result =
      .ok (orEmpty ((Source.comments reading path t).map (Comment.map .reference))) := by
  rw [result_ofSource, Comment.mapM_traverse_eq_ok fun target _ => followed_of_nonpos h target]
  rfl

theorem details_orEmpty (comments : List (Comment Inclusion)) :
    (orEmpty comments).flatMap Comment.details = comments.flatMap Comment.details := by
  cases comments with
  | nil => rfl
  | cons c cs => rfl

/-- The references of plain comments are those of the text. -/
theorem details_plain (comments : List (Comment Text)) :
    (orEmpty (comments.map (Comment.map .reference))).flatMap Comment.details
      = (comments.flatMap Comment.details).map .reference := by
  rw [details_orEmpty, List.flatMap_map, List.map_flatMap]
  congr 1
  funext c
  exact Comment.details_map _ c

/-- A source text fails as the first reference in it does that has no value. -/
theorem failure?_ofSource (t : Text) :
    failure? (ofSource load reading depth path t).result =
      ((Source.comments reading path t).flatMap Comment.details).findSome? fun target =>
        failure? (followed load reading depth path target) := by
  rw [result_ofSource, failure?_map]
  exact Comment.failure?_mapM_traverse _ _

end

end Extraction

end DocBlock
