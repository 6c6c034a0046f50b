import DocBlock.Proofs.Extraction.Levels
import DocBlock.Proofs.Source.Comments
import DocBlock.Proofs.Tag
import DocBlock.Proofs.Text.Trim

/-!
# Well-formed results

The result of an extraction is a tree: a list of comments, and in the place of every reference that
was followed another such list. `ListAt` gives the lists by their level in the tree. Each of them is
what some source text gives with the levels that are left there (`ListAt.isExtracted`), so whatever
holds of the comments of one text holds at every level:

> `ofSource_wellFormed`: no list is empty, the parts of every comment agree with each other
> (`Comment.WellFormed`), and references are followed exactly at the levels less than the depth.
-/

namespace DocBlock

namespace Tag

variable {Δ Γ : Type}

theorem name_map (f : Δ → Γ) (t : Tag Δ) : (t.map f).name = t.name := by
  cases t <;> rfl

theorem kind_map (f : Δ → Γ) (t : Tag Δ) : (t.map f).kind = t.kind := by
  cases t <;> rfl

end Tag

/-! ## One comment -/

/-- A comment whose parts agree with each other. -/
structure Comment.WellFormed {Δ : Type} (c : Comment Δ) : Prop where
  /-- The code is empty, or it is not blank and has no white space at its ends. -/
  code : c.code = [] ∨ (Text.isBlank c.code = false ∧ Text.trim c.code = c.code)
  /-- Nothing is declared without code. -/
  code_of_declaration : c.declaration ≠ none → c.code ≠ []
  /-- What is declared is what the code declares. -/
  declaration : c.declaration = Declaration.infer? c.code
  /-- A comment is private when one of its own tags says so. -/
  isPrivate : c.isPrivate = true ↔ .api "private" ∈ c.tags
  /-- Every tag is of the kind that its name selects. -/
  kind : ∀ tag ∈ c.tags, tag.kind = .ofName tag.name
  /-- Only a name without a grammar of its own gives a tag that keeps its words. -/
  other : ∀ tag ∈ c.tags, tag.kind = .other ↔ tag.name ∉ Tag.names

namespace Comment

theorem wellFormed_empty {Δ : Type} : (empty : Comment Δ).WellFormed where
  code := Or.inl rfl
  code_of_declaration := fun h => absurd rfl h
  declaration := rfl
  isPrivate := by simp [empty]
  kind := fun tag htag => nomatch htag
  other := fun tag htag => nomatch htag

/-- A comment with code and tags that were read is well-formed. -/
theorem wellFormed_withCode {Γ : Type} {c : Comment Text} {lines : List Text}
    {render : Text → Text} {path : Text} (htags : c.tags = lines.map (Tag.ofText render path))
    (hprivate : c.isPrivate = c.tags.any Tag.hides) (code : Text) (f : Text → Γ) :
    ((c.withCode code).map f).WellFormed := by
  have hkind : ∀ tag ∈ c.tags.map (Tag.map f), tag.kind = .ofName tag.name := by
    intro tag htag
    obtain ⟨read, hread, rfl⟩ := List.mem_map.mp htag
    rw [htags] at hread
    obtain ⟨line, -, rfl⟩ := List.mem_map.mp hread
    obtain ⟨hname, hkind⟩ := Tag.ofLine_kind render path (Tag.Line.ofText line)
    rw [Tag.kind_map, Tag.name_map, Tag.ofText, hname, hkind]
  refine ⟨?_, ?_, rfl, ?_, hkind, ?_⟩
  · show Text.trim code = [] ∨ _
    by_cases hblank : Text.trim code = []
    · exact Or.inl hblank
    · exact Or.inr ⟨Text.isBlank_trim hblank, Text.trim_trim code⟩
  · -- no code declares nothing
    intro hdeclared hnone
    refine hdeclared ?_
    show Declaration.infer? (Text.trim code) = none
    rw [show Text.trim code = [] from hnone]
    rfl
  · show c.isPrivate = true ↔ _
    rw [hprivate]
    exact Tag.any_hides_iff_mem_map f c.tags
  · intro tag htag
    rw [hkind tag htag]
    exact Tag.Kind.ofName_eq_other_iff

end Comment

theorem Source.mem_comments {reading : Reading} {path t : Text} {c : Comment Text}
    (h : c ∈ comments reading path t) : ∃ block code, c = commentWith reading path block code := by
  obtain ⟨i, hi⟩ := List.mem_iff_getElem?.mp h
  rw [comments_getElem? reading path t rfl, Option.map_eq_some_iff] at hi
  obtain ⟨block, -, hblock⟩ := hi
  exact ⟨block, _, hblock.symm⟩

/-- The comments of a source text are well-formed, whatever stands in the place of their
references. -/
theorem Source.wellFormed_of_mem_comments {Γ : Type} {reading : Reading} {path t : Text}
    {c : Comment Text} (h : c ∈ comments reading path t) (f : Text → Γ) : (c.map f).WellFormed := by
  obtain ⟨block, code, rfl⟩ := mem_comments h
  exact Comment.wellFormed_withCode rfl rfl code f

/-! ## One level -/

/-- Whether a file is included. -/
def Inclusion.isIncluded : Inclusion → Bool
  | reference _ => false
  | contents _ _ => true

namespace Extraction

section
variable {ε : Type} {load : Loader ε} {reading : Reading} {depth : Int} {path : Text}

theorem ne_nil_of_ofSource {t : Text} {comments : List (Comment Inclusion)}
    (h : (ofSource load reading depth path t).result = .ok comments) : comments ≠ [] := by
  obtain ⟨value, -, rfl⟩ := ofSource_eq_ok h
  unfold orEmpty
  split <;> exact List.cons_ne_nil _ _

theorem wellFormed_of_ofSource {t : Text} {comments : List (Comment Inclusion)}
    (h : (ofSource load reading depth path t).result = .ok comments) {c : Comment Inclusion}
    (hc : c ∈ comments) : c.WellFormed := by
  obtain ⟨value, -, rfl⟩ := ofSource_eq_ok h
  by_cases hnil : (Source.comments reading path t).map (Comment.map value) = []
  · rw [hnil] at hc
    rw [List.mem_singleton.mp hc]
    exact Comment.wellFormed_empty
  · rw [orEmpty_of_ne_nil hnil] at hc
    obtain ⟨plain, hplain, rfl⟩ := List.mem_map.mp hc
    exact Source.wellFormed_of_mem_comments hplain value

/-- Whatever stands in the place of a reference is what became of it. -/
theorem followed_of_mem_details {t : Text} {comments : List (Comment Inclusion)}
    (h : (ofSource load reading depth path t).result = .ok comments) {c : Comment Inclusion}
    (hc : c ∈ comments) {inclusion : Inclusion} (hinclusion : inclusion ∈ c.details) :
    ∃ target, followed load reading depth path target = .ok inclusion := by
  obtain ⟨value, hvalue, rfl⟩ := ofSource_eq_ok h
  have hmem := List.mem_flatMap.mpr ⟨c, hc, hinclusion⟩
  rw [details_orEmpty, List.flatMap_map, List.mem_flatMap] at hmem
  obtain ⟨plain, hplain, hdetail⟩ := hmem
  rw [Comment.details_map, List.mem_map] at hdetail
  obtain ⟨target, htarget, rfl⟩ := hdetail
  exact ⟨target, hvalue target (List.mem_flatMap.mpr ⟨plain, hplain, htarget⟩)⟩

/-- What can become of a reference: it stays, or a file is read with one level less. -/
theorem followed_cases {target : Text} {inclusion : Inclusion}
    (h : followed load reading depth path target = .ok inclusion) :
    (depth ≤ 0 ∧ inclusion = .reference target) ∨
      (0 < depth ∧ ∃ inner, inclusion = .contents target inner ∧
        (extract load reading (depth - 1) target).result = .ok inner) := by
  by_cases hdepth : depth ≤ 0
  · rw [followed_of_nonpos hdepth] at h
    exact Or.inl ⟨hdepth, (Except.ok.inj h).symm⟩
  · rw [followed_of_pos (by omega)] at h
    cases hread : (extract load reading (depth - 1) target).result with
    | error e =>
      rw [hread] at h
      nomatch h
    | ok inner =>
      rw [hread] at h
      exact Or.inr ⟨by omega, inner, (Except.ok.inj h).symm, rfl⟩

theorem isIncluded_of_followed {target : Text} {inclusion : Inclusion}
    (h : followed load reading depth path target = .ok inclusion) :
    inclusion.isIncluded = true ↔ 0 < depth := by
  rcases followed_cases h with ⟨hdepth, rfl⟩ | ⟨hdepth, inner, rfl, -⟩
  · simp [Inclusion.isIncluded, hdepth]
  · exact ⟨fun _ => hdepth, fun _ => rfl⟩

theorem exists_load_of_extract {comments : List (Comment Inclusion)}
    (h : (extract load reading depth path).result = .ok comments) :
    ∃ t, load path = .ok t ∧ (ofSource load reading depth path t).result = .ok comments := by
  rw [result_extract] at h
  cases hload : load path with
  | error e =>
    rw [hload] at h
    nomatch h
  | ok t =>
    rw [hload] at h
    exact ⟨t, rfl, h⟩

theorem ofSource_of_extract {comments : List (Comment Inclusion)}
    (h : (extract load reading depth path).result = .ok comments) :
    ∃ t, (ofSource load reading depth path t).result = .ok comments := by
  obtain ⟨t, -, ht⟩ := exists_load_of_extract h
  exact ⟨t, ht⟩

/-- The comments that stand in the place of a reference are those of a text, with one level less. -/
theorem ofSource_of_followed {target file : Text} {inner : List (Comment Inclusion)}
    (h : followed load reading depth path target = .ok (.contents file inner)) :
    ∃ t, (ofSource load reading (depth - 1) file t).result = .ok inner := by
  rcases followed_cases h with ⟨-, hreference⟩ | ⟨-, inner', hcontents, hread⟩
  · nomatch hreference
  · obtain ⟨rfl, rfl⟩ := Inclusion.contents.inj hcontents
    exact ofSource_of_extract hread

end

/-! ## Every level -/

/-- The lists of comments in a result by their level: the result itself at level zero, and one level
deeper the comments of every file that a list includes. -/
inductive ListAt (result : List (Comment Inclusion)) : Nat → List (Comment Inclusion) → Prop
  | top : ListAt result 0 result
  | included {level : Nat} {comments inner : List (Comment Inclusion)} {c : Comment Inclusion}
      {path : Text} (outer : ListAt result level comments) (comment : c ∈ comments)
      (tag : .detail (.contents path inner) ∈ c.tags) : ListAt result (level + 1) inner

section
variable {ε : Type} {load : Loader ε} {reading : Reading} {depth : Int} {path : Text}

theorem mem_details_iff {c : Comment Inclusion} {inclusion : Inclusion} :
    inclusion ∈ c.details ↔ .detail inclusion ∈ c.tags := by
  refine List.mem_filterMap.trans ⟨?_, fun h => ⟨_, h, rfl⟩⟩
  rintro ⟨t, ht, hdetail⟩
  cases t with
  | detail content =>
    obtain rfl := Option.some.inj hdetail
    exact ht
  | _ => nomatch hdetail

/-- Every list in a result is what some text gives with the levels that are left there. -/
theorem ListAt.isExtracted {t : Text} {result : List (Comment Inclusion)}
    (h : (ofSource load reading depth path t).result = .ok result) {level : Nat}
    {comments : List (Comment Inclusion)} (hat : ListAt result level comments) :
    ∃ file s, (ofSource load reading (depth - level) file s).result = .ok comments := by
  induction hat with
  | top =>
    refine ⟨path, t, ?_⟩
    rw [show depth - ((0 : Nat) : Int) = depth by omega]
    exact h
  | @included level comments inner c file outer hc htag ih =>
    obtain ⟨source, s, hread⟩ := ih
    obtain ⟨target, hfollowed⟩ := followed_of_mem_details hread hc (mem_details_iff.mpr htag)
    obtain ⟨s', hinner⟩ := ofSource_of_followed hfollowed
    refine ⟨file, s', ?_⟩
    rw [show depth - ((level + 1 : Nat) : Int) = depth - level - 1 by omega]
    exact hinner

/-- At every level of a result no list is empty, every comment is well-formed, and a file is
included exactly when the level is less than the depth. -/
theorem ofSource_wellFormed (load : Loader ε) (reading : Reading) (depth : Int) (path t : Text)
    (result : List (Comment Inclusion))
    (h : (ofSource load reading depth path t).result = .ok result) (level : Nat)
    (comments : List (Comment Inclusion)) (hat : ListAt result level comments) :
    comments ≠ [] ∧ ∀ c ∈ comments, c.WellFormed ∧
      ∀ inclusion, .detail inclusion ∈ c.tags →
        (inclusion.isIncluded = true ↔ (level : Int) < depth) := by
  obtain ⟨file, s, hread⟩ := hat.isExtracted h
  refine ⟨ne_nil_of_ofSource hread, fun c hc => ⟨wellFormed_of_ofSource hread hc, ?_⟩⟩
  intro inclusion hinclusion
  obtain ⟨target, hfollowed⟩ := followed_of_mem_details hread hc (mem_details_iff.mpr hinclusion)
  rw [isIncluded_of_followed hfollowed]
  omega

end

/-- A text that includes a file, which refers to itself. -/
theorem ofSource_wellFormed_included :
    ∃ result inner : List (Comment Inclusion),
      (ofSource (fun _ => (.ok "/** @detail a */" : Except Unit Text)) ⟨false, id⟩ 1 "b"
        "/** @detail a */\nvar x = 1;").result = .ok result ∧
      ListAt result 1 inner ∧ inner ≠ [] ∧ ∀ c ∈ inner, c.WellFormed ∧
        ∀ inclusion, .detail inclusion ∈ c.tags →
          (inclusion.isIncluded = true ↔ ((1 : Nat) : Int) < 1) := by
  have hincluded : (ofSource (fun _ => (.ok "/** @detail a */" : Except Unit Text)) ⟨false, id⟩ 1 "b"
      "/** @detail a */\nvar x = 1;").result.toOption.map
        (fun result => (result.flatMap Comment.details).map Inclusion.isIncluded)
          = some [true] := by
    decide +kernel
  obtain ⟨result, hread, hresult⟩ := exists_ok_of_map_toOption hincluded
  obtain ⟨inclusion, hdetail, hcontents⟩ : ∃ inclusion ∈ result.flatMap Comment.details,
      inclusion.isIncluded = true :=
    List.mem_map.mp (hresult ▸ List.mem_singleton_self true)
  cases inclusion with
  | reference path => nomatch hcontents
  | contents path inner =>
    obtain ⟨c, hc, hmem⟩ := List.mem_flatMap.mp hdetail
    have hat : ListAt result 1 inner := .included .top hc (mem_details_iff.mp hmem)
    exact ⟨result, inner, hread, hat, ofSource_wellFormed _ _ _ _ _ _ hread _ _ hat⟩

end Extraction

end DocBlock
