import DocBlock.Options
import DocBlock.Proofs.Extraction.Tree
import DocBlock.Proofs.Source.Encoding

/-!
# The texts of a result are well-formed

A result is well-formed UTF-8 in all its texts, at every level of inclusion, if the files are: the
comments of one text are (`Source.isWellFormed_of_mem_comments`), and so are the paths that they
refer to, which are the paths of the files that are read next.

> `ofSource_isWellFormed`: without a renderer, every text in the tree of a result is well-formed.
-/

namespace DocBlock

open Text (isWellFormed)

/-! ## The texts of a tree -/

section
variable {Δ Γ : Type}

theorem Tag.texts_map (f : Γ → List Text) (g : Δ → Γ) (t : Tag Δ) :
    (t.map g).texts f = t.texts (f ∘ g) := by
  cases t <;> rfl

theorem Comment.texts_map (f : Γ → List Text) (g : Δ → Γ) (c : Comment Δ) :
    (c.map g).texts f = c.texts (f ∘ g) := by
  simp only [texts, map, List.flatMap_map]
  congr 2
  funext t
  exact Tag.texts_map f g t

theorem Tag.mem_texts_iff {f : Δ → List Text} {t : Tag Δ} {s : Text} :
    s ∈ t.texts f ↔ s ∈ t.texts (fun _ => []) ∨ ∃ content ∈ t.detail?, s ∈ f content := by
  cases t <;> simp [texts, fields, detail?]

/-- The texts of a comment are its own and those of what its `@detail` tags hold. -/
theorem Comment.mem_texts_iff {f : Δ → List Text} {c : Comment Δ} {s : Text} :
    s ∈ c.texts f ↔ s ∈ c.texts (fun _ => []) ∨ ∃ content ∈ c.details, s ∈ f content := by
  constructor
  · intro hs
    rcases List.mem_append.mp hs with hs | hs
    · exact Or.inl (List.mem_append_left _ hs)
    · obtain ⟨t, ht, hs⟩ := List.mem_flatMap.mp hs
      rcases Tag.mem_texts_iff.mp hs with hs | ⟨content, hcontent, hs⟩
      · exact Or.inl (List.mem_append_right _ (List.mem_flatMap.mpr ⟨t, ht, hs⟩))
      · exact Or.inr ⟨content, List.mem_filterMap.mpr ⟨t, ht, hcontent⟩, hs⟩
  · rintro (hs | ⟨content, hcontent, hs⟩)
    · rcases List.mem_append.mp hs with hs | hs
      · exact List.mem_append_left _ hs
      · obtain ⟨t, ht, hs⟩ := List.mem_flatMap.mp hs
        exact List.mem_append_right _
          (List.mem_flatMap.mpr ⟨t, ht, Tag.mem_texts_iff.mpr (Or.inl hs)⟩)
    · obtain ⟨t, ht, hcontent⟩ := List.mem_filterMap.mp hcontent
      exact List.mem_append_right _
        (List.mem_flatMap.mpr ⟨t, ht, Tag.mem_texts_iff.mpr (Or.inr ⟨content, hcontent, hs⟩)⟩)

end

namespace Inclusion

/-- The texts of a tree: the path, and those of the comments at every level. -/
def texts : Inclusion → List Text :=
  fold (fun path => [path]) fun path comments => path :: comments.flatMap (Comment.texts id)

theorem texts_contents (path : Text) (comments : List (Comment Inclusion)) :
    (contents path comments).texts = path :: comments.flatMap (Comment.texts texts) := by
  rw [texts, fold_contents, List.flatMap_map]
  congr 2
  funext c
  exact Comment.texts_map id _ c

theorem isWellFormed_of_mem_texts {inclusion : Inclusion}
    (h : inclusion.Everywhere fun c => ∀ s ∈ c.texts fun i => [i.path], isWellFormed s = true)
    (hpath : isWellFormed inclusion.path = true) :
    ∀ s ∈ inclusion.texts, isWellFormed s = true := by
  induction h with
  | reference path =>
    intro s hs
    rw [List.mem_singleton.mp hs]
    exact hpath
  | @contents path comments own inner ih =>
    rw [texts_contents]
    refine List.forall_mem_cons.mpr ⟨hpath, fun s hs => ?_⟩
    obtain ⟨c, hc, hs⟩ := List.mem_flatMap.mp hs
    rcases Comment.mem_texts_iff.mp hs with hown | ⟨inclusion, hinclusion, hs⟩
    · exact own c hc s (Comment.mem_texts_iff.mpr (Or.inl hown))
    · refine ih c hc inclusion hinclusion (own c hc _ ?_) s hs
      exact Comment.mem_texts_iff.mpr (Or.inr ⟨inclusion, hinclusion, List.mem_singleton_self _⟩)

end Inclusion

namespace Extraction

section
variable {ε : Type} {load : Loader ε} {reading : Reading} {depth : Int} {path t : Text}

theorem path_of_followed {target : Text} {inclusion : Inclusion}
    (h : followed load reading depth path target = .ok inclusion) : inclusion.path = target := by
  rcases followed_cases h with ⟨-, rfl⟩ | ⟨-, inner, rfl, -⟩ <;> rfl

theorem isWellFormed_of_mem_ofSource
    (hrender : ∀ s, isWellFormed s = true → isWellFormed (reading.render s) = true)
    (hpath : isWellFormed path = true) (ht : isWellFormed t = true)
    {comments : List (Comment Inclusion)}
    (h : (ofSource load reading depth path t).result = .ok comments) :
    ∀ c ∈ comments, ∀ s ∈ c.texts fun inclusion => [inclusion.path], isWellFormed s = true := by
  obtain ⟨value, hvalue, rfl⟩ := ofSource_eq_ok h
  intro c hc
  by_cases hnil : (Source.comments reading path t).map (Comment.map value) = []
  · rw [hnil] at hc
    rw [List.mem_singleton.mp hc]
    exact Comment.forall_mem_texts.mpr
      ⟨(fun d hd => nomatch hd), rfl, ⟨rfl, rfl, rfl⟩, fun tag htag => nomatch htag⟩
  · rw [orEmpty_of_ne_nil hnil] at hc
    obtain ⟨plain, hplain, rfl⟩ := List.mem_map.mp hc
    have htexts := Source.isWellFormed_of_mem_comments hrender hpath ht plain hplain
    intro s hs
    refine htexts s ?_
    rw [Comment.texts_map] at hs
    rcases Comment.mem_texts_iff.mp hs with hown | ⟨target, htarget, hs⟩
    · exact Comment.mem_texts_iff.mpr (Or.inl hown)
    · refine Comment.mem_texts_iff.mpr (Or.inr ⟨target, htarget, ?_⟩)
      have hfollowed := hvalue target (List.mem_flatMap.mpr ⟨plain, hplain, htarget⟩)
      rw [List.mem_singleton.mp hs]
      exact List.mem_singleton.mpr (path_of_followed hfollowed)

/-- Without a renderer, every text in the tree of a result is well-formed UTF-8, if the source text,
its path and the files are. -/
theorem ofSource_isWellFormed (load : Loader ε) (options : Options) (render : Text → Text)
    (depth : Int) (path t : Text) (hpath : isWellFormed path = true) (ht : isWellFormed t = true)
    (hload : ∀ file s, load file = .ok s → isWellFormed s = true)
    (result : List (Comment Inclusion))
    (h : (ofSource load ({ options with raw := true }.reading render) depth path t).result
      = .ok result) :
    ∀ s ∈ result.flatMap (Comment.texts Inclusion.texts), isWellFormed s = true := by
  have htree := everywhere_of_ofSource
    (P := fun c => ∀ s ∈ c.texts fun i => [i.path], isWellFormed s = true)
    (Q := fun file s => isWellFormed file = true ∧ isWellFormed s = true)
    (fun _ _ _ _ hQ hread => isWellFormed_of_mem_ofSource (fun s hs => hs) hQ.1 hQ.2 hread)
    (fun c hc inclusion hinclusion s hs => ⟨hc _ (Comment.mem_texts_iff.mpr
      (Or.inr ⟨inclusion, hinclusion, List.mem_singleton_self _⟩)), hload _ s hs⟩)
    ⟨hpath, ht⟩ h
  have htexts := Inclusion.isWellFormed_of_mem_texts htree hpath
  rw [Inclusion.texts_contents] at htexts
  exact (List.forall_mem_cons.mp htexts).2

end

/-- Characters of two bytes next to every delimiter, and in the path of a file that is included. -/
theorem ofSource_isWellFormed_accents :
    ∃ result : List (Comment Inclusion),
      (ofSource (fun _ => (.ok "/*è*/" : Except Unit Text))
        ({ Options.default with raw := true }.reading id) 1 "ä/ö"
          "é/*éà\n@detail ñ\n@type {é|è}*/éK.prototype.f = 'é'").result = .ok result ∧
      (result.flatMap Comment.details).map Inclusion.path = [("ä/ñ" : Text)] ∧
      ∀ s ∈ result.flatMap (Comment.texts Inclusion.texts), isWellFormed s = true := by
  have hpaths : (ofSource (fun _ => (.ok "/*è*/" : Except Unit Text))
      ({ Options.default with raw := true }.reading id) 1 "ä/ö"
        "é/*éà\n@detail ñ\n@type {é|è}*/éK.prototype.f = 'é'").result.toOption.map
          (fun result => (result.flatMap Comment.details).map Inclusion.path)
            = some [("ä/ñ" : Text)] := by
    decide +kernel
  obtain ⟨result, hread, hpath⟩ := exists_ok_of_map_toOption hpaths
  refine ⟨result, hread, hpath, ?_⟩
  refine ofSource_isWellFormed _ Options.default id 1 "ä/ö" _ (by decide) (by decide) ?_ _ hread
  intro file s hs
  cases hs
  decide

end Extraction

end DocBlock
