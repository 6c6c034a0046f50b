import DocBlock.Extraction
import DocBlock.Proofs.Traced

/-!
# What happens to the `@detail` tags

Reading a file replaces the content of its `@detail` tags, in order, and nothing else. `Tag.map` and
`Comment.map` are the replacement by a function; `Tag.traverse` and `Comment.traverse` are the
replacement by steps that may fail. The two are tied together on the contents that are there
(`Comment.details`):

> `mapM_traverse_eq_ok`: if every content has a value, the traversal gives the map;
> `eq_map_of_mapM_traverse`: that is the only way in which it succeeds;
> `failure?_mapM_traverse`: else it fails with the failure of the first content that has none.
-/

namespace DocBlock

section
variable {Δ Γ Θ ε : Type}

theorem findSome?_flatMap (f : Γ → Option ε) (g : Δ → List Γ) (xs : List Δ) :
    (xs.flatMap g).findSome? f = xs.findSome? fun x => (g x).findSome? f := by
  induction xs with
  | nil => rfl
  | cons x xs ih =>
    rw [List.flatMap_cons, List.findSome?_append, ih, List.findSome?_cons]
    cases (g x).findSome? f <;> rfl

namespace Tag

/-- Apply a function to the content of a `@detail` tag. -/
def map (f : Δ → Γ) : Tag Δ → Tag Γ
  | param types name description => param types name description
  | returns types description => returns types description
  | see title url reference visibility => see title url reference visibility
  | api visibility => api visibility
  | type types => type types
  | memberOf parent => memberOf parent
  | augments base => augments base
  | borrows source target => borrows source target
  | detail content => detail (f content)
  | other name text => other name text

theorem map_map (f : Δ → Γ) (g : Γ → Θ) (t : Tag Δ) : (t.map f).map g = t.map (g ∘ f) := by
  cases t <;> rfl

theorem detail?_map (f : Δ → Γ) (t : Tag Δ) : (t.map f).detail? = t.detail?.map f := by
  cases t <;> rfl

theorem hides_map (f : Δ → Γ) (t : Tag Δ) : (t.map f).hides = t.hides := by
  cases t <;> rfl

theorem hides_iff {t : Tag Δ} : t.hides = true ↔ t = .api "private" := by
  cases t with
  | api visibility => simp [hides]
  | _ => simp [hides]

/-- Whether a tag marks what is documented as private can be told before or after the contents are
replaced. -/
theorem any_hides_iff_mem_map (f : Δ → Γ) (ts : List (Tag Δ)) :
    ts.any hides = true ↔ .api "private" ∈ ts.map (map f) := by
  rw [List.any_eq_true, List.mem_map]
  refine exists_congr fun t => and_congr_right fun _ => ?_
  rw [← hides_map f, hides_iff]

theorem result_traverse (f : Δ → Traced ε Γ) (t : Tag Δ) :
    (t.traverse f).result = t.traverse fun d => (f d).result := by
  cases t with
  | detail content => exact Traced.result_map _ _
  | _ => rfl

theorem traverse_pure (f : Δ → Γ) (t : Tag Δ) :
    t.traverse (fun d => (pure (f d) : Traced ε Γ)) = pure (t.map f) := by
  cases t <;> rfl

theorem traverse_eq_ok {f : Δ → Except ε Γ} {g : Δ → Γ} {t : Tag Δ}
    (h : ∀ d ∈ t.detail?, f d = .ok (g d)) : t.traverse f = .ok (t.map g) := by
  cases t with
  | detail content =>
    rw [traverse, h content rfl]
    rfl
  | _ => rfl

theorem failure?_traverse (f : Δ → Except ε Γ) (t : Tag Δ) :
    failure? (t.traverse f) = t.detail?.bind fun d => failure? (f d) := by
  cases t with
  | detail content => exact failure?_map _ _
  | _ => rfl

end Tag

namespace Comment

/-- Apply a function to the content of every `@detail` tag. -/
def map (f : Δ → Γ) (c : Comment Δ) : Comment Γ := { c with tags := c.tags.map (Tag.map f) }

theorem tags_map (f : Δ → Γ) (c : Comment Δ) : (c.map f).tags = c.tags.map (Tag.map f) := rfl

theorem description_map (f : Δ → Γ) (c : Comment Δ) : (c.map f).description = c.description := rfl

theorem map_map (f : Δ → Γ) (g : Γ → Θ) (c : Comment Δ) : (c.map f).map g = c.map (g ∘ f) := by
  simp only [map, List.map_map]
  congr 2
  funext t
  exact Tag.map_map f g t

theorem details_map (f : Δ → Γ) (c : Comment Δ) : (c.map f).details = c.details.map f := by
  simp only [details, map, List.filterMap_map, List.map_filterMap]
  congr 1
  funext t
  exact Tag.detail?_map f t

theorem result_traverse (f : Δ → Traced ε Γ) (c : Comment Δ) :
    (c.traverse f).result = c.traverse fun d => (f d).result := by
  simp only [traverse, Traced.result_bind, Traced.result_mapM, Tag.result_traverse]
  rfl

theorem traverse_pure (f : Δ → Γ) (c : Comment Δ) :
    c.traverse (fun d => (pure (f d) : Traced ε Γ)) = pure (c.map f) := by
  have htags : c.tags.mapM (Tag.traverse fun d => (pure (f d) : Traced ε Γ))
      = pure (c.tags.map (Tag.map f)) := by
    rw [funext (Tag.traverse_pure f)]
    exact List.mapM_pure
  rw [traverse, htags, pure_bind]
  rfl

theorem failure?_traverse (f : Δ → Except ε Γ) (c : Comment Δ) :
    failure? (c.traverse f) = c.details.findSome? fun d => failure? (f d) := by
  have htags : failure? (c.traverse f) = failure? (c.tags.mapM (Tag.traverse f)) := by
    rw [traverse]
    cases c.tags.mapM (Tag.traverse f) <;> rfl
  rw [htags, failure?_mapM, details]
  induction c.tags with
  | nil => rfl
  | cons t ts ih =>
    rw [List.findSome?_cons, Tag.failure?_traverse, ih, List.filterMap_cons]
    cases t.detail? with
    | none => rfl
    | some d => rfl

/-- If every content has a value, the traversal replaces each by its value. -/
theorem traverse_eq_ok {f : Δ → Except ε Γ} {g : Δ → Γ} {c : Comment Δ}
    (h : ∀ d ∈ c.details, f d = .ok (g d)) : c.traverse f = .ok (c.map g) := by
  have htags : c.tags.mapM (Tag.traverse f) = .ok (c.tags.map (Tag.map g)) :=
    mapM_eq_ok fun t ht => Tag.traverse_eq_ok fun d hd => h d (List.mem_filterMap.mpr ⟨t, ht, hd⟩)
  rw [traverse, htags]
  rfl

/-- Comments whose contents all have a value are traversed by replacing each by its value. -/
theorem mapM_traverse_eq_ok {f : Δ → Except ε Γ} {g : Δ → Γ} {cs : List (Comment Δ)}
    (h : ∀ d ∈ cs.flatMap details, f d = .ok (g d)) :
    cs.mapM (traverse f) = .ok (cs.map (map g)) :=
  mapM_eq_ok fun c hc => traverse_eq_ok fun d hd => h d (List.mem_flatMap.mpr ⟨c, hc, hd⟩)

/-- Comments are traversed until the first content without a value. -/
theorem failure?_mapM_traverse (f : Δ → Except ε Γ) (cs : List (Comment Δ)) :
    failure? (cs.mapM (traverse f)) = (cs.flatMap details).findSome? fun d => failure? (f d) := by
  rw [failure?_mapM, findSome?_flatMap]
  congr 1
  funext c
  exact failure?_traverse f c

/-- A traversal that succeeds has a value for every content. -/
theorem eq_map_of_mapM_traverse [Inhabited Γ] {f : Δ → Except ε Γ} {cs : List (Comment Δ)}
    {ds : List (Comment Γ)} (h : cs.mapM (traverse f) = .ok ds) :
    ∃ value : Δ → Γ, (∀ d ∈ cs.flatMap details, f d = .ok (value d)) ∧ ds = cs.map (map value) := by
  have hvalue : ∀ d ∈ cs.flatMap details, f d = .ok ((f d).toOption.getD default) := by
    intro d hd
    have hnone := failure?_mapM_traverse f cs
    rw [h] at hnone
    obtain ⟨a, ha⟩ := failure?_eq_none_iff.mp (List.findSome?_eq_none_iff.mp hnone.symm d hd)
    rw [ha]
    rfl
  refine ⟨fun d => (f d).toOption.getD default, hvalue, ?_⟩
  exact Except.ok.inj (h.symm.trans (mapM_traverse_eq_ok hvalue))

end Comment

end

end DocBlock
