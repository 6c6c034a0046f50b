import DocBlock.Proofs.Extraction.WellFormed

/-!
# The tree of inclusions

What stands in the place of a reference is a tree: a path, or comments whose own references are such
trees again. `Inclusion.fold` puts a value together from the leaves up, and `fold_contents` is the
only equation that is needed of it, since it speaks of the comments by `Comment.map`. What holds at
every node is said by `Inclusion.Everywhere`, and the induction on it goes from the comments of a
file to the files that they include.

> `Extraction.everywhere_of_ofSource`: what holds of the comments of one source text holds at every
> node of what is extracted.
-/

namespace DocBlock

namespace Inclusion

section
variable {α : Type} (leaf : Text → α) (node : Text → List (Comment α) → α)

mutual

/-- Put a value together: `leaf` for a path, and `node` for comments in which every reference has
its value already. -/
def fold : Inclusion → α
  | reference path => leaf path
  | contents path comments => node path (foldAll comments)

def foldAll : List (Comment Inclusion) → List (Comment α)
  | [] => []
  | c :: cs => foldComment c :: foldAll cs

def foldComment : Comment Inclusion → Comment α
  | ⟨declaration, code, description, tags, isPrivate, isBanner⟩ =>
    ⟨declaration, code, description, foldTags tags, isPrivate, isBanner⟩

def foldTags : List (Tag Inclusion) → List (Tag α)
  | [] => []
  | t :: ts => foldTag t :: foldTags ts

def foldTag : Tag Inclusion → Tag α
  | .detail content => .detail (fold content)
  | .param types name description => .param types name description
  | .returns types description => .returns types description
  | .see title url place visibility => .see title url place visibility
  | .api visibility => .api visibility
  | .type types => .type types
  | .memberOf parent => .memberOf parent
  | .augments base => .augments base
  | .borrows source target => .borrows source target
  | .other name text => .other name text

end

theorem foldTags_eq_map (tags : List (Tag Inclusion)) :
    foldTags leaf node tags = tags.map (Tag.map (fold leaf node)) := by
  induction tags with
  | nil => rfl
  | cons t ts ih =>
    rw [foldTags, ih, List.map_cons]
    cases t <;> rfl

theorem foldAll_eq_map (comments : List (Comment Inclusion)) :
    foldAll leaf node comments = comments.map (Comment.map (fold leaf node)) := by
  induction comments with
  | nil => rfl
  | cons c cs ih =>
    obtain ⟨declaration, code, description, tags, isPrivate, isBanner⟩ := c
    rw [foldAll, ih, foldComment, foldTags_eq_map]
    rfl

theorem fold_contents (path : Text) (comments : List (Comment Inclusion)) :
    fold leaf node (contents path comments)
      = node path (comments.map (Comment.map (fold leaf node))) := by
  rw [fold, foldAll_eq_map]

end

/-- A property holds of every comment in a tree. -/
inductive Everywhere (P : Comment Inclusion → Prop) : Inclusion → Prop
  | reference (path : Text) : Everywhere P (reference path)
  | contents (path : Text) {comments : List (Comment Inclusion)} (own : ∀ c ∈ comments, P c)
      (inner : ∀ c ∈ comments, ∀ inclusion ∈ c.details, Everywhere P inclusion) :
      Everywhere P (contents path comments)

end Inclusion

namespace Extraction

section
variable {ε : Type} {load : Loader ε} {reading : Reading} {P : Comment Inclusion → Prop}
  {Q : Text → Text → Prop}

/-- If the comments of a text with `Q` have `P`, and comments with `P` include only files with `Q`,
then `P` holds at every node of what is extracted from a text with `Q`. -/
theorem everywhere_of_ofSource
    (hP : ∀ depth path t comments, Q path t →
      (ofSource load reading depth path t).result = .ok comments → ∀ c ∈ comments, P c)
    (hQ : ∀ c, P c → ∀ inclusion ∈ c.details, ∀ s, load inclusion.path = .ok s →
      Q inclusion.path s)
    {depth : Int} {path t : Text} {comments : List (Comment Inclusion)} (ht : Q path t)
    (h : (ofSource load reading depth path t).result = .ok comments) :
    (Inclusion.contents path comments).Everywhere P := by
  have hown := hP depth path t comments ht h
  refine .contents path hown ?_
  intro c hc inclusion hinclusion
  obtain ⟨target, hfollowed⟩ := followed_of_mem_details h hc hinclusion
  rcases followed_cases hfollowed with ⟨-, rfl⟩ | ⟨hdepth, inner, rfl, hread⟩
  · exact .reference target
  · -- one level less is left for the file that is included
    obtain ⟨s, hload, hs⟩ := exists_load_of_extract hread
    exact everywhere_of_ofSource hP hQ (hQ c (hown c hc) _ hinclusion s hload) hs
termination_by depth.toNat
decreasing_by omega

end

end Extraction

end DocBlock
