import DocBlock.Tag

/-!
# What kind of tag a line gives

The name of a tag line selects its grammar. The names with a grammar of their own stand in a table
(`Tag.grammars`), and every other name gives a tag that only keeps its words:

> `ofLine_kind`: a tag has the name of its line, and the kind that the table has for this name;
> `Kind.ofName_eq_other_iff`: the table leaves out exactly the names that are not `Tag.names`.
-/

namespace DocBlock.Tag

section
variable {Δ : Type}

/-- The kinds of tags: one for each grammar, and one for all other names. -/
inductive Kind where
  | param
  | returns
  | see
  | api
  | type
  | memberOf
  | augments
  | borrows
  | detail
  | other
  deriving DecidableEq, Repr

/-- The kind of a tag. -/
def kind : Tag Δ → Kind
  | .param _ _ _ => .param
  | .returns _ _ => .returns
  | .see _ _ _ _ => .see
  | .api _ => .api
  | .type _ => .type
  | .memberOf _ => .memberOf
  | .augments _ => .augments
  | .borrows _ _ => .borrows
  | .detail _ => .detail
  | .other _ _ => .other

/-- The names with a grammar of their own, each with the kind of tag it gives. -/
def grammars : List (Text × Kind) :=
  [("param", .param), ("return", .returns), ("see", .see), ("api", .api), ("type", .type),
    ("memberOf", .memberOf), ("augments", .augments), ("borrows", .borrows), ("detail", .detail)]

/-- The kind that a name selects. -/
def Kind.ofName (name : Text) : Kind := (grammars.lookup name).getD .other

theorem Kind.ofName_of_not_mem {name : Text} (h : name ∉ names) : Kind.ofName name = .other := by
  have hnone : grammars.lookup name = none := by
    rw [List.lookup_eq_none_iff]
    intro entry hentry
    rw [bne_iff_ne]
    intro heq
    refine h ?_
    rw [heq]
    exact List.mem_map_of_mem (f := Prod.fst) hentry
  rw [Kind.ofName, hnone]
  rfl

theorem Kind.ofName_eq_other_iff {name : Text} : Kind.ofName name = .other ↔ name ∉ names := by
  constructor
  · intro h hmem
    have hall : ∀ n ∈ names, Kind.ofName n ≠ .other := by decide
    exact hall name hmem h
  · exact Kind.ofName_of_not_mem

theorem seeOf_kind (line : Line) : (seeOf line).name = "see" ∧ (seeOf line).kind = .see := by
  unfold seeOf
  split
  · split <;> exact ⟨rfl, rfl⟩
  · exact ⟨rfl, rfl⟩

/-- A tag has the name of its line, and the kind that this name selects. -/
theorem ofLine_kind (render : Text → Text) (path : Text) (line : Line) :
    (ofLine render path line).name = line.name ∧
      (ofLine render path line).kind = Kind.ofName line.name := by
  fun_cases ofLine render path line with
  | case3 _ _ h =>
    -- a link, which is read in three ways
    rw [h]
    exact seeOf_kind line
  | case10 hparam hreturns hsee hapi htype hmember haugments hborrows hdetail =>
    -- none of the names in the table
    refine ⟨rfl, (Kind.ofName_of_not_mem ?_).symm⟩
    simp [names, *]
  | _ =>
    rename_i h
    rw [h]
    exact ⟨rfl, rfl⟩

end

end DocBlock.Tag
