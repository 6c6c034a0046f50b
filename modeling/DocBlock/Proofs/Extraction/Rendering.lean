import DocBlock.Markdown.Render
import DocBlock.Options
import DocBlock.Proofs.Extraction.Levels
import DocBlock.Proofs.Source.Comments

/-!
# Rendering is an overlay

Descriptions are rendered while a text is read: the description of a comment after it was split, the
description of a tag when its line is read. Nothing is decided by what the renderer gives, so the
same comes out when the raw result is rendered afterwards, at every level of inclusion
(`Inclusion.renderedAll`):

> `rendering_isOverlay`: an extraction with a renderer is the raw extraction, rendered; it reports
> the same events and fails in the same way.

Only the one empty comment of a text without comments is made without the renderer, which therefore
has to leave the empty text as it is.
-/

namespace DocBlock

/-! ## Rendering what was read -/

section
variable {Δ : Type}

/-- Render the description of a parameter or of what is returned. -/
def Tag.rendered (render : Text → Text) : Tag Δ → Tag Δ
  | .param types name description => .param types name (render description)
  | .returns types description => .returns types (render description)
  | t => t

/-- Render the three parts of the description of a comment, and the descriptions of its tags. -/
def Comment.rendered (render : Text → Text) (c : Comment Δ) : Comment Δ :=
  { c with
    description := ⟨render c.description.full, render c.description.summary,
      render c.description.body⟩
    tags := c.tags.map (Tag.rendered render) }

end

namespace Inclusion

mutual

/-- Render the comments of a file that is included. -/
def rendered (render : Text → Text) : Inclusion → Inclusion
  | reference path => reference path
  | contents path comments => contents path (renderedAll render comments)

/-- Render comments, and those of the files that they include. -/
def renderedAll (render : Text → Text) : List (Comment Inclusion) → List (Comment Inclusion)
  | [] => []
  | c :: cs => renderedComment render c :: renderedAll render cs

/-- Render a comment, and those of the files that it includes. -/
def renderedComment (render : Text → Text) : Comment Inclusion → Comment Inclusion
  | ⟨declaration, code, ⟨full, summary, body⟩, tags, isPrivate, isBanner⟩ =>
    ⟨declaration, code, ⟨render full, render summary, render body⟩, renderedTags render tags,
      isPrivate, isBanner⟩

/-- Render tags, and the comments of the files that they include. -/
def renderedTags (render : Text → Text) : List (Tag Inclusion) → List (Tag Inclusion)
  | [] => []
  | t :: ts => renderedTag render t :: renderedTags render ts

/-- Render a tag, or the comments of the file that it includes. -/
def renderedTag (render : Text → Text) : Tag Inclusion → Tag Inclusion
  | .detail content => .detail (rendered render content)
  | t => t.rendered render

end

theorem renderedTags_eq_map (render : Text → Text) (ts : List (Tag Inclusion)) :
    renderedTags render ts = ts.map (renderedTag render) := by
  induction ts with
  | nil => rfl
  | cons t ts ih => rw [renderedTags, ih, List.map_cons]

theorem renderedAll_eq_map (render : Text → Text) (cs : List (Comment Inclusion)) :
    renderedAll render cs = cs.map (renderedComment render) := by
  induction cs with
  | nil => rfl
  | cons c cs ih => rw [renderedAll, ih, List.map_cons]

end Inclusion

/-! ## Reading one text -/

section
variable {multiLine : Bool} {render : Text → Text} {path : Text}

theorem Tag.rendered_seeOf (line : Line) : (seeOf line).rendered render = seeOf line := by
  unfold seeOf
  split
  · split <;> rfl
  · rfl

/-- A tag line is read the same way with a renderer, and its description is rendered. -/
theorem Tag.ofLine_eq_rendered (line : Line) :
    ofLine render path line = (ofLine id path line).rendered render := by
  -- The name of the line decides alone, so the descriptions are rendered branch by branch.
  simp only [ofLine, apply_ite (rendered render), rendered_seeOf]
  rfl

theorem Tag.hides_rendered {Δ : Type} (t : Tag Δ) : (t.rendered render).hides = t.hides := by
  cases t <;> rfl

/-- A body is split the same way with a renderer, and its descriptions are rendered. -/
theorem Comment.ofBody_eq_rendered (body : Text) :
    ofBody ⟨multiLine, render⟩ path body = (ofBody ⟨multiLine, id⟩ path body).rendered render := by
  have htags : ∀ lines : List Text, lines.map (Tag.ofText render path)
      = (lines.map (Tag.ofText id path)).map (Tag.rendered render) := by
    intro lines
    rw [List.map_map]
    congr 1
    funext line
    exact Tag.ofLine_eq_rendered _
  have hprivate : ∀ tags : List (Tag Text),
      (tags.map (Tag.rendered render)).any Tag.hides = tags.any Tag.hides := by
    intro tags
    rw [List.any_map]
    congr 1
    funext t
    exact Tag.hides_rendered t
  simp only [ofBody, rendered, htags, hprivate]
  rfl

theorem Source.commentWith_eq_rendered (block : Block) (code : Text) :
    commentWith ⟨multiLine, render⟩ path block code =
      (commentWith ⟨multiLine, id⟩ path block code).rendered render := by
  rw [commentWith, Comment.ofBody_eq_rendered, commentWith]
  generalize Comment.ofBody ⟨multiLine, id⟩ path (bodyText block.body) = c
  rfl

/-- A source text has the same comments with a renderer, rendered. -/
theorem Source.comments_eq_rendered (t : Text) :
    comments ⟨multiLine, render⟩ path t =
      (comments ⟨multiLine, id⟩ path t).map (Comment.rendered render) := by
  refine List.ext_getElem? fun i => ?_
  rw [List.getElem?_map, comments_getElem? _ path t rfl, comments_getElem? _ path t rfl,
    Option.map_map]
  exact Option.map_congr fun block _ => commentWith_eq_rendered block _

end

/-! ## Following references -/

section
variable {ε : Type} {render : Text → Text} {multiLine : Bool}

theorem mapM_map_eq_map_mapM {α β γ : Type} {f : α → Traced ε β} {f' : γ → Traced ε β} {g : α → γ}
    {k : β → β} (h : ∀ x, f' (g x) = k <$> f x) (xs : List α) :
    (xs.map g).mapM f' = List.map k <$> xs.mapM f := by
  induction xs with
  | nil => rfl
  | cons x xs ih =>
    rw [List.map_cons, List.mapM_cons, List.mapM_cons, h, ih]
    simp only [bind_map_left, map_bind, map_pure, List.map_cons]

namespace Extraction

section
variable {next next' : Next ε} {path : Text}

/-- Following references with one renderer gives what following them without one does, rendered. -/
def Follows (render : Text → Text) (next next' : Next ε) (path : Text) : Prop :=
  ∀ target, follow next' path target = Inclusion.rendered render <$> follow next path target

theorem Follows.tag (h : Follows render next next' path) (t : Tag Text) :
    (t.rendered render).traverse (follow next' path) =
      Inclusion.renderedTag render <$> t.traverse (follow next path) := by
  cases t with
  | detail target =>
    show Tag.detail <$> follow next' path target
      = Inclusion.renderedTag render <$> Tag.detail <$> follow next path target
    rw [h target, Functor.map_map, Functor.map_map]
    rfl
  | _ => rfl

theorem Follows.comment (h : Follows render next next' path) (c : Comment Text) :
    (c.rendered render).traverse (follow next' path) =
      Inclusion.renderedComment render <$> c.traverse (follow next path) := by
  show (c.tags.map (Tag.rendered render)).mapM _ >>= _ = _
  rw [mapM_map_eq_map_mapM h.tag, Comment.traverse, bind_map_left, map_bind]
  congr 1
  funext tags
  rw [← Inclusion.renderedTags_eq_map]
  rfl

theorem finish_rendered (hempty : render [] = []) (comments : List (Comment Inclusion)) :
    (finish path (Inclusion.renderedAll render comments) : Traced ε _) =
      Inclusion.renderedAll render <$> finish path comments := by
  cases comments with
  | nil =>
    show Traced.pure [Comment.empty]
      = (Traced.pure (Inclusion.renderedAll render [Comment.empty]) : Traced ε _)
    have hcomment : Inclusion.renderedAll render [Comment.empty] = [Comment.empty] := by
      show [{ Comment.empty with description := ⟨render [], render [], render []⟩ }] = _
      rw [hempty]
      rfl
    rw [hcomment]
  | cons c cs =>
    have hlength : (Inclusion.renderedAll render cs).length = cs.length := by
      rw [Inclusion.renderedAll_eq_map, List.length_map]
    show (⟨[.scanned path ((Inclusion.renderedAll render cs).length + 1)], _⟩ : Traced ε _) = _
    rw [hlength]
    rfl

theorem Follows.readSource (h : Follows render next next' path) (hempty : render [] = []) (t : Text) :
    readSource ⟨multiLine, render⟩ next' path t =
      Inclusion.renderedAll render <$> readSource ⟨multiLine, id⟩ next path t := by
  rw [Extraction.readSource, Source.comments_eq_rendered, mapM_map_eq_map_mapM h.comment,
    Extraction.readSource, bind_map_left, map_bind]
  congr 1
  funext comments
  rw [← Inclusion.renderedAll_eq_map]
  exact finish_rendered hempty comments

end

/-! ## Every level -/

variable {load : Loader ε}

theorem readFile_eq_map_rendered {next next' : Next (InputError ε)} (hempty : render [] = [])
    (h : ∀ path, Follows render next next' path) (depth : Int) (path : Text) :
    readFile load ⟨multiLine, render⟩ depth next' path =
      Inclusion.renderedAll render <$> readFile load ⟨multiLine, id⟩ depth next path := by
  rw [readFile, readFile, map_bind]
  congr 1
  funext _
  rw [map_bind]
  congr 1
  funext t
  exact (h path).readSource hempty t

/-- However many levels are left, references are followed as without a renderer. -/
theorem follows_levels (hempty : render [] = []) (n : Nat) (path : Text) :
    Follows render (levels load ⟨multiLine, id⟩ n) (levels load ⟨multiLine, render⟩ n) path := by
  induction n generalizing path with
  | zero => exact fun target => rfl
  | succ n ih =>
    intro target
    -- What the level below gives for a file is rendered already.
    rw [levels, levels, follow, follow, map_bind]
    congr 1
    funext _
    rw [readFile_eq_map_rendered hempty ih, bind_map_left, map_bind]
    rfl

/-- A renderer that keeps the empty text only renders the descriptions of the raw result. Whether
there is one, how the extraction fails and what it reports do not depend on the renderer. -/
theorem rendering_isOverlay (load : Loader ε) (options : Options) (render : Text → Text)
    (hempty : render [] = []) (depth : Int) (path t : Text) :
    (ofSource load ({ options with raw := false }.reading render) depth path t).result =
        Inclusion.renderedAll render <$>
          (ofSource load ({ options with raw := true }.reading render) depth path t).result ∧
      (ofSource load ({ options with raw := false }.reading render) depth path t).events =
        (ofSource load ({ options with raw := true }.reading render) depth path t).events := by
  have hoverlay : ofSource load ⟨options.multiLine, render⟩ depth path t =
      Inclusion.renderedAll render <$> ofSource load ⟨options.multiLine, id⟩ depth path t :=
    (follows_levels hempty depth.toNat path).readSource hempty t
  constructor
  · exact (congrArg Traced.result hoverlay).trans (Traced.result_map _ _)
  · exact (congrArg Traced.events hoverlay).trans (Traced.events_map _ _)

/-- A text that includes a file, rendered as Markdown at both levels. -/
theorem rendering_isOverlay_markdown :
    ∃ raw : List (Comment Inclusion),
      (ofSource (fun _ => (.ok "/** *b* */" : Except Unit Text))
        ({ Options.default with raw := true }.reading Markdown.render) 1 "a"
          "/** *a*\n@detail b\n@return {X} *x* */").result = .ok raw ∧
      (raw.flatMap Comment.details).map Inclusion.path = [("b" : Text)] ∧
      (ofSource (fun _ => (.ok "/** *b* */" : Except Unit Text))
        ({ Options.default with raw := false }.reading Markdown.render) 1 "a"
          "/** *a*\n@detail b\n@return {X} *x* */").result =
            .ok (Inclusion.renderedAll Markdown.render raw) := by
  have hpaths : (ofSource (fun _ => (.ok "/** *b* */" : Except Unit Text))
      ({ Options.default with raw := true }.reading Markdown.render) 1 "a"
        "/** *a*\n@detail b\n@return {X} *x* */").result.toOption.map
          (fun raw => (raw.flatMap Comment.details).map Inclusion.path) = some [("b" : Text)] := by
    decide +kernel
  obtain ⟨raw, hread, hraw⟩ := exists_ok_of_map_toOption hpaths
  refine ⟨raw, hread, hraw, ?_⟩
  rw [(rendering_isOverlay _ Options.default Markdown.render rfl 1 _ _).1, hread]
  rfl

end Extraction

end

end DocBlock
