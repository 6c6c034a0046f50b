import DocBlock.Files.Bundle
import DocBlock.Proofs.Extraction.Trace
import DocBlock.Proofs.Path
import DocBlock.Proofs.Source.Encoding

/-!
# Where the included files are

A reference is resolved beside the file that makes it, and the file that it leads to makes references
of its own. What holds of the first file and of every reference in a file that it holds of therefore
holds of every file that is asked for (`of_loading`). That a path is relative is such a property, and
a reference in a file with a relative path is resolved (`Path.isResolved_beside`):

> `extraction_isConfined`: every path that an extraction asks for is clean and relative, and it leaves
> the folder of the files, if at all, through a double dot at its start. So a loader that does not
> leave its folder loads local paths only.
-/

namespace DocBlock

/-- A loader of the files in a folder: it reads no path that is not well-formed or that leaves the
folder through a double dot at its start. -/
def Loader.IsRooted {ε : Type} (load : Loader ε) : Prop :=
  ∀ path t, load path = .ok t →
    Text.isWellFormed path = true ∧ path ≠ ".." ∧ ¬ ("../" : Text) <+: path

theorem Bundle.isRooted_load (bundle : Bundle) : Loader.IsRooted bundle.load := by
  intro path t h
  unfold load at h
  split at h
  next hlocal => exact ⟨(Path.exists_names hlocal).1, Path.not_dotdot_of_isLocal hlocal⟩
  next => nomatch h

/-- What a loader of the files in a folder reads at a resolved path is inside of the folder. -/
theorem Loader.IsRooted.isLocal {ε : Type} {load : Loader ε} (h : Loader.IsRooted load)
    {path t : Text} (hload : load path = .ok t) (hpath : Path.IsResolved path) :
    Path.isLocal path = true := by
  obtain ⟨-, hdots, hup⟩ := h path t hload
  rcases hpath.inside with hlocal | heq | hstart
  · exact hlocal
  · exact absurd heq hdots
  · exact absurd hstart hup

/-! ## The references of a text -/

theorem Tag.ofLine_of_detail (render : Text → Text) (path : Text) {line : Line}
    (h : line.name = "detail") :
    ofLine render path line = .detail (Path.beside path (line.word 0)) := by
  unfold ofLine
  rw [h]
  rfl

theorem Tag.eq_beside_of_mem_detail? {render : Text → Text} {path : Text} {line : Line}
    {target : Text} (h : target ∈ (ofLine render path line).detail?) :
    target = Path.beside path (line.word 0) := by
  revert h
  fun_cases ofLine render path line with
  | case3 => fun_cases seeOf line <;> rintro ⟨⟩
  | case9 => exact fun h => (Option.some.inj h).symm
  | _ => rintro ⟨⟩

namespace Extraction

/-- Every reference of a text is resolved beside the file, and its word is cut out of the text. -/
theorem exists_of_mem_references {reading : Reading} {path t target : Text}
    (h : target ∈ references reading path t) :
    ∃ line : Tag.Line, target = Path.beside path (line.word 0) ∧
      (Text.isWellFormed t = true → line.WellFormed) := by
  obtain ⟨comment, hcomment, hdetail⟩ := List.mem_flatMap.mp h
  obtain ⟨i, hi⟩ := List.mem_iff_getElem?.mp hcomment
  rw [Source.comments_getElem? reading path t rfl, Option.map_eq_some_iff] at hi
  obtain ⟨block, hblock, rfl⟩ := hi
  obtain ⟨tag, htag, htarget⟩ := List.mem_filterMap.mp hdetail
  obtain ⟨text, htext, rfl⟩ := List.mem_map.mp htag
  refine ⟨Tag.Line.ofText text, Tag.eq_beside_of_mem_detail? htarget, fun hformed => ?_⟩
  -- The text of a tag is cut out of the body of a comment.
  obtain ⟨-, hstart⟩ := isWellFormed_splitCode (Text.isWellFormed_unixNewlines hformed)
  obtain ⟨hblocks, -⟩ := Layout.isWellFormed_comments (splitCode_snd_cases _) hstart
  have hbody := Source.isWellFormed_bodyText (hblocks block (List.mem_of_getElem? hblock)).1
  obtain ⟨-, htags⟩ := Comment.isWellFormed_parts (Text.isWellFormed_trim hbody)
  exact Tag.Line.wellFormed_ofText
    (Comment.isWellFormed_of_mem_tagTexts reading.multiLine htags text htext)

section
variable {ε : Type} {load : Loader ε} {reading : Reading} {depth : Int} {path : Text}

/-! ## The files that are asked for -/

/-- What is reported for a text: its inclusions, as far as they are followed, and its end. -/
theorem mem_events_ofSource {t : Text} {event : Event}
    (h : event ∈ (ofSource load reading depth path t).events) :
    (∃ count, event = .scanned path count) ∨
      (0 < depth ∧ ∃ reference ∈ references reading path t,
        event ∈ reported load reading depth path reference) := by
  cases hread : (ofSource load reading depth path t).result with
  | ok comments =>
    rw [events_of_ofSource_ok hread] at h
    rcases List.mem_append.mp h with h | h
    · obtain ⟨reference, href, hevent⟩ := List.mem_flatMap.mp h
      split at href
      next hdepth => exact Or.inr ⟨hdepth, reference, href, hevent⟩
      next => nomatch href
    · unfold closing at h
      split at h
      next => nomatch h
      next => exact Or.inl ⟨_, List.mem_singleton.mp h⟩
  | error error =>
    obtain ⟨hdepth, earlier, target, later, hsplit, -, -, hevents⟩ := events_of_ofSource_error hread
    rw [hevents] at h
    obtain ⟨reference, href, hevent⟩ := List.mem_flatMap.mp h
    refine Or.inr ⟨hdepth, reference, ?_, hevent⟩
    rw [hsplit]
    rcases List.mem_append.mp href with href | href
    · exact List.mem_append_left _ href
    · rw [List.mem_singleton.mp href]
      exact List.mem_append_right _ (List.mem_cons_self ..)

/-- A file that is asked for is the first one, or it is asked for by a reference in it. -/
theorem loading_cases {target : Text} {level : Int}
    (h : .loading target level ∈ (extract load reading depth path).events) :
    target = path ∨ ∃ t reference, load path = .ok t ∧ reference ∈ references reading path t ∧
      0 < depth ∧ .loading target level ∈ (extract load reading (depth - 1) reference).events := by
  cases hload : load path with
  | error cause =>
    rw [extract_of_error hload] at h
    exact Or.inl (Event.loading.inj (List.mem_singleton.mp h)).1
  | ok t =>
    rw [(extract_of_ok hload).1] at h
    rcases List.mem_cons.mp h with h | h
    · exact Or.inl (Event.loading.inj h).1
    · rcases mem_events_ofSource h with ⟨count, hcount⟩ | ⟨hdepth, reference, href, hevent⟩
      · nomatch hcount
      · rcases List.mem_cons.mp hevent with hevent | hevent
        · nomatch hevent
        · exact Or.inr ⟨t, reference, rfl, href, hdepth, hevent⟩

/-- What holds of a file, and of the references in every file that it holds of, holds of all the
files that are asked for. -/
theorem of_loading {P : Text → Prop}
    (hstep : ∀ file t, P file → load file = .ok t → ∀ reference ∈ references reading file t,
      P reference)
    {depth : Int} {path target : Text} {level : Int} (hpath : P path)
    (h : .loading target level ∈ (extract load reading depth path).events) : P target := by
  rcases loading_cases h with rfl | ⟨t, reference, hload, href, hdepth, hevent⟩
  · exact hpath
  · exact of_loading hstep (hstep path t hpath hload reference href) hevent
termination_by depth.toNat
decreasing_by omega

/-! ## The whole of it -/

/-- The references in a file with a local path are resolved, and so is every path that an extraction
of the file asks for. A loader that does not leave its folder loads local paths only. -/
theorem extraction_isConfined (load : Loader ε) (reading : Reading) (path : Text)
    (hpath : Path.isLocal path = true) (hload : Loader.IsRooted load) :
    (∀ line : Tag.Line, line.name = "detail" → ∃ target,
      Tag.ofLine reading.render path line = .detail target ∧
      (Text.isWellFormed (line.word 0) = true → Path.IsResolved target)) ∧
    ∀ (depth : Int) (target : Text) (level : Int),
      .loading target level ∈ (extract load reading depth path).events →
      (Text.isWellFormed target = true → Path.IsResolved target) ∧
      ((∀ file t, load file = .ok t → Text.isWellFormed t = true) →
        Text.isWellFormed target = true) ∧
      ∀ t, load target = .ok t → Path.isLocal target = true := by
  have hformed := (Path.exists_names hpath).1
  have hstart := Path.isResolved_of_isLocal hpath
  refine ⟨fun line hname => ?_, fun depth target level hevent => ?_⟩
  · refine ⟨_, Tag.ofLine_of_detail reading.render path hname, fun hword => ?_⟩
    exact Path.isResolved_beside hstart.relative (Path.isWellFormed_beside hformed hword)
  · have hresolved : Text.isWellFormed target = true → Path.IsResolved target := by
      have hboth : target.head? ≠ some (('/' : Char) : UInt8) ∧
          (Text.isWellFormed target = true → Path.IsResolved target) := by
        refine of_loading (P := fun file => file.head? ≠ some (('/' : Char) : UInt8) ∧
          (Text.isWellFormed file = true → Path.IsResolved file)) ?_
          ⟨hstart.relative, fun _ => hstart⟩ hevent
        intro file t hfile _ reference href
        obtain ⟨line, rfl, -⟩ := exists_of_mem_references href
        exact ⟨Path.relative_beside hfile.1 _, Path.isResolved_beside hfile.1⟩
      exact hboth.2
    refine ⟨hresolved, fun htexts => ?_, fun t ht => ?_⟩
    · refine of_loading (P := fun file => Text.isWellFormed file = true) ?_ hformed hevent
      intro file t hfile ht reference href
      obtain ⟨line, rfl, hline⟩ := exists_of_mem_references href
      exact Path.isWellFormed_beside hfile ((hline (htexts file t ht)).word 0)
    · exact hload.isLocal ht (hresolved (hload target t ht).1)

end

/-- The file `lib/a` refers to `/b`, which is found beside it, and to a file two folders up. -/
def climbing : Bundle :=
  ⟨[("lib/a", "/** @detail /b\n@detail ../../c */"), ("lib/b", "/** b */")]⟩

theorem extraction_isConfined_climbing :
    (extract climbing.load ⟨false, id⟩ 1 "lib/a").events =
      [.loading "lib/a" 1, .including "lib/a" "lib/b", .loading "lib/b" 0, .scanned "lib/b" 1,
        .including "lib/a" "../c", .loading "../c" 0] ∧
    Path.IsResolved "lib/b" ∧ Path.isLocal "lib/b" = true ∧
    Path.IsResolved "../c" ∧ Path.isLocal "../c" = false := by
  have hevents : (extract climbing.load ⟨false, id⟩ 1 "lib/a").events =
      [.loading "lib/a" 1, .including "lib/a" "lib/b", .loading "lib/b" 0, .scanned "lib/b" 1,
        .including "lib/a" "../c", .loading "../c" 0] := by
    decide +kernel
  obtain ⟨-, hasked⟩ := extraction_isConfined climbing.load ⟨false, id⟩ "lib/a" (by decide)
    climbing.isRooted_load
  obtain ⟨hbeside, -, hloaded⟩ := hasked 1 "lib/b" 0 (by rw [hevents]; decide)
  obtain ⟨habove, -⟩ := hasked 1 "../c" 0 (by rw [hevents]; decide)
  exact ⟨hevents, hbeside (by decide), hloaded "/** b */" (by decide), habove (by decide),
    by decide⟩

end Extraction

end DocBlock
