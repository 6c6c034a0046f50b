import DocBlock.Proofs.Extraction.Modes

/-!
# Lines that continue a tag

A tag that goes on over several lines is cut into its first line and the lines that continue it
(`Tag.Line.ofText_append`). The name and the words are those of the first line, and only a
`@param` or a `@return` takes the other lines into its description. But a link looks for an address
in all of its lines, and so they decide how its words are read (`Tag.ofLine_continued_iff`):

> `ofTagText_continued_iff`: the lines that continue a tag other than `@param` and `@return` change
> how it is read exactly if it is a link with words, its first line does not mention `http`, and
> they do.
-/

namespace DocBlock

namespace Text

/-- Texts put together with a space between them give a text, if there are two of them or more. -/
theorem length_le_of_join_eq_nil {pieces : List Text} (h : join " " pieces = []) :
    pieces.length ≤ 1 := by
  cases pieces with
  | nil => exact Nat.zero_le 1
  | cons first later =>
    by_cases hnil : later = []
    · rw [hnil]
      exact Nat.le_refl 1
    · -- the space before the second would be there
      rw [join_cons _ _ hnil] at h
      have hspace := (List.append_eq_nil_iff.mp (List.append_eq_nil_iff.mp h).1).2
      exact absurd hspace (by decide)

end Text

namespace Tag

/-- Lines that follow the first do not touch its name and its words. -/
theorem Line.ofText_append {first : Text} (hfirst : (('\n' : Char) : UInt8) ∉ first) {rest : Text}
    (hrest : ∀ b ∈ rest.head?, b = (('\n' : Char) : UInt8)) :
    Line.ofText (first ++ rest)
      = { Line.ofText first with continuation := rest, whole := first ++ rest } := by
  have hbefore := Text.bne_of_not_mem hfirst
  have hstop : rest.takeWhile (· != (('\n' : Char) : UInt8)) = []
      ∧ rest.dropWhile (· != (('\n' : Char) : UInt8)) = rest := by
    cases rest with
    | nil => exact ⟨rfl, rfl⟩
    | cons b rest =>
      obtain rfl := hrest b rfl
      exact ⟨List.takeWhile_cons_of_neg (by simp), List.dropWhile_cons_of_neg (by simp)⟩
  have htake : (first ++ rest).takeWhile (· != (('\n' : Char) : UInt8))
      = first.takeWhile (· != (('\n' : Char) : UInt8)) := by
    rw [List.takeWhile_append_of_pos hbefore, hstop.1, List.append_nil, Text.takeWhile_bne hfirst]
  have hdrop : (first ++ rest).dropWhile (· != (('\n' : Char) : UInt8)) = rest := by
    rw [List.dropWhile_append_of_pos hbefore, hstop.2]
  simp only [Line.ofText, htake, hdrop]

theorem Line.ofText_continued {first : Text} (hfirst : (('\n' : Char) : UInt8) ∉ first)
    (rest : Text) : Line.ofText (first ++ "\n" ++ rest) = { Line.ofText first with
      continuation := "\n" ++ rest, whole := first ++ "\n" ++ rest } := by
  rw [List.append_assoc]
  exact Line.ofText_append hfirst fun b hb => (Option.some.inj hb).symm

/-- The words of a link are a local name unless the line mentions an address. -/
theorem exists_seeOf (line : Line) : ∃ title url visibility, seeOf line = see title url
    (if Text.contains "http" line.whole then [] else line.wordsFrom 0) visibility := by
  unfold seeOf
  split
  · split <;> exact ⟨_, _, _, rfl⟩
  · exact ⟨_, _, _, rfl⟩

/-- The lines after the first change how a link is read exactly if it has words and only these
lines mention `http`, or only they do not. -/
theorem seeOf_continued_iff (line : Line) (continuation whole : Text) :
    seeOf { line with continuation, whole } = seeOf line ↔
      line.wordsFrom 0 = [] ∨ (("http" : Text) <:+: whole ↔ ("http" : Text) <:+: line.whole) := by
  -- With no words, an address and a local name are both empty.
  have hsame (line : Line) (h : line.wordsFrom 0 = []) : seeOf line = see [] [] [] (line.word 0) := by
    have hfew : ¬ 1 < line.words.length := Nat.not_lt.mpr (Text.length_le_of_join_eq_nil h)
    rw [seeOf, h, if_neg hfew, ite_self]
  rw [← Text.contains_iff, ← Text.contains_iff]
  constructor
  · intro heq
    by_contra hnot
    obtain ⟨hwords, hdiffer⟩ := not_or.mp hnot
    obtain ⟨_, _, _, hline⟩ := exists_seeOf line
    obtain ⟨_, _, _, hother⟩ := exists_seeOf { line with continuation, whole }
    rw [hline, hother, see.injEq] at heq
    obtain ⟨-, -, hreference, -⟩ := heq
    change (if Text.contains "http" whole then [] else line.wordsFrom 0) = _ at hreference
    refine hdiffer ?_
    split at hreference <;> split at hreference <;> simp_all
  · rintro (hwords | hmention)
    · rw [hsame line hwords]
      exact hsame _ hwords
    · simp only [seeOf, hmention]
      rfl

theorem ofLine_of_see (render : Text → Text) (path : Text) {line : Line}
    (h : line.name = "see") : ofLine render path line = seeOf line := by
  have hnot : ("see" : Text) ≠ "param" ∧ ("see" : Text) ≠ "return" := by decide
  rw [ofLine, h, if_neg hnot.1, if_neg hnot.2, if_pos rfl]

/-- Only `@param` and `@return` read the lines that continue them, and only a link the whole. -/
theorem ofLine_continued_iff (render : Text → Text) (path : Text) {line : Line}
    (hparam : line.name ≠ "param") (hreturns : line.name ≠ "return") (continuation whole : Text) :
    ofLine render path { line with continuation, whole } = ofLine render path line ↔
      (line.name = "see" → line.wordsFrom 0 = [] ∨
        (("http" : Text) <:+: whole ↔ ("http" : Text) <:+: line.whole)) := by
  by_cases hsee : line.name = "see"
  · have hother : ofLine render path { line with continuation, whole }
        = seeOf { line with continuation, whole } := ofLine_of_see render path hsee
    rw [hother, ofLine_of_see render path hsee, seeOf_continued_iff]
    exact ⟨fun h _ => h, fun h => h hsee⟩
  · refine iff_of_true ?_ fun h => absurd h hsee
    simp only [ofLine, if_neg hparam, if_neg hreturns, if_neg hsee]
    rfl

/-- The tag of a text that goes on is that of its first line under the same condition. -/
theorem ofText_continued_iff (render : Text → Text) (path : Text) {first : Text}
    (hfirst : (('\n' : Char) : UInt8) ∉ first) (hparam : (Line.ofText first).name ≠ "param")
    (hreturns : (Line.ofText first).name ≠ "return") (rest : Text) :
    ofText render path (first ++ "\n" ++ rest) = ofText render path first ↔
      ¬ ((Line.ofText first).name = "see" ∧ (Line.ofText first).wordsFrom 0 ≠ [] ∧
        ¬ ("http" : Text) <:+: first ∧ ("http" : Text) <:+: rest) := by
  have hmention : ("http" : Text) <:+: first ++ "\n" ++ rest ↔
      ("http" : Text) <:+: first ∨ ("http" : Text) <:+: rest := by
    rw [List.append_assoc]
    exact Text.infix_append_cons_iff (by decide) first rest
  rw [ofText, Line.ofText_continued hfirst, ofText, ofLine_continued_iff render path hparam hreturns, hmention]
  change (_ → _ ∨ (_ ∨ _ ↔ ("http" : Text) <:+: first)) ↔ _
  tauto

end Tag

namespace Extraction

variable {ε : Type}

/-- Links refer to no file, so they are as different as their texts are read. -/
theorem ofText_eq_of_see {load : Loader ε} {reading : Reading} {depth : Int} {path t t' : Text}
    (ht : (Tag.Line.ofText t).name = "see") (ht' : (Tag.Line.ofText t').name = "see")
    (h : ofTagText load reading depth path t = ofTagText load reading depth path t') :
    Tag.ofText reading.render path t = Tag.ofText reading.render path t' := by
  obtain ⟨_, _, _, hlink⟩ := Tag.exists_seeOf (Tag.Line.ofText t)
  obtain ⟨_, _, _, hlink'⟩ := Tag.exists_seeOf (Tag.Line.ofText t')
  rw [ofTagText, ofTagText] at h
  rw [Tag.ofText, Tag.ofText, Tag.ofLine_of_see _ _ ht, Tag.ofLine_of_see _ _ ht', hlink, hlink']
    at h ⊢
  have hresult := Except.ok.inj (congrArg Traced.result h)
  rwa [Tag.see.injEq] at hresult ⊢

/-- A tag other than `@param` and `@return` is read from its first line alone, unless it is a link
with words and only the lines that continue it mention `http`. -/
theorem ofTagText_continued_iff (load : Loader ε) (reading : Reading) (depth : Int) (path : Text)
    {first : Text} (hfirst : (('\n' : Char) : UInt8) ∉ first)
    (hparam : (Tag.Line.ofText first).name ≠ "param")
    (hreturns : (Tag.Line.ofText first).name ≠ "return") (rest : Text) :
    ofTagText load reading depth path (first ++ "\n" ++ rest)
        = ofTagText load reading depth path first ↔
      ¬ ((Tag.Line.ofText first).name = "see" ∧ (Tag.Line.ofText first).wordsFrom 0 ≠ [] ∧
        ¬ ("http" : Text) <:+: first ∧ ("http" : Text) <:+: rest) := by
  have htag := Tag.ofText_continued_iff reading.render path hfirst hparam hreturns rest
  constructor
  · intro heq hlink
    refine htag.mp (ofText_eq_of_see ?_ hlink.1 heq) hlink
    rw [Tag.Line.ofText_continued hfirst]
    exact hlink.1
  · intro hnot
    exact congrArg (Tag.traverse _) (htag.mpr hnot)

/-- A local link goes on with a line that mentions no address, and with one that does. -/
theorem ofTagText_continued_local :
    ofTagText (fun _ => .error ()) ⟨true, id⟩ 0 "lib/a.js" ("@see foo" ++ "\n" ++ "bar")
        = ofTagText (fun _ => .error ()) ⟨true, id⟩ 0 "lib/a.js" "@see foo" ∧
      ofTagText (fun _ => .error ()) ⟨true, id⟩ 0 "lib/a.js" ("@see foo" ++ "\n" ++ "http://x.y")
        ≠ ofTagText (fun _ => .error ()) ⟨true, id⟩ 0 "lib/a.js" "@see foo" := by
  have hiff := @ofTagText_continued_iff Unit (fun _ => .error ()) ⟨true, id⟩ 0 "lib/a.js" "@see foo"
    (by decide) (by decide) (by decide)
  exact ⟨(hiff "bar").mpr (by decide), fun heq => (hiff "http://x.y").mp heq (by decide)⟩

/-- What is local in a line alone is an address where a later line mentions one. -/
theorem ofTagText_reclassified :
    (('\n' : Char) : UInt8) ∉ ("@see foo" : Text) ∧ (Tag.Line.ofText "@see foo").name = "see" ∧
      (ofTagText (fun _ => .error ()) ⟨true, id⟩ 0 "lib/a.js" "@see foo\nhttp://x.y").result
        = .ok (.see [] "foo" [] "foo") ∧
      (ofTagText (fun _ => .error ()) ⟨true, id⟩ 0 "lib/a.js" "@see foo").result
        = .ok (.see [] [] "foo" "foo") := by
  exact ⟨by decide, by decide, rfl, rfl⟩

end Extraction

end DocBlock
