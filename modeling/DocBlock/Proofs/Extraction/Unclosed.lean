import DocBlock.Proofs.Extraction.Levels
import DocBlock.Proofs.Source.Unclosed

/-!
# The comment before one that is never closed

Reading a source text ends by attaching what was read last to the last comment. That is the code
after the comment, or else the text of a comment that was opened after it and never closed:

> `ofSource_append_opening`: such a comment leaves all comments before it as they are, except that
> the last one gets its text for code, unless the text is blank.

So a comment can lose its own code to the comment after it (`ofSource_append_opening_overwrites`).
-/

namespace DocBlock

theorem Comment.map_attach {Δ Γ : Type} (f : Δ → Γ) (c : Comment Δ) (code : Text) :
    (c.attach code).map f = (c.map f).attach code := by
  by_cases h : Text.trim code = []
  · rw [attach_of_trim_eq_nil h, attach_of_trim_eq_nil h]
  · rw [attach_of_trim_ne_nil h, attach_of_trim_ne_nil h]
    rfl

namespace Extraction

section
variable {ε : Type}

/-- A comment that is opened on a new line and never closed changes nothing but the code of the last
comment before it. -/
theorem ofSource_append_opening (load : Loader ε) (reading : Reading) (depth : Int)
    (hdepth : depth ≤ 0) (path s t : Text) (hs : (('\r' : Char) : UInt8) ∉ s)
    (hend : s = [] ∨ s.getLast? = some (('\n' : Char) : UInt8))
    (hclosed : (Layout.ofText s).unclosed = none) (ht : (('\r' : Char) : UInt8) ∉ t)
    (hbody : ¬ ("*/" : Text) <:+: t) :
    ∃ comments, (ofSource load reading depth path s).result = .ok comments ∧
      ((Layout.ofText s).blocks = [] →
        (ofSource load reading depth path (s ++ "/**" ++ t)).result = .ok comments) ∧
      ((Layout.ofText s).blocks ≠ [] → ∃ earlier last, comments = earlier ++ [last] ∧
        (ofSource load reading depth path (s ++ "/**" ++ t)).result
          = .ok (earlier ++ [last.attach t])) := by
  have hopened := Source.comments_append_opening reading path hs hend hclosed ht hbody
  have hplain := Source.comments_of_unclosed_eq_none reading path hs hclosed
  refine ⟨_, result_ofSource_of_nonpos hdepth s, ?_, ?_⟩
  · intro hnone
    rw [result_ofSource_of_nonpos hdepth, hopened, hplain, hnone]
    rfl
  · intro hsome
    have hne : Source.comments reading path s ≠ [] := by
      rw [hplain]
      exact fun h => hsome (List.map_eq_nil_iff.mp h)
    obtain ⟨earlier, last, hconcat⟩ : ∃ earlier last,
        Source.comments reading path s = earlier ++ [last] :=
      ⟨_, _, (List.dropLast_concat_getLast hne).symm⟩
    refine ⟨earlier.map (Comment.map .reference), last.map .reference, ?_, ?_⟩
    · rw [hconcat, List.map_append, orEmpty_of_ne_nil (by simp)]
      rfl
    · rw [result_ofSource_of_nonpos hdepth, hopened, hconcat, Source.attachLast_concat,
        List.map_append, orEmpty_of_ne_nil (by simp), ← Comment.map_attach]
      rfl

end

/-- The code of a comment, and after it a comment that is not closed. -/
theorem ofSource_append_opening_lastCode :
    ∃ comments : List (Comment Inclusion),
      (ofSource (fun _ => .error ()) ⟨false, id⟩ 0 "a" "/** a */\nvar x = 1;\n").result
        = .ok comments ∧
      ∃ earlier last, comments = earlier ++ [last] ∧
        (ofSource (fun _ => .error ()) ⟨false, id⟩ 0 "a"
          ("/** a */\nvar x = 1;\n" ++ "/**" ++ " b")).result
            = .ok (earlier ++ [last.attach " b"]) := by
  obtain ⟨comments, hread, -, hsome⟩ := ofSource_append_opening (fun _ => .error ()) ⟨false, id⟩ 0
    (by decide) "a" "/** a */\nvar x = 1;\n" " b" (by decide) (by decide) (by decide +kernel)
    (by decide) (by decide +kernel)
  exact ⟨comments, hread, hsome (by decide +kernel)⟩

/-- The comment that is not closed overwrites the code of the comment before it, and with the code
goes what it declares. -/
theorem ofSource_append_opening_overwrites :
    ((ofSource (fun _ => .error ()) ⟨false, id⟩ 0 "a" "/** a */\nvar x = 1;\n").result.toOption.map
        (List.map fun c => (c.code, c.declaration))
          = some [(("var x = 1;" : Text), some (.binding "x" "1;"))]) ∧
      (ofSource (fun _ => .error ()) ⟨false, id⟩ 0 "a"
        ("/** a */\nvar x = 1;\n" ++ "/**" ++ " b")).result.toOption.map
        (List.map fun c => (c.code, c.declaration)) = some [(("b" : Text), none)] := by
  decide +kernel

end Extraction

end DocBlock
