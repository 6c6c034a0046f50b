import DocBlock.Extraction
import DocBlock.Proofs.Text.Occurrence
import DocBlock.Proofs.Traced

/-!
# Line ends do not matter

A file may end its lines with a line feed or with a carriage return and a line feed, and it may mix
the two. `Text.Respelled` relates a text to every such spelling of it, and `unixNewlines` undoes the
spelling as long as the text had no carriage return before a line feed to begin with
(`unixNewlines_of_respelled`). Stray carriage returns stay where they are.

Every file is read through `unixNewlines`, at every level of inclusion:

> `extraction_ignores_lineEnds`: two loaders whose files differ only in their line ends give the
> same comments or the same failure, and the same events.
-/

namespace DocBlock

namespace Text

/-- The second text is the first with some of its line feeds written as a carriage return and a line
feed. -/
inductive Respelled : Text → Text → Prop
  | nil : Respelled [] []
  | keep (b : UInt8) {t t' : Text} (h : Respelled t t') : Respelled (b :: t) (b :: t')
  | widen {t t' : Text} (h : Respelled t t') :
      Respelled (('\n' : Char) :: t) (('\r' : Char) :: ('\n' : Char) :: t')

namespace Respelled

variable {b c : UInt8} {t t' : Text}

theorem keep_iff : Respelled (b :: t) (b :: t') ↔ Respelled t t' := by
  constructor
  · intro h
    cases h with
    | keep b h => exact h
  · exact keep b

/-- A byte that changes is a line feed that gets a carriage return. -/
theorem widen_iff (hne : b ≠ c) :
    Respelled (b :: t) (c :: t') ↔
      b = '\n' ∧ c = '\r' ∧ t'.head? = some (('\n' : Char) : UInt8) ∧ Respelled t t'.tail := by
  constructor
  · intro h
    cases h with
    | keep b h => exact absurd rfl hne
    | widen h => exact ⟨rfl, rfl, rfl, h⟩
  · rintro ⟨rfl, rfl, hhead, h⟩
    cases t' with
    | nil => nomatch hhead
    | cons d t' =>
      obtain rfl := Option.some.inj hhead
      exact widen h

instance decidable : (t t' : Text) → Decidable (Respelled t t')
  | [], [] => isTrue nil
  | [], _ :: _ => isFalse nofun
  | _ :: _, [] => isFalse nofun
  | b :: t, c :: t' =>
    have := decidable t t'
    have := decidable t t'.tail
    if h : b = c then decidable_of_iff (Respelled t t') (h ▸ keep_iff.symm)
    else decidable_of_iff _ (widen_iff h).symm

/-- A spelling starts with a line feed only if the text does. -/
theorem head?_eq (h : Respelled t t') (hhead : t'.head? = some (('\n' : Char) : UInt8)) :
    t.head? = some (('\n' : Char) : UInt8) := by
  cases h with
  | nil => exact hhead
  | keep b h => exact hhead
  | widen h => rfl

end Respelled

theorem unixNewlines_cons (b : UInt8) (t : Text) :
    unixNewlines (b :: t) =
      if b = '\r' ∧ t.head? = some (('\n' : Char) : UInt8) then unixNewlines t
      else b :: unixNewlines t := by
  cases t with
  | nil => simp [unixNewlines]
  | cons c t => simp [unixNewlines]

/-- Whatever the spelling of its line ends, the text is found again. -/
theorem unixNewlines_of_respelled {t t' : Text} (h : Respelled t t')
    (hcrlf : ¬ ("\r\n" : Text) <:+: t) : unixNewlines t' = t := by
  induction h with
  | nil => rfl
  | @keep b t t' h ih =>
    obtain ⟨hseam, hlater⟩ := not_or.mp (mt pair_infix_cons.mpr hcrlf)
    rw [unixNewlines_cons, if_neg fun hend => hseam ⟨hend.1, h.head?_eq hend.2⟩, ih hlater]
  | @widen t t' h ih =>
    have hlater : ¬ ("\r\n" : Text) <:+: t := fun hin => hcrlf (List.infix_cons hin)
    have hfeed : (('\n' : Char) : UInt8) ≠ '\r' := by decide
    rw [unixNewlines_cons, if_pos ⟨rfl, rfl⟩, unixNewlines_cons, if_neg fun hend => hfeed hend.1,
      ih hlater]

end Text

/-- What two loaders give for a path: the same failure, or texts of which one has no carriage return
before a line feed and the other is a spelling of it. -/
inductive SameLines {ε : Type} : Except ε Text → Except ε Text → Prop
  | failure (error : ε) : SameLines (.error error) (.error error)
  | text {t t' : Text} (plain : ¬ ("\r\n" : Text) <:+: t) (spelling : Text.Respelled t t') :
      SameLines (.ok t) (.ok t')

namespace Extraction

section
variable {ε : Type} {load load' : Loader ε}

/-- A source text is read as it is with plain line ends. -/
theorem readSource_congr {t t' : Text} (h : Text.unixNewlines t = Text.unixNewlines t')
    (reading : Reading) (next : Next ε) (path : Text) :
    readSource reading next path t = readSource reading next path t' := by
  have hcomments : Source.comments reading path t = Source.comments reading path t' := by
    rw [Source.comments, Source.comments, h]
  rw [readSource, readSource, hcomments]

theorem readFile_congr {path : Text} (h : SameLines (load path) (load' path)) (reading : Reading)
    (depth : Int) (next : Next (InputError ε)) :
    readFile load reading depth next path = readFile load' reading depth next path := by
  unfold readFile
  generalize load path = given at h ⊢
  generalize load' path = given' at h ⊢
  cases h with
  | failure error => rfl
  | @text t t' plain spelling =>
    have hsame : Text.unixNewlines t = Text.unixNewlines t' := by
      rw [Text.unixNewlines_eq_self plain, Text.unixNewlines_of_respelled spelling plain]
    show _ >>= (fun _ => readSource reading next path t)
      = _ >>= fun _ => readSource reading next path t'
    rw [readSource_congr hsame]

/-- However many levels are left, references are followed alike. -/
theorem levels_congr (h : ∀ path, SameLines (load path) (load' path)) (reading : Reading)
    (n : Nat) : levels load reading n = levels load' reading n := by
  induction n with
  | zero => rfl
  | succ n ih =>
    rw [levels, levels, ih]
    congr 1
    funext path
    exact readFile_congr (h path) reading n _

/-- Loaders whose files differ only in their line ends give the same result and the same events. -/
theorem extraction_ignores_lineEnds (load load' : Loader ε)
    (h : ∀ path, SameLines (load path) (load' path)) (reading : Reading) (depth : Int)
    (path : Text) :
    (extract load reading depth path).result = (extract load' reading depth path).result ∧
      (extract load reading depth path).events = (extract load' reading depth path).events := by
  have hsame : extract load reading depth path = extract load' reading depth path := by
    rw [extract, extract, levels_congr h, readFile_congr (h path)]
  exact ⟨congrArg Traced.result hsame, congrArg Traced.events hsame⟩

end

/-- The file `a`, with a stray carriage return, refers to `b`; there is no other file. -/
def plainFiles : Loader Text := fun path =>
  if path = "a" then .ok "/**\n * x\r y\n * @detail b\n */\nvar a = 1;\n"
  else if path = "b" then .ok "/** x\n\n y */\n"
  else .error path

/-- The same files with other line ends. -/
def mixedFiles : Loader Text := fun path =>
  if path = "a" then .ok "/**\r\n * x\r y\n * @detail b\r\n */\nvar a = 1;\r\n"
  else if path = "b" then .ok "/** x\r\n\r\n y */\n"
  else .error path

/-- Both files have line ends of both kinds, and the file `b` is included by `a`. -/
theorem extraction_ignores_lineEnds_mixed :
    (∀ path, SameLines (plainFiles path) (mixedFiles path)) ∧
    (extract plainFiles ⟨false, id⟩ 1 "a").events =
      [.loading "a" 1, .including "a" "b", .loading "b" 0, .scanned "b" 1, .scanned "a" 1] ∧
    (extract plainFiles ⟨false, id⟩ 1 "a").result =
      (extract mixedFiles ⟨false, id⟩ 1 "a").result ∧
    (extract plainFiles ⟨false, id⟩ 1 "a").events =
      (extract mixedFiles ⟨false, id⟩ 1 "a").events := by
  have hsame : ∀ path, SameLines (plainFiles path) (mixedFiles path) := by
    intro path
    unfold plainFiles mixedFiles
    by_cases ha : path = "a"
    · rw [if_pos ha, if_pos ha]
      exact .text (by decide) (by decide)
    · by_cases hb : path = "b"
      · rw [if_neg ha, if_neg ha, if_pos hb, if_pos hb]
        exact .text (by decide) (by decide)
      · rw [if_neg ha, if_neg ha, if_neg hb, if_neg hb]
        exact .failure path
  exact ⟨hsame, by decide +kernel, extraction_ignores_lineEnds _ _ hsame _ _ _⟩

end Extraction

end DocBlock
