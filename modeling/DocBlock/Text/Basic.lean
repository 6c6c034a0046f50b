/-!
# Text

A text is the list of its bytes. Files, arguments and results are byte strings that need not be
well-formed UTF-8, so nothing here decodes: characters are a view on bytes, given in
`DocBlock.Text.Character`. This module holds the operations that look at bytes alone: cutting at
a separator, splitting into lines and words, and joining again.

A character literal stands for its byte and a string literal for its UTF-8 bytes wherever a byte
or a text is expected.
-/

namespace DocBlock

/-- The bytes of a file, an argument or a result. -/
abbrev Text := List UInt8

/-- An ASCII character literal stands for its byte. -/
instance charByte : Coe Char UInt8 := ⟨Char.toUInt8⟩

namespace Byte

/-- The double quotation mark. -/
abbrev quote : UInt8 := 0x22

/-- The apostrophe. -/
abbrev apostrophe : UInt8 := 0x27

/-- The backslash. -/
abbrev backslash : UInt8 := 0x5C

/-- The grave accent that encloses code in Markdown. -/
abbrev backtick : UInt8 := 0x60

/-- The left curly bracket. -/
abbrev leftBrace : UInt8 := 0x7B

/-- The right curly bracket. -/
abbrev rightBrace : UInt8 := 0x7D

/-- Whether the byte is an ASCII digit. -/
def isDigit (b : UInt8) : Bool := '0' ≤ b && b ≤ '9'

/-- Whether the byte is an ASCII letter. -/
def isLetter (b : UInt8) : Bool := ('a' ≤ b && b ≤ 'z') || ('A' ≤ b && b ≤ 'Z')

/-- Whether the byte is an ASCII letter or digit. -/
def isAlphanumeric (b : UInt8) : Bool := isLetter b || isDigit b

/-- Whether the byte may occur in an identifier: an ASCII letter, digit or underscore. -/
def isWord (b : UInt8) : Bool := isAlphanumeric b || b == '_'

/-- Whether the byte is a space or a tab. -/
def isBlank (b : UInt8) : Bool := b == ' ' || b == '\t'

/-- Whether the byte is a hexadecimal digit. -/
def isHexDigit (b : UInt8) : Bool := isDigit b || ('a' ≤ b && b ≤ 'f') || ('A' ≤ b && b ≤ 'F')

/-- Whether the byte is ASCII punctuation. -/
def isPunctuation (b : UInt8) : Bool :=
  ('!' ≤ b && b ≤ '/') || (':' ≤ b && b ≤ '@') || ('[' ≤ b && b ≤ 0x60) || (0x7B ≤ b && b ≤ '~')

/-- The ASCII lower case of a byte. -/
def toLower (b : UInt8) : UInt8 := if 'A' ≤ b && b ≤ 'Z' then b + 32 else b

/-- The value of a hexadecimal digit, and zero for every other byte. -/
def hexValue (b : UInt8) : Nat :=
  if isDigit b then b.toNat - 48
  else if 'a' ≤ b && b ≤ 'f' then b.toNat - 87
  else if 'A' ≤ b && b ≤ 'F' then b.toNat - 55
  else 0

/-- The lower-case hexadecimal digit of a number below sixteen. -/
def hexDigit (n : Nat) : UInt8 := if n < 10 then (48 + n).toUInt8 else (87 + n).toUInt8

end Byte

namespace Text

/-- The UTF-8 bytes of a string. -/
def ofString (s : String) : Text := s.toUTF8.data.toList

/-- A string literal stands for its UTF-8 bytes. -/
instance : Coe String Text := ⟨ofString⟩

/-- The decimal digits of a number. -/
def ofNat (n : Nat) : Text :=
  if n < 10 then [(48 + n).toUInt8] else ofNat (n / 10) ++ [(48 + n % 10).toUInt8]

/-- The decimal digits of an integer, after a minus sign when it is negative. -/
def ofInt : Int → Text
  | .ofNat n => ofNat n
  | .negSucc n => '-' :: ofNat (n + 1)

/-- The last `width` hexadecimal digits of a number, in lower case. -/
def hexadecimal : Nat → Nat → Text
  | 0, _ => []
  | width + 1, n => hexadecimal width (n / 16) ++ [Byte.hexDigit (n % 16)]

/-- The parts before and after the first occurrence of `sep`, if there is one. -/
def cut (sep : Text) : Text → Option (Text × Text)
  | [] => if sep.isEmpty then some ([], []) else none
  | b :: t =>
    match sep.isPrefixOf? (b :: t) with
    | some rest => some ([], rest)
    | none => (cut sep t).map fun (before, after) => (b :: before, after)

/-- A text starts with `lead` exactly when it is `lead` and a rest. -/
theorem isPrefixOf?_eq_some_iff {lead t rest : Text} :
    lead.isPrefixOf? t = some rest ↔ t = lead ++ rest := by
  induction lead generalizing t with
  | nil =>
    show some t = some rest ↔ t = rest
    exact ⟨Option.some.inj, congrArg some⟩
  | cons b lead ih =>
    cases t with
    | nil =>
      show none = some rest ↔ [] = b :: (lead ++ rest)
      simp
    | cons c t =>
      show (if b == c then lead.isPrefixOf? t else none) = some rest ↔ c :: t = b :: (lead ++ rest)
      by_cases hb : b = c
      · simp [hb, ih]
      · simp [hb, Ne.symm hb]

/-- Cutting takes the separator away and nothing else. -/
theorem eq_append_of_cut {sep t before after : Text} (h : cut sep t = some (before, after)) :
    t = before ++ sep ++ after := by
  induction t generalizing before with
  | nil =>
    simp only [cut, List.isEmpty_iff] at h
    split at h <;> simp_all
  | cons b t ih =>
    rw [cut] at h
    split at h
    next rest hp =>
      obtain ⟨rfl, rfl⟩ := Prod.mk.inj (Option.some.inj h)
      exact isPrefixOf?_eq_some_iff.mp hp
    next hp =>
      obtain ⟨⟨before', after'⟩, hc, he⟩ := Option.map_eq_some_iff.mp h
      obtain ⟨rfl, rfl⟩ := Prod.mk.inj he
      simp [ih hc]

/-- The part before the first occurrence of `sep`: everything when there is none. -/
def before (sep t : Text) : Text := ((cut sep t).map Prod.fst).getD t

/-- The part after the first occurrence of `sep`: nothing when there is none. -/
def after (sep t : Text) : Text := ((cut sep t).map Prod.snd).getD []

/-- Whether `sep` occurs in the text. -/
def contains (sep t : Text) : Bool := (cut sep t).isSome

/-- Put a byte in front of the first of a list of pieces. -/
def consFirst (b : UInt8) : List Text → List Text
  | [] => [[b]]
  | piece :: pieces => (b :: piece) :: pieces

/-- The pieces between the occurrences of a separator, found from left to right; the first
argument counts the bytes of a separator that are still to be skipped. -/
def splitAfter (sep : Text) : Nat → Text → List Text
  | _, [] => [[]]
  | skip + 1, _ :: t => splitAfter sep skip t
  | 0, b :: t =>
    if sep.isPrefixOf (b :: t) then [] :: splitAfter sep (sep.length - 1) t
    else consFirst b (splitAfter sep 0 t)

/-- The pieces between the occurrences of a non-empty separator, found from left to right. -/
def splitOn (sep t : Text) : List Text := splitAfter sep 0 t

/-- The pieces between the bytes that satisfy `p`. -/
def splitWhere (p : UInt8 → Bool) : Text → List Text
  | [] => [[]]
  | b :: t => if p b then [] :: splitWhere p t else consFirst b (splitWhere p t)

/-- The lines of a text: the pieces between its line feeds. -/
def lines (t : Text) : List Text := splitWhere (· == '\n') t

/-- So many spaces. -/
def spaces (n : Nat) : Text := List.replicate n ' '

/-- The texts of a list with `sep` between neighbours. -/
def join (sep : Text) (pieces : List Text) : Text := List.intercalate sep pieces

/-- The pieces between maximal runs of spaces. A leading or trailing run leaves an empty piece at
that end, and the empty text is one empty piece. -/
def words : Text → List Text
  | [] => [[]]
  | [b] => if b = ' ' then [[], []] else [[b]]
  | b :: c :: t =>
    if b = ' ' then (if c = ' ' then words (c :: t) else [] :: words (c :: t))
    else consFirst b (words (c :: t))

/-- The text without the spaces at its start. -/
def skipSpaces (t : Text) : Text := t.dropWhile (· == ' ')

/-- The text without the bytes at its end that satisfy `p`. -/
def dropWhileRight (p : UInt8 → Bool) (t : Text) : Text := (t.reverse.dropWhile p).reverse

/-- The text without the bytes at both ends that satisfy `p`. -/
def trimWhere (p : UInt8 → Bool) (t : Text) : Text := dropWhileRight p (t.dropWhile p)

/-- The text with every carriage return that stands before a line feed removed. -/
def unixNewlines : Text → Text
  | [] => []
  | [b] => [b]
  | b :: c :: t =>
    if b = '\r' && c = '\n' then unixNewlines (c :: t) else b :: unixNewlines (c :: t)

/-- Byte order of texts: a text comes before its extensions. -/
def precedes : Text → Text → Bool
  | [], _ => true
  | _ :: _, [] => false
  | a :: s, b :: t => a < b || (a == b && precedes s t)

/-- The texts in byte order, equal ones kept next to each other. -/
def sort (ts : List Text) : List Text := ts.mergeSort precedes

/-- A list without the texts that equal their predecessor. -/
def dropRepeats : List Text → List Text
  | [] => []
  | [t] => [t]
  | t :: u :: ts => if t = u then dropRepeats (u :: ts) else t :: dropRepeats (u :: ts)

end Text

end DocBlock
