import DocBlock.Json.Basic

/-!
# Reading JSON

A reader for JSON texts that knows nothing of how values are written. It follows the grammar of the
format: a text is UTF-8, its tokens may have spaces, tabs and line ends between them, and a string
holds no bare control character. An escape of four hexadecimal digits gives a code unit, and two
units that form a surrogate pair give one character. Numbers are whole, as those of `Json` are, so
one with a fraction or an exponent is refused. Objects keep the order of their fields.

The tokens are found from left to right (`tokens?`). The value is then put together with a stack of
the arrays and objects that are still open (`value?`, `rest?`).

`squeeze` takes out the white space between the tokens. It follows only the quotation marks and the
backslashes before them.
-/

namespace DocBlock.Json

/-- A piece of a JSON text that is read as a whole. -/
inductive Token where
  | leftBracket
  | rightBracket
  | leftBrace
  | rightBrace
  | comma
  | colon
  | null
  | bool (b : Bool)
  | number (n : Int)
  | string (t : Text)
  deriving DecidableEq, Repr

/-- Whether a byte may stand between tokens. -/
def isGap (b : UInt8) : Bool := b == ' ' || b == '\t' || b == '\n' || b == '\r'

/-! ## Strings -/

/-- A part of a string: a byte, or a code unit that is given by its digits. -/
inductive Part where
  | byte (b : UInt8)
  | unit (n : Nat)
  deriving DecidableEq, Repr

/-- The byte that a letter or a mark stands for after a backslash. -/
def unescaped? (b : UInt8) : Option UInt8 :=
  if b = Byte.quote || b = Byte.backslash || b = '/' then some b
  else if b = 'b' then some 0x08
  else if b = 'f' then some 0x0C
  else if b = 'n' then some 0x0A
  else if b = 'r' then some 0x0D
  else if b = 't' then some 0x09
  else none

/-- The number that hexadecimal digits stand for. -/
def unit? (digits : Text) : Option Nat :=
  if digits.all Byte.isHexDigit then
    some (digits.foldl (fun n b => n * 16 + Byte.hexValue b) 0)
  else none

/-- Put a part before those that are read. -/
def withPart (part : Part) : List Part × Text → List Part × Text
  | (parts, rest) => (part :: parts, rest)

/-- The parts of a string after its first quotation mark, and what follows its last. -/
def parts? : Text → Option (List Part × Text)
  | [] => none
  | b :: t =>
    if b = Byte.quote then some ([], t)
    else if b = Byte.backslash then
      match t with
      | [] => none
      | e :: t =>
        if e = 'u' then
          -- The number of a code unit takes four digits.
          match t with
          | h₁ :: h₂ :: h₃ :: h₄ :: t =>
            (unit? [h₁, h₂, h₃, h₄]).bind fun n => (parts? t).map (withPart (.unit n))
          | _ => none
        else (unescaped? e).bind fun c => (parts? t).map (withPart (.byte c))
    else if b < 0x20 then none
    else (parts? t).map (withPart (.byte b))

/-- Whether two code units form a surrogate pair. -/
def isSurrogatePair (m n : Nat) : Bool :=
  0xD800 ≤ m && m < 0xDC00 && 0xDC00 ≤ n && n < 0xE000

/-- The text of the parts of a string. A surrogate without its partner gives the replacement
character. -/
def ofParts : List Part → Text
  | [] => []
  | .byte b :: parts => b :: ofParts parts
  | .unit m :: .unit n :: parts =>
    if isSurrogatePair m n then
      Text.ofCodePoint (0x10000 + (m - 0xD800) * 0x400 + (n - 0xDC00)) ++ ofParts parts
    else Text.ofCodePoint m ++ ofParts (.unit n :: parts)
  | .unit n :: parts => Text.ofCodePoint n ++ ofParts parts

theorem eq_of_map_withPart {part : Part} {parts : List Part} {rest : Text}
    {read : Option (List Part × Text)} (h : read.map (withPart part) = some (parts, rest)) :
    ∃ later, read = some (later, rest) := by
  obtain ⟨⟨later, rest'⟩, hread, heq⟩ := Option.map_eq_some_iff.mp h
  obtain ⟨-, rfl⟩ := Prod.mk.inj heq
  exact ⟨later, hread⟩

theorem length_of_parts? {t rest : Text} {parts : List Part} (h : parts? t = some (parts, rest)) :
    rest.length < t.length := by
  fun_induction parts? t generalizing parts with
  | case1 => cases h
  | case2 t =>
    obtain ⟨-, rfl⟩ := Prod.mk.inj (Option.some.inj h)
    exact Nat.lt_succ_self _
  | case3 => cases h
  | case4 h₁ h₂ h₃ h₄ t _ ih =>
    obtain ⟨n, -, hread⟩ := Option.bind_eq_some_iff.mp h
    obtain ⟨later, hlater⟩ := eq_of_map_withPart hread
    have hlt := ih hlater
    simp only [List.length_cons]
    omega
  | case5 => cases h
  | case6 e t _ _ ih =>
    obtain ⟨c, -, hread⟩ := Option.bind_eq_some_iff.mp h
    obtain ⟨later, hlater⟩ := eq_of_map_withPart hread
    have hlt := ih hlater
    simp only [List.length_cons]
    omega
  | case7 => cases h
  | case8 b t _ _ _ ih =>
    obtain ⟨later, hlater⟩ := eq_of_map_withPart h
    have hlt := ih hlater
    simp only [List.length_cons]
    omega

/-! ## Names and numbers -/

/-- Whether a byte may stand in a name or a number. -/
def isWord (b : UInt8) : Bool := Byte.isAlphanumeric b || b == '-' || b == '+' || b == '.'

/-- The number that decimal digits stand for. Only zero starts with a zero. -/
def natural? (digits : Text) : Option Nat :=
  if digits.isEmpty || !digits.all Byte.isDigit then none
  else if digits.head? == some ('0' : UInt8) && digits.length ≠ 1 then none
  else some (digits.foldl (fun n b => n * 10 + (b.toNat - 48)) 0)

/-- The whole number that a word stands for. -/
def integer? (w : Text) : Option Int :=
  if w.head? = some ('-' : UInt8) then (natural? w.tail).map fun n => -Int.ofNat n
  else (natural? w).map Int.ofNat

/-- The token that a word is. -/
def word? (w : Text) : Option Token :=
  match integer? w with
  | some n => some (.number n)
  | none =>
    if w = "null" then some .null
    else if w = "true" then some (.bool true)
    else if w = "false" then some (.bool false)
    else none

/-! ## Tokens -/

/-- The token that a mark is. -/
def mark? (b : UInt8) : Option Token :=
  if b = '[' then some .leftBracket
  else if b = ']' then some .rightBracket
  else if b = Byte.leftBrace then some .leftBrace
  else if b = Byte.rightBrace then some .rightBrace
  else if b = ',' then some .comma
  else if b = ':' then some .colon
  else none

/-- The tokens of a text. A word goes as far as it can. -/
def tokens? (t : Text) : Option (List Token) :=
  match t with
  | [] => some []
  | b :: t =>
    if isGap b then tokens? t
    else if b = Byte.quote then
      match h : parts? t with
      | none => none
      | some (parts, rest) =>
        have := length_of_parts? h
        (tokens? rest).map (.string (ofParts parts) :: ·)
    else
      match mark? b with
      | some token => (tokens? t).map (token :: ·)
      | none =>
        if isWord b then
          -- A word ends where its bytes do, so that `truefalse` is no value and `12` is one.
          (word? (b :: t.takeWhile isWord)).bind fun token =>
            (tokens? (t.dropWhile isWord)).map (token :: ·)
        else none
termination_by t.length
decreasing_by
  · exact Nat.lt_succ_self _
  · exact Nat.lt_succ_of_lt this
  · exact Nat.lt_succ_self _
  · exact Nat.lt_succ_of_le (List.dropWhile_sublist _).length_le

/-! ## Values -/

/-- An array or an object that is still open, with what stands before the value that comes next. -/
inductive Open where
  | items (before : List Json)
  | fields (before : List (Text × Json)) (name : Text)

mutual

/-- The value of a text, where a value comes next. -/
def value? (outer : List Open) : List Token → Option Json
  | .leftBracket :: .rightBracket :: ts => rest? outer (.array []) ts
  | .leftBracket :: ts => value? (.items [] :: outer) ts
  | .leftBrace :: .rightBrace :: ts => rest? outer (.object []) ts
  | .leftBrace :: .string name :: .colon :: ts => value? (.fields [] name :: outer) ts
  | .null :: ts => rest? outer .null ts
  | .bool b :: ts => rest? outer (.bool b) ts
  | .number n :: ts => rest? outer (.number n) ts
  | .string t :: ts => rest? outer (.string t) ts
  | _ => none

/-- The value of a text, where a value has just been read. -/
def rest? (outer : List Open) (value : Json) (ts : List Token) : Option Json :=
  match outer, ts with
  | [], [] => some value
  | .items before :: outer, .comma :: ts => value? (.items (before ++ [value]) :: outer) ts
  | .items before :: outer, .rightBracket :: ts => rest? outer (.array (before ++ [value])) ts
  | .fields before name :: outer, .comma :: .string next :: .colon :: ts =>
    value? (.fields (before ++ [(name, value)]) next :: outer) ts
  | .fields before name :: outer, .rightBrace :: ts =>
    rest? outer (.object (before ++ [(name, value)])) ts
  | _, _ => none

end

/-- Read a JSON text. -/
def read? (t : Text) : Option Json :=
  if Text.isWellFormed t then (tokens? t).bind (value? []) else none

/-! Only the grammar is accepted: no comma without an item, no zero before a digit, nothing after
the value. Two escapes can stand for one character. -/

example : (read? "[1, ]").isNone ∧ (read? "[01]").isNone ∧ (read? "[] []").isNone := by
  decide +kernel

example : tokens? "\"\\ud83d\\ude00\"" = some [.string "😀"] := by
  decide +kernel

/-! ## White space between tokens -/

/-- Where a byte stands: between quotation marks or not, or right after a backslash there. -/
inductive Place where
  | outside
  | inside
  | escaped

/-- The text without the white space outside strings, from a given place on. -/
def squeezeFrom : Place → Text → Text
  | _, [] => []
  | .outside, b :: t =>
    if isGap b then squeezeFrom .outside t
    else b :: squeezeFrom (if b = Byte.quote then .inside else .outside) t
  | .inside, b :: t =>
    b :: squeezeFrom (if b = Byte.quote then .outside
      else if b = Byte.backslash then .escaped else .inside) t
  | .escaped, b :: t => b :: squeezeFrom .inside t

/-- The text without the white space outside strings. -/
def squeeze (t : Text) : Text := squeezeFrom .outside t

end DocBlock.Json
