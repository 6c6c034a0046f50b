import DocBlock.Text.Basic

/-!
# Characters of a text

Every text splits in exactly one way into *characters*: the well-formed UTF-8 sequences found
from left to right, and single stray bytes where no such sequence starts. `Text.characters` gives
the characters, `Text.codePoint` the code point of one, or `none` for a stray byte.

White space is the Unicode property `White_Space`. `Text.trim` removes it at both ends, one
whole character at a time.
-/

namespace DocBlock.Text

/-- Whether a byte continues a UTF-8 sequence. -/
def isTail (b : UInt8) : Bool := 0x80 ≤ b && b ≤ 0xBF

/-- Whether two bytes are the UTF-8 form of one code point. -/
def isPair (a b : UInt8) : Bool := 0xC2 ≤ a && a ≤ 0xDF && isTail b

/-- Whether three bytes are the UTF-8 form of one code point; surrogates have none. -/
def isTriple (a b c : UInt8) : Bool :=
  ((a == 0xE0 && 0xA0 ≤ b && b ≤ 0xBF)
    || (0xE1 ≤ a && a ≤ 0xEF && a != 0xED && isTail b)
    || (a == 0xED && 0x80 ≤ b && b ≤ 0x9F))
    && isTail c

/-- Whether four bytes are the UTF-8 form of one code point. -/
def isQuadruple (a b c d : UInt8) : Bool :=
  ((a == 0xF0 && 0x90 ≤ b && b ≤ 0xBF)
    || (0xF1 ≤ a && a ≤ 0xF3 && isTail b)
    || (a == 0xF4 && 0x80 ≤ b && b ≤ 0x8F))
    && isTail c && isTail d

/-- The number of bytes of the first character: those of a well-formed UTF-8 sequence, or one for
a stray byte, and zero only for the empty text. -/
def firstWidth : Text → Nat
  | a :: b :: c :: d :: _ =>
    if isQuadruple a b c d then 4 else if isTriple a b c then 3 else if isPair a b then 2 else 1
  | [a, b, c] => if isTriple a b c then 3 else if isPair a b then 2 else 1
  | [a, b] => if isPair a b then 2 else 1
  | [_] => 1
  | [] => 0

/-- The first character of a text. -/
def firstCharacter (t : Text) : Text := t.take (firstWidth t)

/-- What follows the first character of a text. -/
def afterFirst (t : Text) : Text := t.drop (firstWidth t)

/-- The characters of a text. -/
def characters : Text → List Text
  | a :: b :: c :: d :: t =>
    if isQuadruple a b c d then [a, b, c, d] :: characters t
    else if isTriple a b c then [a, b, c] :: characters (d :: t)
    else if isPair a b then [a, b] :: characters (c :: d :: t)
    else [a] :: characters (b :: c :: d :: t)
  | [a, b, c] =>
    if isTriple a b c then [[a, b, c]]
    else if isPair a b then [[a, b], [c]]
    else [a] :: characters [b, c]
  | [a, b] => if isPair a b then [[a, b]] else [[a], [b]]
  | [a] => [[a]]
  | [] => []

/-- The code point of a character, or `none` for a stray byte. -/
def codePoint : Text → Option Nat
  | [a] => if a < 0x80 then some a.toNat else none
  | [a, b] => some ((a.toNat - 0xC0) * 64 + (b.toNat - 0x80))
  | [a, b, c] => some (((a.toNat - 0xE0) * 64 + (b.toNat - 0x80)) * 64 + (c.toNat - 0x80))
  | [a, b, c, d] =>
    some ((((a.toNat - 0xF0) * 64 + (b.toNat - 0x80)) * 64 + (c.toNat - 0x80)) * 64
      + (d.toNat - 0x80))
  | _ => none

/-- Whether a text holds no stray byte. -/
def isWellFormed (t : Text) : Bool := (characters t).all fun c => (codePoint c).isSome

/-- The UTF-8 form of a code point; a surrogate or a number beyond the last code point gives the
replacement character. -/
def ofCodePoint (n : Nat) : Text :=
  ofString (String.singleton (if n.isValidChar then Char.ofNat n else Char.ofNat 0xFFFD))

/-- The string a text reads as, with the replacement character for every stray byte. -/
def toString (t : Text) : String :=
  String.ofList ((characters t).map fun c => Char.ofNat ((codePoint c).getD 0xFFFD))

/-- A character, or the UTF-8 form of the replacement character in place of a stray byte. -/
def repairedCharacter (c : Text) : Text :=
  if (codePoint c).isSome then c else [0xEF, 0xBF, 0xBD]

/-- The text with the replacement character for every stray byte. -/
def repaired (t : Text) : Text := (characters t).flatMap repairedCharacter

/-- The code points with the Unicode property `White_Space`. -/
def isSpacePoint (n : Nat) : Bool :=
  (0x09 ≤ n && n ≤ 0x0D) || n == 0x20 || n == 0x85 || n == 0xA0 || n == 0x1680
    || (0x2000 ≤ n && n ≤ 0x200A) || n == 0x2028 || n == 0x2029 || n == 0x202F || n == 0x205F
    || n == 0x3000

/-- Whether a character is white space. -/
def isSpace (c : Text) : Bool := (codePoint c).any isSpacePoint

/-- The text without white space at its end. -/
def trimRight (t : Text) : Text := ((characters t).reverse.dropWhile isSpace).reverse.flatten

/-- The text without white space at both ends. -/
def trim (t : Text) : Text :=
  (((characters t).dropWhile isSpace).reverse.dropWhile isSpace).reverse.flatten

/-- Whether a text holds only white space. -/
def isBlank (t : Text) : Bool := (characters t).all isSpace

end DocBlock.Text
