import DocBlock.Text.Printable

/-!
# Quoted text

A text in double quotation marks, written so that it can be read back: printable characters stand
for themselves, the others are escapes, and a stray byte is an escape of its own.
-/

namespace DocBlock.Text

/-- The letter of a short escape for a code point, if it has one. -/
def shortEscape? (n : Nat) : Option UInt8 :=
  if n = 0x07 then some 'a'
  else if n = 0x08 then some 'b'
  else if n = 0x0C then some 'f'
  else if n = 0x0A then some 'n'
  else if n = 0x0D then some 'r'
  else if n = 0x09 then some 't'
  else if n = 0x0B then some 'v'
  else none

/-- A byte as an escape of two hexadecimal digits. -/
def byteEscape (b : UInt8) : Text := Byte.backslash :: 'x' :: hexadecimal 2 b.toNat

/-- A code point as it is written between quotation marks `mark`; `c` is its own form. -/
def quotedPoint (mark : UInt8) (c : Text) (n : Nat) : Text :=
  if n = mark.toNat || n = 0x5C then Byte.backslash :: c
  else if Printable.isPrintable n then c
  else
    match shortEscape? n with
    | some letter => [Byte.backslash, letter]
    | none =>
      if n < 0x20 || n = 0x7F then byteEscape n.toUInt8
      else if n < 0x10000 then Byte.backslash :: 'u' :: hexadecimal 4 n
      else Byte.backslash :: 'U' :: hexadecimal 8 n

/-- A character as it is written between quotation marks. -/
def quotedCharacter (c : Text) : Text :=
  match codePoint c with
  | none => c.flatMap byteEscape
  | some n => quotedPoint Byte.quote c n

/-- A text in double quotation marks. -/
def quoted (t : Text) : Text :=
  [Byte.quote] ++ (characters t).flatMap quotedCharacter ++ [Byte.quote]

/-- The character whose code is a byte, in apostrophes. -/
def quotedByte (b : UInt8) : Text :=
  [Byte.apostrophe] ++ quotedPoint Byte.apostrophe (ofCodePoint b.toNat) b.toNat
    ++ [Byte.apostrophe]

end DocBlock.Text
