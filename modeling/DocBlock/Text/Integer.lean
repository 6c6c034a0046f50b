import DocBlock.Text.Basic

/-!
# Written integers

An integer is written with an optional sign, an optional base (`0x`, `0o` or a leading zero, `0b`)
and digits, between which single underscores may stand. Reading goes from left to right, so of a
digit that does not fit and a value that is too large the first decides.
-/

namespace DocBlock.Integer

/-- Why a text is not read as an integer. -/
inductive Fault where
  /-- It is not written as one. -/
  | malformed
  /-- It needs more than 64 bits. -/
  | outOfRange
  deriving DecidableEq, Repr

/-- The words for a fault. -/
def Fault.words : Fault → Text
  | malformed => "invalid syntax"
  | outOfRange => "value out of range"

/-- The base of a number without its sign, and its digits. -/
def baseAndDigits (t : Text) : Nat × Text :=
  match t with
  | a :: b :: c :: rest =>
    if a = '0' then
      if Byte.toLower b = 'b' then (2, c :: rest)
      else if Byte.toLower b = 'o' then (8, c :: rest)
      else if Byte.toLower b = 'x' then (16, c :: rest)
      else (8, b :: c :: rest)
    else (10, t)
  | a :: rest => if a = '0' then (8, rest) else (10, t)
  | [] => (10, t)

/-- The value of a digit, if the byte is one of the base. -/
def digit? (base : Nat) (b : UInt8) : Option Nat :=
  let value : Option Nat :=
    if Byte.isDigit b then some (b.toNat - 48)
    else if Byte.isLetter b then some ((Byte.toLower b).toNat - 87)
    else none
  value.filter (· < base)

/-- The value of digits that follow digits of value `acc`. Underscores are passed over. -/
def digitsValue (base acc : Nat) : Text → Except Fault Nat
  | [] => .ok acc
  | b :: t =>
    if b = '_' then digitsValue base acc t
    else
      match digit? base b with
      | none => .error .malformed
      | some d =>
        if acc * base + d < 2 ^ 64 then digitsValue base (acc * base + d) t
        else .error .outOfRange

/-- Whether each underscore stands between two digits, where `afterDigit` tells whether a digit or
a base comes before the text. -/
def underscoresFit (afterDigit : Bool) : Text → Bool
  | [] => true
  | b :: t =>
    if b = '_' then
      afterDigit && t.head?.any (fun c => Byte.isAlphanumeric c) && underscoresFit false t
    else underscoresFit true t

/-- The absolute value of a number without its sign. -/
def magnitude (t : Text) : Except Fault Nat := do
  if t.isEmpty then throw .malformed
  let (base, digits) := baseAndDigits t
  let value ← digitsValue base 0 digits
  if underscoresFit (digits.length < t.length) digits then return value else throw .malformed

/-- Read an integer of 64 bits. -/
def read (t : Text) : Except Fault Int := do
  let signed := t.head? == some '-' || t.head? == some '+'
  let value ← magnitude (if signed then t.tail else t)
  if t.head? == some '-' then
    if value ≤ 0x8000000000000000 then return -(value : Int) else throw .outOfRange
  else if value < 0x8000000000000000 then return (value : Int)
  else throw .outOfRange

end DocBlock.Integer
