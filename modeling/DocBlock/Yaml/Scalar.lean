import DocBlock.Text.Quoted

/-!
# YAML scalars

A string can be written without quotes unless it would be read as something else: a truth value, a
number, a timestamp, or the start of a structure. `Yaml.needsQuotes` tells which strings those are.
-/

namespace DocBlock.Yaml

/-- The words that are read as a truth value or as null. -/
def keywords : List Text :=
  ["null", "Null", "NULL", "~", "true", "True", "TRUE", "false", "False", "FALSE",
    "y", "Y", "yes", "Yes", "YES", "n", "N", "no", "No", "NO",
    "on", "On", "ON", "off", "Off", "OFF"]

/-- A text without the byte that it starts with, if it starts with it. -/
def dropLeading (b : UInt8) (t : Text) : Text := if t.head? == some b then t.tail else t

/-- Whether a text is one or more digits of a base. -/
def isNatural (base : Nat) (t : Text) : Bool :=
  !t.isEmpty && t.all fun b => Byte.isHexDigit b && Byte.hexValue b < base

/-- Whether a text is an exponent: nothing, or an `e` with a whole number after it. -/
def isExponent : Text → Bool
  | [] => true
  | b :: t => Byte.toLower b == 'e' && isNatural 10 (dropLeading '-' t)
    || Byte.toLower b == 'e' && isNatural 10 (dropLeading '+' t)

/-- Whether a text is a decimal fraction: digits on at least one side of a point, and an
exponent. -/
def isFraction (t : Text) : Bool :=
  match Text.cut "." t with
  | none => false
  | some (whole, rest) =>
    let part := rest.takeWhile Byte.isDigit
    whole.all Byte.isDigit && !(whole.isEmpty && part.isEmpty)
      && isExponent (rest.dropWhile Byte.isDigit)

/-- Whether a text is a decimal fraction, with a sign in front of it or not. -/
def isSignedFraction (t : Text) : Bool :=
  isFraction (dropLeading '-' t) || isFraction (dropLeading '+' t)

/-- Whether the digits of a number parse, once signs and underscores are gone. Where no sign makes
it negative, a fraction may have one more. -/
def isUnsigned (negative : Bool) (points : Nat) (t : Text) : Bool :=
  match ("0x" : Text).isPrefixOf? t, ("0o" : Text).isPrefixOf? t, ("0b" : Text).isPrefixOf? t with
  | some digits, _, _ => isNatural 16 digits
  | _, some digits, _ => isNatural 8 digits
  | _, _, some digits => isNatural 2 digits
  | none, none, none =>
    if t.head? == some '0' && 1 < t.length && points == 0 then isNatural 8 t
    else if points == 1 then (if negative then isFraction t else isSignedFraction t)
    else isNatural 10 t

/-- Whether a string would be read as a number. -/
def isNumber (t : Text) : Bool :=
  let points := t.count ('.' : UInt8)
  t.head? != some '_' && points ≤ 1
    && isUnsigned (t.head? == some '-') points
      ((dropLeading '-' (dropLeading '+' t)).filter (· != '_'))

/-- A number of two digits below `bound` at the start of a text, and what follows. -/
def twoDigits? (bound : Nat) : Text → Option (Nat × Text)
  | a :: b :: t =>
    let n := Byte.hexValue a * 10 + Byte.hexValue b
    if Byte.isDigit a && Byte.isDigit b && n < bound then some (n, t) else none
  | _ => none

/-- A number of one or two digits below `bound` at the start of a text, and what follows. -/
def oneOrTwoDigits? (bound : Nat) (t : Text) : Option (Nat × Text) :=
  match t with
  | a :: b :: rest =>
    if Byte.isDigit b then twoDigits? bound t
    else if Byte.isDigit a && Byte.hexValue a < bound then some (Byte.hexValue a, b :: rest)
    else none
  | [a] => if Byte.isDigit a && Byte.hexValue a < bound then some (Byte.hexValue a, []) else none
  | [] => none

/-- The number of days of a month. -/
def daysIn (year month : Nat) : Nat :=
  if month = 2 then (if year % 4 = 0 ∧ (year % 100 ≠ 0 ∨ year % 400 = 0) then 29 else 28)
  else if month = 4 ∨ month = 6 ∨ month = 9 ∨ month = 11 then 30
  else 31

/-- What follows a date of the form `2006-01-02`. -/
def afterDate? (t : Text) : Option Text := do
  let (century, rest) ← twoDigits? 100 t
  let (decade, rest) ← twoDigits? 100 rest
  let (month, rest) ← twoDigits? 13 (← ("-" : Text).isPrefixOf? rest)
  let (day, rest) ← twoDigits? 32 (← ("-" : Text).isPrefixOf? rest)
  guard (1 ≤ month ∧ 1 ≤ day ∧ day ≤ daysIn (century * 100 + decade) month)
  return rest

/-- What follows a fraction of a second, if there is one. -/
def skipFraction : Text → Text
  | a :: b :: t =>
    if (a == '.' || a == ',') && Byte.isDigit b then t.dropWhile Byte.isDigit else a :: b :: t
  | t => t

/-- What follows a time of the form `15:04:05`, with or without a fraction. -/
def afterTime? (t : Text) : Option Text := do
  let (_, rest) ← oneOrTwoDigits? 24 t
  let (_, rest) ← twoDigits? 60 (← (":" : Text).isPrefixOf? rest)
  let (_, rest) ← twoDigits? 60 (← (":" : Text).isPrefixOf? rest)
  return skipFraction rest

/-- Whether a text is a time zone: `Z`, or a difference in hours and minutes. -/
def isZone (t : Text) : Bool :=
  match t with
  | [b] => b == 'Z'
  | sign :: rest =>
    let difference : Option Text := do
      let (_, rest) ← twoDigits? 25 rest
      let (_, rest) ← twoDigits? 61 (← (":" : Text).isPrefixOf? rest)
      return rest
    (sign == '+' || sign == '-') && difference == some []
  | [] => false

/-- Whether a text is hours and minutes. -/
def isClock (t : Text) : Bool :=
  let clock : Option Text := do
    let (_, rest) ← oneOrTwoDigits? 24 t
    let (_, rest) ← oneOrTwoDigits? 60 (← (":" : Text).isPrefixOf? rest)
    return rest
  clock == some []

/-- Whether a string would be read as a timestamp: a date, a date and a time with a space between
them, a date and a time with a zone, or hours and minutes. -/
def isTimestamp (t : Text) : Bool :=
  isClock t ||
    match afterDate? t with
    | none => false
    | some [] => true
    | some (b :: rest) =>
      match afterTime? rest with
      | none => false
      | some zone =>
        (b == ' ' && zone.isEmpty) || ((b == 'T' || b == 't') && isZone zone)

/-- The bytes that start a structure and so cannot start a plain string. -/
def isIndicator (b : UInt8) : Bool :=
  [('*' : UInt8), '&', '[', Byte.leftBrace, Byte.rightBrace, ']', ',', '!', '|', '>', '%',
    Byte.apostrophe, Byte.quote, '@', ' ', Byte.backtick].contains b

/-- Whether a text holds something that ends a plain string: a number sign, a backslash, or a
colon or a hyphen before a space. -/
def holdsBreak : Text → Bool
  | [] => false
  | [b] => b == '#' || b == Byte.backslash
  | b :: c :: t =>
    b == '#' || b == Byte.backslash || ((b == ':' || b == '-') && c == ' ') || holdsBreak (c :: t)

/-- Whether a string must be quoted. -/
def needsQuotes (t : Text) : Bool :=
  t.isEmpty || keywords.contains t || isNumber t || t == "-" || t.head?.any isIndicator
    || t.getLast? == some ':' || t.getLast? == some ' ' || isTimestamp t || holdsBreak t

end DocBlock.Yaml
