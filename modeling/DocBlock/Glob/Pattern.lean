import DocBlock.Text.Character

/-!
# Patterns

A pattern stands for the paths of files. Between slashes, a star stands for any characters, a
question mark for one, a class in square brackets for one of several, and alternatives in curly
brackets for any of them; a backslash takes away the meaning of what follows it. Alternatives may
hold slashes. An element that is a double star stands for any number of folders.
-/

namespace DocBlock.Glob

/-- Whether a byte has a meaning in patterns, so that a text with it is one. -/
def isMeta (b : UInt8) : Bool := b == '*' || b == '?' || b == '[' || b == Byte.leftBrace

/-- Where in a pattern a check stands. -/
inductive Spot where
  /-- Outside classes. -/
  | plain
  /-- After a backslash outside classes. -/
  | escaped
  /-- At the start of a class. -/
  | classStart
  /-- After the mark that negates a class. -/
  | classNegated
  /-- Inside a class. -/
  | inClass
  /-- After a backslash in a class. -/
  | classEscaped
  deriving DecidableEq, Repr

/-- Whether a pattern is well formed from a spot on, with so many alternatives open: classes are
closed and not empty, curly brackets match, and no backslash stands at the end. -/
def isValidFrom : Spot → Nat → Text → Bool
  | .plain, depth, [] => depth == 0
  | _, _, [] => false
  | .plain, depth, b :: t =>
    if b = Byte.backslash then isValidFrom .escaped depth t
    else if b = '[' then isValidFrom .classStart depth t
    else if b = Byte.leftBrace then isValidFrom .plain (depth + 1) t
    else if b = Byte.rightBrace then depth != 0 && isValidFrom .plain (depth - 1) t
    else isValidFrom .plain depth t
  | .escaped, depth, _ :: t => isValidFrom .plain depth t
  | .classStart, depth, b :: t =>
    if b = '^' || b = '!' then isValidFrom .classNegated depth t
    else if b = ']' then false
    else if b = Byte.backslash then isValidFrom .classEscaped depth t
    else isValidFrom .inClass depth t
  | .classNegated, depth, b :: t =>
    if b = ']' then false
    else if b = Byte.backslash then isValidFrom .classEscaped depth t
    else isValidFrom .inClass depth t
  | .inClass, depth, b :: t =>
    if b = ']' then isValidFrom .plain depth t
    else if b = Byte.backslash then isValidFrom .classEscaped depth t
    else isValidFrom .inClass depth t
  | .classEscaped, depth, _ :: t => isValidFrom .inClass depth t

/-- Whether a pattern is well formed. -/
def isValid (pattern : Text) : Bool := isValidFrom .plain 0 pattern

/-- A pattern cut at its first alternatives: what comes before them, the alternatives, and what
comes after. -/
structure Group where
  /-- The text before the opening bracket. -/
  before : Text
  /-- The alternatives. -/
  choices : List Text
  /-- The text after the closing bracket. -/
  after : Text

/-- The text before the first opening curly bracket, and the text after it. -/
def cutOpening : Text → Option (Text × Text)
  | [] => none
  | [b] => if b = Byte.leftBrace then some ([], []) else none
  | b :: c :: t =>
    if b = Byte.backslash then (cutOpening t).map fun p => (b :: c :: p.1, p.2)
    else if b = Byte.leftBrace then some ([], c :: t)
    else (cutOpening (c :: t)).map fun p => (b :: p.1, p.2)

/-- The alternatives up to the closing bracket, and the text after it, with so many inner
alternatives open. -/
def cutChoices : Nat → Text → Option (List Text × Text)
  | _, [] => none
  | depth, [b] => if b = Byte.rightBrace && depth = 0 then some ([[]], []) else none
  | depth, b :: c :: t =>
    if b = Byte.backslash then
      (cutChoices depth t).map fun p => (Text.consFirst b (Text.consFirst c p.1), p.2)
    else if b = Byte.rightBrace && depth = 0 then some ([[]], c :: t)
    else if b = ',' && depth = 0 then (cutChoices 0 (c :: t)).map fun p => ([] :: p.1, p.2)
    else
      let depth :=
        if b = Byte.leftBrace then depth + 1 else if b = Byte.rightBrace then depth - 1 else depth
      (cutChoices depth (c :: t)).map fun p => (Text.consFirst b p.1, p.2)

/-- The first alternatives of a pattern. -/
def firstGroup? (pattern : Text) : Option Group := do
  let (before, inner) ← cutOpening pattern
  let (choices, after) ← cutChoices 0 inner
  return ⟨before, choices, after⟩

/-- The patterns that result when the alternatives accepted by `p` are written out one by one.
The first argument bounds the number of alternatives. -/
def expandWhere (p : List Text → Bool) : Nat → Text → List Text
  | 0, pattern => [pattern]
  | fuel + 1, pattern =>
    match firstGroup? pattern with
    | none => [pattern]
    | some g =>
      if p g.choices then
        g.choices.flatMap fun choice => expandWhere p fuel (g.before ++ choice ++ g.after)
      else
        (expandWhere p fuel g.after).map fun rest =>
          g.before ++ [Byte.leftBrace] ++ Text.join "," g.choices ++ [Byte.rightBrace] ++ rest

/-- The patterns that result when alternatives with a slash in them are written out. -/
def expandFolders (pattern : Text) : List Text :=
  expandWhere (·.any (Text.contains "/")) pattern.length pattern

/-- The patterns that result when all alternatives are written out. -/
def expand (pattern : Text) : List Text := expandWhere (fun _ => true) pattern.length pattern

/-- A part of a pattern for one character or more. -/
inductive Atom where
  /-- The character itself. -/
  | character (c : Text)
  /-- Any one character. -/
  | anyOne
  /-- Any characters. -/
  | anyMany
  /-- One character from the ranges of code points, or one from outside of them. -/
  | oneOf (negated : Bool) (ranges : List (Nat × Nat))
  deriving Repr

/-- The code point of a character, for comparison with ranges. -/
def pointOf (c : Text) : Nat := (Text.codePoint c).getD 0xFFFD

/-- The characters of a class up to its closing bracket, each with whether a backslash stands
before it, and the characters after the bracket. -/
def classMembers : List Text → List (Text × Bool) × List Text
  | [] => ([], [])
  | [c] => if c = "]" then ([], []) else ([(c, false)], [])
  | c :: d :: rest =>
    if c = "]" then ([], d :: rest)
    else if c = [Byte.backslash] then
      let later := classMembers rest
      ((d, true) :: later.1, later.2)
    else
      let later := classMembers (d :: rest)
      ((c, false) :: later.1, later.2)

/-- The ranges of code points that the characters of a class stand for: a hyphen between two
characters makes them the ends of a range. -/
def classRanges : List (Text × Bool) → List (Nat × Nat)
  | (low, _) :: (hyphen, escaped) :: (high, h) :: rest =>
    if hyphen = "-" && !escaped then (pointOf low, pointOf high) :: classRanges rest
    else (pointOf low, pointOf low) :: classRanges ((hyphen, escaped) :: (high, h) :: rest)
  | (c, _) :: rest => (pointOf c, pointOf c) :: classRanges rest
  | [] => []

/-- The parts of a pattern without alternatives, from its characters. The first argument bounds
their number. -/
def atoms : Nat → List Text → List Atom
  | 0, _ => []
  | _, [] => []
  | fuel + 1, c :: rest =>
    if c = "*" then .anyMany :: atoms fuel rest
    else if c = "?" then .anyOne :: atoms fuel rest
    else if c = [Byte.backslash] then
      match rest with
      | [] => [.character c]
      | d :: rest => .character d :: atoms fuel rest
    else if c = "[" then
      let negated := rest.head? == some "^" || rest.head? == some "!"
      let class_ := classMembers (if negated then rest.tail else rest)
      .oneOf negated (classRanges class_.1) :: atoms fuel class_.2
    else .character c :: atoms fuel rest

/-- The parts of a pattern without alternatives. -/
def atomsOf (pattern : Text) : List Atom :=
  let characters := Text.characters pattern
  atoms characters.length characters

/-- The ends of a list, from the whole to nothing. -/
def suffixes {α : Type} : List α → List (List α)
  | [] => [[]]
  | a :: rest => (a :: rest) :: suffixes rest

/-- Whether the characters of a name match. -/
def matchesAtoms : List Atom → List Text → Bool
  | [], name => name.isEmpty
  | .anyMany :: pattern, name => (suffixes name).any (matchesAtoms pattern)
  | _ :: _, [] => false
  | .anyOne :: pattern, _ :: name => matchesAtoms pattern name
  | .character c :: pattern, d :: name => c == d && matchesAtoms pattern name
  | .oneOf negated ranges :: pattern, d :: name =>
    (ranges.any fun r => r.1 ≤ pointOf d && pointOf d ≤ r.2) != negated
      && matchesAtoms pattern name

/-- Whether a name matches an element of a pattern. -/
def matchesName (element name : Text) : Bool :=
  (expand element).any fun pattern => matchesAtoms (atomsOf pattern) (Text.characters name)

end DocBlock.Glob
