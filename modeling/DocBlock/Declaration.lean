import DocBlock.Text.Character

/-!
# Declarations

The first line of the code after a comment often declares what the comment documents. A
declaration is inferred by the first of seven rules that accepts the line:

* `function N (` and `var N = function` declare a function;
* `K.prototype.N = function` and `R.N = function` declare a method;
* `K.prototype.N = V` and `R.N = V` declare a property;
* `var N = V` declares a variable.

Spaces are free around `=` and before `(`. A value starts with neither white space nor a semicolon
and runs to the end of the line.
-/

namespace DocBlock

/-- What a member is assigned on. -/
inductive Owner where
  /-- The prototype of a constructor. -/
  | prototype (constructor : Text)
  /-- An object. -/
  | object (receiver : Text)
  deriving DecidableEq, Repr

/-- What a line of code declares. -/
inductive Declaration where
  /-- A named function. -/
  | function (name : Text)
  /-- A function assigned to a member. -/
  | method (owner : Owner) (name : Text)
  /-- A value assigned to a member. -/
  | property (owner : Owner) (name value : Text)
  /-- A value assigned to a variable. -/
  | binding (name value : Text)
  deriving DecidableEq, Repr

/-- The path of a member before its name, with the final dot. -/
def Owner.path : Owner → Text
  | .prototype constructor => constructor ++ ".prototype."
  | .object receiver => receiver ++ "."

namespace Declaration

/-- The declared name. -/
def name : Declaration → Text
  | function n | method _ n | property _ n _ | binding n _ => n

/-- The assigned value, empty for functions and methods. -/
def value : Declaration → Text
  | property _ _ v | binding _ v => v
  | function _ | method _ _ => []

/-- The constructor on whose prototype the declaration puts a member. -/
def constructor : Declaration → Text
  | method (.prototype k) _ | property (.prototype k) _ _ => k
  | _ => []

/-- The object on which the declaration puts a member. -/
def receiver : Declaration → Text
  | method (.object r) _ | property (.object r) _ _ => r
  | _ => []

/-- The word for the kind of a declaration. -/
def kind : Declaration → Text
  | function _ => "function"
  | method _ _ => "method"
  | property _ _ _ => "property"
  | binding _ _ => "declaration"

/-- The form a reader would use to name what is declared, such as `Foo.prototype.bar()`. -/
def display : Declaration → Text
  | function n => n ++ "()"
  | method o n => o.path ++ n ++ "()"
  | property o n _ => o.path ++ n
  | binding n _ => n

/-- An identifier at the start of a text, and what follows it. -/
def identifier? (t : Text) : Option (Text × Text) :=
  match t.takeWhile Byte.isWord with
  | [] => none
  | name => some (name, t.dropWhile Byte.isWord)

/-- What is assigned, if the text is an equals sign with spaces around it and an assigned part. -/
def assigned? (t : Text) : Option Text :=
  (("=" : Text).isPrefixOf? (Text.skipSpaces t)).map Text.skipSpaces

/-- Whether an assigned part starts with the word of a function expression. -/
def isFunction (t : Text) : Bool := ("function" : Text).isPrefixOf t

/-- The bytes that a value cannot start with. -/
def endsValue (b : UInt8) : Bool :=
  b == ' ' || b == '\t' || b == '\n' || b == 0x0C || b == '\r' || b == ';'

/-- The value of an assigned part, without white space at its end. -/
def value? : Text → Option Text
  | [] => none
  | b :: t => if endsValue b then none else some (Text.trimRight (b :: t))

/-- A member of a prototype at the start of a line, and what follows it. -/
def prototypeMember? (line : Text) : Option (Owner × Text × Text) := do
  let (constructor, rest) ← identifier? line
  let rest ← (".prototype." : Text).isPrefixOf? rest
  let (name, rest) ← identifier? rest
  return (.prototype constructor, name, rest)

/-- A member of an object at the start of a line, and what follows it. -/
def objectMember? (line : Text) : Option (Owner × Text × Text) := do
  let (receiver, rest) ← identifier? line
  let rest ← ("." : Text).isPrefixOf? rest
  let (name, rest) ← identifier? rest
  return (.object receiver, name, rest)

/-- The rule `function N (`. -/
def functionStatement? (line : Text) : Option Declaration := do
  let rest ← ("function " : Text).isPrefixOf? line
  let (name, rest) ← identifier? rest
  guard ((Text.skipSpaces rest).head? == some '(')
  return .function name

/-- The rule `var N = function`, where the space after `var` may be missing. -/
def functionVariable? (line : Text) : Option Declaration := do
  let rest ← ("var" : Text).isPrefixOf? line
  let (name, rest) ← identifier? (Text.skipSpaces rest)
  let right ← assigned? rest
  guard (isFunction right)
  return .function name

/-- The rule `… = function` for a member. -/
def method? (member? : Text → Option (Owner × Text × Text)) (line : Text) :
    Option Declaration := do
  let (owner, name, rest) ← member? line
  let right ← assigned? rest
  guard (isFunction right)
  return .method owner name

/-- The rule `… = V` for a member. -/
def property? (member? : Text → Option (Owner × Text × Text)) (line : Text) :
    Option Declaration := do
  let (owner, name, rest) ← member? line
  let value ← value? (← assigned? rest)
  return .property owner name value

/-- The rule `var N = V`. -/
def binding? (line : Text) : Option Declaration := do
  let rest ← ("var " : Text).isPrefixOf? line
  let (name, rest) ← identifier? (Text.skipSpaces rest)
  let value ← value? (← assigned? rest)
  return .binding name value

/-- The rules, in the order in which they are tried. -/
def rules : List (Text → Option Declaration) :=
  [functionStatement?, functionVariable?,
    method? prototypeMember?, property? prototypeMember?,
    method? objectMember?, property? objectMember?,
    binding?]

/-- What the first line of a code text declares. -/
def infer? (code : Text) : Option Declaration :=
  rules.findSome? fun rule => rule (Text.before "\n" code)

end Declaration

end DocBlock
