import DocBlock.Markdown.Inline
import DocBlock.Text.Punctuation

/-!
# Addresses in text

Addresses that link themselves: between angle brackets any address with a scheme and any mail
address, and in plain text those that start with `http://`, `https://`, `www.`, `mailto:` or
`xmpp:`, and mail addresses. Punctuation after an address in plain text is not part of it.
-/

namespace DocBlock.Markdown.Autolink

/-- A link whose text is its address or a part of it. -/
def linkTo (url text : Text) : Inline := .link ⟨url, []⟩ [.plain text]

/-! ## Between angle brackets -/

/-- Whether a byte can stand in a scheme after its first letter. -/
def isSchemeByte (b : UInt8) : Bool :=
  Byte.isAlphanumeric b || b == '+' || b == '.' || b == '-'

/-- Whether a byte can stand in an address between angle brackets. -/
def isAddressByte (b : UInt8) : Bool := ' ' < b && b != '<' && b != '>'

/-- Read an address with a scheme up to the closing angle bracket. A scheme has 2 to 32 bytes. -/
def readUri? (t : Text) : Option (Inline × Text) := do
  let scheme := t.takeWhile isSchemeByte
  let afterColon ← (":" : Text).isPrefixOf? (t.drop scheme.length)
  let rest ← (">" : Text).isPrefixOf? (afterColon.dropWhile isAddressByte)
  if scheme.head?.any Byte.isLetter && 2 ≤ scheme.length && scheme.length ≤ 32 then
    let address := scheme ++ ":" ++ afterColon.takeWhile isAddressByte
    return (linkTo address address, rest)
  else none

/-- Whether a byte can stand before the at sign of a mail address. -/
def isUserByte (b : UInt8) : Bool :=
  Byte.isAlphanumeric b
    || (Byte.isPunctuation b && !List.elem b (Text.ofString "\"(),:;<>@[\\]"))

/-- Whether a byte can stand in an element of a domain. -/
def isDomainByte (b : UInt8) : Bool := Byte.isAlphanumeric b || b == '-'

/-- Whether a text is an element of a domain: at most 63 letters, digits and hyphens, with no hyphen
at either end. -/
def isDomainElement (t : Text) : Bool :=
  t.length ≤ 63 && t.head?.any Byte.isAlphanumeric && t.getLast?.any Byte.isAlphanumeric
    && t.all isDomainByte

/-- Read a mail address up to the closing angle bracket. -/
def readMail? (t : Text) : Option (Inline × Text) := do
  let user := t.takeWhile isUserByte
  let afterAt ← ("@" : Text).isPrefixOf? (t.drop user.length)
  let domain := afterAt.takeWhile fun b => isDomainByte b || b == '.'
  let rest ← (">" : Text).isPrefixOf? (afterAt.drop domain.length)
  if !user.isEmpty && (Text.splitWhere (· == '.') domain).all isDomainElement then
    let address := user ++ "@" ++ domain
    return (linkTo ("mailto:" ++ address) address, rest)
  else none

/-- Read an address between angle brackets, after the opening one. -/
def readAngled? (t : Text) : Option (Inline × Text) := (readUri? t).or (readMail? t)

/-! ## In plain text -/

/-- Whether a byte can stand before the at sign of a mail address in plain text. -/
def isPlainUserByte (b : UInt8) : Bool := isDomainByte b || b == '_' || b == '+' || b == '.'

/-- Whether a byte can stand in a domain in plain text. -/
def isPlainDomainByte (b : UInt8) : Bool := isDomainByte b || b == '_' || b == '.'

/-- The domain of a mail address at the start of a text. It has a dot with something around it, and
no hyphen or underscore at its end; a dot at its end is not part of it. -/
def mailDomain? (t : Text) : Option Text :=
  let run := t.takeWhile isPlainDomainByte
  let domain := if run.getLast? == some '.' then run.dropLast else run
  let dots := domain.count ('.' : UInt8)
  if domain.getLast?.any (fun (b : UInt8) => b == '-' || b == '_') || domain.length < dots + 2 || dots = 0
  then none
  else some domain

/-- Read a mail address after a scheme: its text. -/
def mailAfter? (t : Text) : Option Text := do
  let user := t.takeWhile isPlainUserByte
  let domain ← mailDomain? (← ("@" : Text).isPrefixOf? (t.drop user.length))
  if user.isEmpty then none else some (user ++ "@" ++ domain)

/-- Read a `mailto:` address: its text. -/
def mailto? (t : Text) : Option Text := do
  return "mailto:" ++ (← mailAfter? (← ("mailto:" : Text).isPrefixOf? t))

/-- Read an `xmpp:` address, with the resource after a slash: its text. -/
def xmpp? (t : Text) : Option Text := do
  let inside ← ("xmpp:" : Text).isPrefixOf? t
  let address ← mailAfter? inside
  let resource :=
    match ("/" : Text).isPrefixOf? (inside.drop address.length) with
    | some rest => "/" ++ rest.takeWhile fun b => Byte.isAlphanumeric b || b == '@' || b == '.'
    | none => []
  return "xmpp:" ++ address ++ resource

/-- Whether a run of domain bytes is a domain: its last two elements hold no underscore. -/
def isPlainDomain (run : Text) : Bool :=
  !run.isEmpty
    && ((Text.splitWhere (· == '.') run).reverse.take 2).all fun (element : Text) =>
      !List.elem ('_' : UInt8) element

/-- The part of a text up to white space or an angle bracket. -/
def addressPart (t : Text) : Text :=
  ((Text.characters t).takeWhile fun c =>
    !((Text.codePoint c).any Text.Punctuation.isSeparator || c == "<")).flatten

/-- Whether a byte at the end of an address in plain text is not part of it. -/
def isTrailing (b : UInt8) : Bool := List.elem b (Text.ofString "?!.,:@_~*")

/-- An address, given from its end, without the semicolon, name and ampersand of a character
reference at its end. -/
def dropReference? (reversed : Text) : Option Text := do
  let inside ← (";" : Text).isPrefixOf? reversed
  let rest ← ("&" : Text).isPrefixOf? (inside.dropWhile Byte.isAlphanumeric)
  if inside.head?.any Byte.isAlphanumeric then some rest else none

/-- An address, given from its end, without the punctuation after it. `surplus` counts the closing
parentheses without a partner, and `least` is the least length. The first argument bounds the
number of steps. -/
def trimTrailing (least : Nat) : Nat → Nat → Text → Text
  | 0, _, reversed => reversed
  | bound + 1, surplus, reversed =>
    match reversed with
    | [] => []
    | b :: before =>
      if reversed.length ≤ least then reversed
      else if isTrailing b then trimTrailing least bound surplus before
      else if b = ')' && 0 < surplus then trimTrailing least bound (surplus - 1) before
      else
        match dropReference? reversed with
        | some shorter => trimTrailing least bound surplus shorter
        | none => reversed

/-- An address without the punctuation after it. -/
def trimmedAddress (least : Nat) (address : Text) : Text :=
  let surplus := address.count (')' : UInt8) - address.count ('(' : UInt8)
  (trimTrailing least address.length surplus address.reverse).reverse

/-- The domain and the path of an address at the start of a text. -/
def webAddress? (least : Nat) (t : Text) : Option (Text × Text) :=
  let run := t.takeWhile isPlainDomainByte
  if isPlainDomain run then some (run, trimmedAddress least (addressPart t)) else none

/-- Read an address with a scheme of the web: its text. -/
def http? (scheme t : Text) : Option Text := do
  let (_, address) ← webAddress? 1 (← scheme.isPrefixOf? t)
  return scheme ++ address

/-- Read an address that starts with `www.`: its text. After the domain only a path may follow. -/
def www? (t : Text) : Option Text := do
  let _ ← ("www." : Text).isPrefixOf? t
  let (domain, address) ← webAddress? 3 t
  let address :=
    if domain.length < address.length && (address.drop domain.length).head? != some '/' then domain
    else address
  if address.length < 3 then none else some address

/-- Read an address at the start of a text: its link and its text. Where `barred` says so, none
starts with `www.`. -/
def read? (barred : Bool) (t : Text) : Option (Inline × Text) :=
  let self (address : Text) : Inline × Text := (linkTo address address, address)
  (((http? "https://" t).or (http? "http://" t)).map self
    <|> (if barred then none else (www? t).map fun address =>
      (linkTo ("https://" ++ address) address, address)))
    <|> ((mailto? t).or (xmpp? t)).map self

/-- The bytes of a domain that was refused: no address starts inside it. -/
def refused (t : Text) : Nat :=
  if ("www." : Text).isPrefixOf t && !isPlainDomain (t.takeWhile isPlainDomainByte) then
    (t.takeWhile isPlainDomainByte).length
  else 0

/-- Plain text as a list of inline content, left out when it is empty. -/
def plainPart (reversed : Text) : List Inline :=
  if reversed.isEmpty then [] else [.plain reversed.reverse]

/-- The links in a plain text, and the text around them. The first argument counts bytes of a link
that are still to be skipped, the second those of a refused domain; the third is the text since the
last link, from its end. -/
def linkAfter : Nat → Nat → Text → Text → List Inline
  | _, _, seen, [] => plainPart seen
  | skip + 1, barred, seen, _ :: t => linkAfter skip (barred - 1) seen t
  | 0, barred, seen, b :: t =>
    let user := seen.takeWhile isPlainUserByte
    match if b = '@' && !user.isEmpty then mailDomain? t else none with
    | some domain =>
      let address := user.reverse ++ "@" ++ domain
      plainPart (seen.drop user.length)
        ++ linkTo ("mailto:" ++ address) address :: linkAfter domain.length (barred - 1) [] t
    | none =>
      match if seen.head?.any Byte.isLetter then none else read? (0 < barred) (b :: t) with
      | some (link, address) =>
        plainPart seen ++ link :: linkAfter (address.length - 1) (barred - 1) [] t
      | none =>
        let fresh := if seen.head?.any Byte.isLetter then 0 else refused (b :: t)
        linkAfter 0 (max barred fresh - 1) (b :: seen) t

/-- The links in a plain text, and the text around them. -/
def links (t : Text) : List Inline := linkAfter 0 0 [] t

mutual

/-- Inline content with the addresses in its text linked. There is no link inside a link. -/
def apply : Inline → List Inline
  | .plain t => links t
  | .emphasis inner => [.emphasis (applyAll inner)]
  | .strong inner => [.strong (applyAll inner)]
  | .deleted inner => [.deleted (applyAll inner)]
  | other => [other]

/-- A list of inline content with the addresses in its text linked. -/
def applyAll : List Inline → List Inline
  | [] => []
  | x :: xs => apply x ++ applyAll xs

end

end DocBlock.Markdown.Autolink
