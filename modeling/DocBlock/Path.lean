import DocBlock.Text.Character

/-!
# Paths

Slash-separated paths, resolved on their spelling alone: `Path.clean` gives the shortest path
with the same meaning, `Path.directory` the path of the folder that holds a file, and
`Path.beside` the path that a reference has when it is written in a file.
-/

namespace DocBlock.Path

/-- The elements of a path: the pieces between its slashes. -/
def elements (path : Text) : List Text := Text.splitWhere (· == '/') path

/-- Add an element to the resolved elements before it, which are listed from the last to the
first. An empty or single-dot element adds nothing, and a double dot takes one away when there is
one to take; it stays only at the start of a path that is not rooted. -/
def push (rooted : Bool) (resolved : List Text) (element : Text) : List Text :=
  if element = [] ∨ element = "." then resolved
  else if element = ".." then
    match resolved with
    | [] => if rooted then [] else [element]
    | last :: others => if last = ".." then element :: resolved else others
  else element :: resolved

/-- The resolved elements of a path, in order. -/
def resolved (path : Text) : List Text :=
  ((elements path).foldl (push (path.head? == some '/')) []).reverse

/-- The shortest path with the same meaning; a single dot for the empty path. -/
def clean (path : Text) : Text :=
  let body := Text.join "/" (resolved path)
  if path.head? == some '/' then '/' :: body
  else if body.isEmpty then "." else body

/-- The part of a path up to and including its last slash. -/
def folderPart (path : Text) : Text := Text.dropWhileRight (· != '/') path

/-- The path of the folder that holds a file. -/
def directory (path : Text) : Text := clean (folderPart path)

/-- Two paths joined by a slash, and cleaned. An empty first part is left out. -/
def joined (first second : Text) : Text :=
  if first.isEmpty then (if second.isEmpty then [] else clean second)
  else clean (first ++ "/" ++ second)

/-- The path that `reference` stands for in the file `path`. -/
def beside (path reference : Text) : Text := joined (directory path) reference

/-- Whether a path stays inside the folder it starts in: well-formed UTF-8 whose elements are
never empty, a dot or a double dot. The single dot names the folder itself. -/
def isLocal (path : Text) : Bool :=
  path == "." ||
    (Text.isWellFormed path && (elements path).all fun e => !(e == [] || e == "." || e == ".."))

end DocBlock.Path
