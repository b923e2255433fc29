/-!
# Paths

A path is a text. Its segments are the names between the slashes; empty segments and single dots
mean nothing, except that a single dot at the very beginning counts as a component of its own.
-/

namespace PackageRisk.Path

/-- The pieces of a text between slashes. -/
def splitSlashes : List Char → List (List Char)
  | [] => [[]]
  | c :: rest =>
    if c = '/' then [] :: splitSlashes rest
    else
      match splitSlashes rest with
      | [] => [[c]]
      | piece :: pieces => (c :: piece) :: pieces

/-- The pieces of a path, in order. -/
def pieces (path : String) : List String := (splitSlashes path.toList).map String.ofList

/-- The path begins at the root. -/
def isAbsolute (path : String) : Bool := path.toList.head? = some '/'

/-- The path ends with a slash, so that it can only name a directory. -/
def endsWithSlash (path : String) : Bool := path.toList.getLast? = some '/'

/-- A piece that is a component of its path, given its place among the pieces. -/
def isComponent (index : Nat) (piece : String) : Bool :=
  piece ≠ "" && (piece ≠ "." || index = 0)

/-- The path without its last component; none for the root and for the empty path. -/
def parent? (path : String) : Option String :=
  let all := pieces path
  let places := (all.zipIdx.filter fun (piece, index) ↦ isComponent index piece).map (·.2)
  match places.reverse with
  | [] => none
  | [_] => some (if isAbsolute path then "/" else "")
  | _ :: previous :: _ => some ("/".intercalate (all.take (previous + 1)))

/-- The path of a name in a directory. -/
def join (directory name : String) : String :=
  if directory = "" || endsWithSlash directory then directory ++ name
  else directory ++ "/" ++ name

end PackageRisk.Path
