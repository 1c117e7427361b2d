/-!
Slash-separated paths as text: their components, their parent, and joining.
-/

namespace Muster.Path

/-- The pieces between slashes, empty ones included. -/
def splitFrom (current : List Char) : List Char → List (List Char)
  | [] => [current.reverse]
  | '/' :: rest => current.reverse :: splitFrom [] rest
  | c :: rest => splitFrom (c :: current) rest

def pieces (path : String) : List String := (splitFrom [] path.toList).map String.ofList

def isAbsolute (path : String) : Bool := path.toList.head? = some '/'

/-- The path without the slashes at its end; one of slashes alone stays as it is. -/
def withoutFinalSlashes (path : String) : String :=
  let kept := (path.toList.reverse.dropWhile (· = '/')).reverse
  if kept.isEmpty then path else String.ofList kept

/-- Pieces that name something: neither empty nor a dot, except a dot that leads the path. -/
def components (path : String) : List String :=
  (pieces path).zipIdx.filterMap fun (piece, index) =>
    if piece = "" || (piece = "." && index ≠ 0) then none else some piece

/-- How many pieces reach up to the component before the last. -/
def parentLength (path : String) : Option Nat :=
  let named := (pieces path).zipIdx.filter fun (piece, index) =>
    !(piece = "" || (piece = "." && index ≠ 0))
  match named.reverse with
  | [] => none
  | [_] => some 0
  | _ :: (_, index) :: _ => some (index + 1)

/-- The path without its last component; the root and the empty path have no parent. -/
def parent? (path : String) : Option String :=
  (parentLength path).map fun count =>
    if count = 0 then (if isAbsolute path then "/" else "")
    else "/".intercalate ((pieces path).take count)

/-- A relative path read from inside a directory. -/
def join (directory path : String) : String :=
  if isAbsolute path || directory = "" then path
  else if directory.toList.getLast? = some '/' then directory ++ path
  else directory ++ "/" ++ path

end Muster.Path
