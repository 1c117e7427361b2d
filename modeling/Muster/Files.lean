import Muster.Files.Path

/-!
A tree of files under a working directory, with the failures that opening a path can meet.
-/

namespace Muster

inductive FileError
  | notFound
  | notADirectory
  | isADirectory
  | nulInName
deriving DecidableEq

def FileError.message : FileError → String
  | .notFound => "No such file or directory (os error 2)"
  | .notADirectory => "Not a directory (os error 20)"
  | .isADirectory => "Is a directory (os error 21)"
  | .nulInName => "file name contained an unexpected NUL byte"

inductive FileNode
  | file (content : ByteArray)
  | directory

/-- What lies below the working directory; the newest entry of a location counts. -/
structure Files where
  entries : List (List String × FileNode) := []

namespace Files

def node? (files : Files) (location : List String) : Option FileNode :=
  if location.isEmpty then some .directory
  else (files.entries.find? fun entry => entry.1 == location).map (·.2)

def set (files : Files) (location : List String) (node : FileNode) : Files :=
  ⟨(location, node) :: files.entries⟩

/-- A directory on the way: below the working directory, or beyond it where nothing is known. -/
inductive Place
  | inside (location : List String)
  | outside
deriving DecidableEq

/-- Steps from a directory into one of its directories. -/
def enter (files : Files) (place : Place) (piece : String) : Except FileError Place :=
  if piece = "" || piece = "." then .ok place
  else
    match place with
    | .outside => if piece = ".." then .ok .outside else .error .notFound
    | .inside location =>
      if piece = ".." then
        .ok (if location.isEmpty then .outside else .inside location.dropLast)
      else
        match files.node? (location ++ [piece]) with
        | some .directory => .ok (.inside (location ++ [piece]))
        | some (.file _) => .error .notADirectory
        | none => .error .notFound

/-- The directory that holds the last piece of a path, and that piece unless it is a directory
by its spelling. -/
def resolve (files : Files) (path : String) : Except FileError (Place × Option String) :=
  if path = "" then .error .notFound
  else if path.toList.contains '\x00' then .error .nulInName
  else do
    let pieces := Path.pieces path
    let start := if Path.isAbsolute path then Place.outside else .inside []
    let place ← pieces.dropLast.foldlM files.enter start
    match pieces.getLast? with
    | some last =>
      if last = "" || last = "." || last = ".." then return (← files.enter place last, none)
      else return (place, some last)
    | none => return (place, none)

def read (files : Files) (path : String) : Except FileError ByteArray := do
  match ← files.resolve path with
  | (_, none) => throw .isADirectory
  | (.outside, some _) => throw .notFound
  | (.inside location, some name) =>
    match files.node? (location ++ [name]) with
    | some (.file content) => return content
    | some .directory => throw .isADirectory
    | none => throw .notFound

/-- Opens a file for appending, creating it in an existing directory, and appends. A path that ends
in a slash stands for a directory, whatever its last name is. -/
def append (files : Files) (path : String) (content : ByteArray) : Except FileError Files := do
  let target ← files.resolve (Path.withoutFinalSlashes path)
  if path.toList.getLast? = some '/' then throw .isADirectory
  match target with
  | (_, none) => throw .isADirectory
  | (.outside, some _) => throw .notFound
  | (.inside location, some name) =>
    match files.node? (location ++ [name]) with
    | some (.file old) => return files.set (location ++ [name]) (.file (old ++ content))
    | some .directory => throw .isADirectory
    | none => return files.set (location ++ [name]) (.file content)

/-- Puts a file or directory at a path, with the directories above it. -/
def put (files : Files) (path : String) (node : FileNode) : Files :=
  let location := (Path.pieces path).filter fun piece => piece ≠ "" && piece ≠ "."
  let above := (List.range location.length).drop 1 |>.map location.take
  let files := above.foldl
    (fun files directory =>
      if (files.node? directory).isSome then files else files.set directory .directory) files
  files.set location node

end Files

end Muster
