import Muster.Toml.Statement

/-!
TOML documents, read into JSON values: tables become objects and dates become objects with their
text. A key is assigned once, and a table is defined once.
-/

namespace Muster.Toml

/-- The root of a document so far, and the path of the header in force. -/
structure Document where
  root : Children := []
  current : List String := []

namespace Document

/-- Follows a header: its parents first, then its last key. -/
def openAt (f : String → Children → Option Children) (d : Document) (path : List String) :
    Option Document :=
  path.getLast?.bind fun key =>
    (d.root.within (f key) path.dropLast).map fun root => ⟨root, path⟩

def apply (d : Document) : Statement → Option Document
  | .table path => d.openAt Children.openTable path
  | .element path => d.openAt Children.openElement path
  | .assign path value =>
    (d.root.within (Children.assign value path) d.current).map fun root => { d with root }

end Document

/-- The value of a TOML document. -/
def parse? (text : String) : Option Json := do
  let statements ← statements? (← tokens? text)
  let document ← statements.foldlM Document.apply {}
  return document.root.toJson

end Muster.Toml
